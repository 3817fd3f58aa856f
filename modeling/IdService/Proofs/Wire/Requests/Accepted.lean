import IdService.Proofs.Wire.Frames

/-! # The requests that are accepted

A decoder gives a request exactly if its buffer starts with frames without a command and then a
frame with that request, and it keeps what stands behind. So the frame is the only one: no other
reading of the buffer gives another request or another rest.
-/

namespace IdService.Wire.RequestDecoder

theorem next_eq_item_iff {limits : Limits} {buffer : Bytes} {request : Request}
    {d' : RequestDecoder} :
    ({ limits, buffer } : RequestDecoder).next = (.item request, d') ↔
      ∃ (skipped : List Bytes) (frame rest : Bytes), buffer = skipped.flatten ++ frame ++ rest ∧
        (∀ s ∈ skipped, Skippable limits s) ∧ CommandFrame limits request.parts frame ∧
        d' = { limits, buffer := rest } := by
  constructor
  · intro found
    obtain ⟨skipped, behind, form, all, comes⟩ := next_comes limits buffer
    rw [found] at comes
    cases comes with
    | @takes _ frame rest split command =>
        refine ⟨skipped, frame, rest, ?_, all, command, rfl⟩
        rw [form, split, List.append_assoc]
  · rintro ⟨skipped, frame, rest, rfl, all, command, rfl⟩
    rw [List.append_assoc, next_skipped all, command.next]

end IdService.Wire.RequestDecoder

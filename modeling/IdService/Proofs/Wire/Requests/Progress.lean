import IdService.Proofs.Wire.Frames

/-! # Decoders that have waited

A decoder that has waited has kept its progress and dropped what it has passed over. It goes on like
one that is given the bytes it still holds and nothing else. So the bytes that a request takes from
it are enough for the request, and they leave a new decoder with nothing.
-/

namespace IdService.Wire.RequestDecoder

variable {d d' : RequestDecoder}

/-- Only the bytes it holds tell a decoder from a new one, whatever bytes follow. -/
structure Unmarked (d : RequestDecoder) : Prop where
  valid : d.Valid
  alike : ∀ more, (d.append more).next =
    ({ limits := d.limits, buffer := d.buffer ++ more } : RequestDecoder).next

namespace Unmarked

theorem fresh (limits : Limits) (buffer : Bytes) :
    ({ limits, buffer } : RequestDecoder).Unmarked where
  valid := by rintro p ⟨⟩
  alike _ := rfl

theorem append (unmarked : d.Unmarked) (chunk : Bytes) : (d.append chunk).Unmarked where
  valid := unmarked.valid.append chunk
  alike more := by
    rw [resumes.append_append, unmarked.alike]
    simp only [RequestDecoder.append, List.append_assoc]

theorem next_eq (unmarked : d.Unmarked) :
    d.next = ({ limits := d.limits, buffer := d.buffer } : RequestDecoder).next := by
  have alike := unmarked.alike []
  rwa [resumes.append_nil, List.append_nil] at alike

theorem waiting (unmarked : d.Unmarked) (found : d.next = (.waiting, d')) :
    d'.limits = d.limits ∧ d'.Unmarked := by
  have valid := resumes.valid_next unmarked.valid
  have onward := resumes.waiting unmarked.valid found
  rw [found] at valid
  obtain ⟨skipped, rest, form, all, comes⟩ := next_comes d.limits d.buffer
  rw [← unmarked.next_eq, found] at comes
  cases comes with
  | waits progress =>
      refine ⟨rfl, valid, fun more => ?_⟩
      rw [← onward, unmarked.alike, form, List.append_assoc, next_skipped all]

theorem item {request : Request} (unmarked : d.Unmarked) (found : d.next = (.item request, d')) :
    d' = { limits := d.limits, buffer := d'.buffer } ∧
      ∃ taken, d.buffer = taken ++ d'.buffer ∧
        ({ limits := d.limits, buffer := taken } : RequestDecoder).next =
          (.item request, { limits := d.limits }) := by
  obtain ⟨skipped, behind, form, all, comes⟩ := next_comes d.limits d.buffer
  rw [← unmarked.next_eq, found] at comes
  cases comes with
  | @takes _ frame rest split command =>
      refine ⟨rfl, skipped.flatten ++ frame, by rw [form, split, List.append_assoc], ?_⟩
      have alone := command.next []
      rw [List.append_nil] at alone
      rw [next_skipped all, alone]

end Unmarked
end IdService.Wire.RequestDecoder

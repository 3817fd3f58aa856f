import IdService.Proofs.Wire.Frames

/-! # Where chunks of requests are cut

A decoder that has been fed in chunks has found what it would have found in one. The exception is a
length line that is longer than may wait for its terminator: cut inside, it is refused, and whole it
is read like any other. So the cuts of a stream are unseen exactly if every such line is refused
when the stream comes in one chunk, too.
-/

namespace IdService.Wire

variable {limits : Limits}

/-! ## Frames one behind the other -/

namespace Frames

theorem append {requests others : List Request} {bytes more : Bytes}
    (frames : Frames limits requests bytes) (behind : Frames limits others more) :
    Frames limits (requests ++ others) (bytes ++ more) := by
  induction frames with
  | nil => exact behind
  | skip skippable _ ih =>
      rw [List.append_assoc]
      exact .skip skippable ih
  | command command _ ih =>
      rw [List.append_assoc]
      exact .command command ih

theorem of_skipped {skipped : List Bytes} (all : ∀ frame ∈ skipped, Skippable limits frame) :
    Frames limits [] skipped.flatten := by
  induction skipped with
  | nil => exact .nil
  | cons frame skipped ih =>
      obtain ⟨first, others⟩ := List.forall_mem_cons.mp all
      exact .skip first (ih others)

theorem feed {requests : List Request} {frames : Bytes} (carries : Frames limits requests frames)
    (rest : Bytes) :
    ({ limits } : RequestDecoder).feed (frames ++ rest) =
      (({ limits } : RequestDecoder).feed rest).prepend requests := by
  induction carries with
  | nil => rfl
  | skip skippable _ ih =>
      rw [← ih, List.append_assoc]
      exact drain_congr (skippable.next _)
  | command command _ ih =>
      rw [List.append_assoc]
      refine (drain_item (command.next _)).trans ?_
      exact congrArg (Drained.prepend [_]) ih

end Frames

/-- What has been given came from frames, and they are gone from the buffer. -/
theorem frames_of_yields {bytes : Bytes} {requests : List Request} {d d' : RequestDecoder}
    (yields : Yields RequestDecoder.next d requests d') (fresh : d = { limits, buffer := bytes }) :
    ∃ frames rest, bytes = frames ++ rest ∧ Frames limits requests frames ∧
      d' = { limits, buffer := rest } := by
  induction yields generalizing bytes with
  | done d => exact ⟨[], bytes, rfl, .nil, fresh⟩
  | item found _ ih =>
      subst fresh
      obtain ⟨skipped, behind, rfl, all, comes⟩ := next_comes limits bytes
      rw [found] at comes
      cases comes with
      | @takes _ frame rest form command =>
          obtain ⟨frames, rest', rfl, carries, last⟩ := ih rfl
          refine ⟨skipped.flatten ++ (frame ++ frames), rest', ?_, ?_, last⟩
          · rw [form]
            simp only [List.append_assoc]
          · exact (Frames.of_skipped all).append (.command command carries)

/-- A decoder refuses a line for its length where one goes on for too long behind whole frames. -/
theorem feed_tooLong_iff {bytes : Bytes} {requests : List Request} :
    (({ limits } : RequestDecoder).feed bytes).items = requests ∧
        (({ limits } : RequestDecoder).feed bytes).fault = some .lengthLineTooLong ↔
      ∃ frames before line mark, bytes = frames ++ before ++ line ∧ Frames limits requests frames ∧
        BeforeLine limits before mark ∧ Overlong mark line := by
  constructor
  · rintro ⟨rfl, failed⟩
    obtain ⟨d', yields, ⟨-, waits⟩ | ⟨fault, found, same⟩⟩ :=
      @drain_cases _ _ RequestDecoder.next (·.buffer.length)
        (fun _ _ _ => RequestDecoder.length_next_lt) { limits, buffer := bytes }
    · exact absurd (failed.symm.trans waits) (by simp)
    · obtain rfl : fault = .lengthLineTooLong := Option.some.inj (same.symm.trans failed)
      obtain ⟨frames, rest, rfl, carries, rfl⟩ := frames_of_yields yields rfl
      obtain ⟨skipped, behind, rfl, all, comes⟩ := next_comes limits rest
      obtain ⟨last, refused⟩ : ∃ last, RequestDecoder.next _ = (.failed .lengthLineTooLong, last) :=
        ⟨_, found⟩
      rw [refused] at comes
      cases comes with
      | fails ended => exact absurd rfl ended
      | @tooLong before line mark form place overlong =>
          refine ⟨frames ++ skipped.flatten, before, line, mark, ?_, ?_, place, overlong⟩
          · rw [form]
            simp only [List.append_assoc]
          · have whole := carries.append (Frames.of_skipped all)
            rw [List.append_nil] at whole
            exact whole
  · rintro ⟨frames, before, line, mark, rfl, carries, place, overlong⟩
    rw [List.append_assoc, carries.feed]
    have failed : ({ limits } : RequestDecoder).feed (before ++ line) = _ :=
      drain_failed (place.next overlong)
    rw [failed]
    simp [Drained.prepend]

/-! ## Cuts -/

theorem cuts_unseen_iff (limits : Limits) (bytes : Bytes) :
    (∀ cs ds : List Bytes, cs.flatten = bytes → ds.flatten = bytes →
        SeenAlike (feedAll RequestDecoder.feed { limits } cs)
          (feedAll RequestDecoder.feed { limits } ds)) ↔
      ∀ requests frames before line after mark, bytes = frames ++ before ++ line ++ after →
        Frames limits requests frames → BeforeLine limits before mark → Overlong mark line →
        (({ limits } : RequestDecoder).feed bytes).items = requests ∧
          (({ limits } : RequestDecoder).feed bytes).fault.isSome := by
  rw [RequestDecoder.resumes.seenAlike_iff RequestDecoder.feed_eq_drain
    (RequestDecoder.valid_fresh limits) (RequestDecoder.next_fresh limits)]
  constructor
  · intro stands requests frames before line after mark form carries place overlong
    obtain ⟨given, failed⟩ :=
      feed_tooLong_iff.mpr ⟨frames, before, line, mark, rfl, carries, place, overlong⟩
    obtain ⟨items, fault⟩ := stands _ after form failed
    exact ⟨items.symm.trans given, by rw [← fault, failed]; rfl⟩
  · intro stands early later form failed
    obtain ⟨frames, before, line, mark, rfl, carries, place, overlong⟩ :=
      feed_tooLong_iff.mp ⟨rfl, failed⟩
    obtain ⟨items, fault⟩ := stands _ frames before line later mark form carries place overlong
    exact ⟨items.symm, by rw [failed, fault]; rfl⟩

/-- The start of a length line whose numeral is padded with zeros, longer than may wait. -/
def paddedStart : Bytes := Byte.ofAscii '*' :: List.replicate 40 (Byte.ofAscii '0')

/-- The end of that line, and the element that it announces. -/
def pingBehind : Bytes := Bytes.ofAscii "1\r\n$4\r\nPING\r\n"

/-- A cut inside the line is seen. -/
theorem paddedStart_cut_seen :
    ¬ SeenAlike (feedAll RequestDecoder.feed {} [paddedStart, pingBehind])
      (feedAll RequestDecoder.feed {} [paddedStart ++ pingBehind]) := by
  unfold SeenAlike
  decide +kernel

end IdService.Wire

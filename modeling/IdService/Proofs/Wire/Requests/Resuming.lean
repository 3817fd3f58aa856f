import IdService.Proofs.Wire.Scan

/-! # Arrays that arrive piece by piece

A scan for an array that runs out of bytes leaves its progress, and the scan of the longer buffer
goes on from there. What it has passed is settled: no byte that follows can move the end of a length
line, the size it announces or the terminator of a payload. So the progress leads to what a scan of
all the bytes from their start comes to, however many scans have left off in between.
-/

namespace IdService.Wire

/-- The progress that scans of a growing buffer have left. The first starts from nothing, and each
of the others from what the one before it has left. -/
inductive Leaves (limits : Limits) : Bytes → Option Progress → Prop where
  | first {bytes : Bytes} {progress : Option Progress}
      (scan : scanArray limits bytes none = .incomplete progress) : Leaves limits bytes progress
  | next {bytes more : Bytes} {earlier progress : Option Progress}
      (before : Leaves limits bytes earlier)
      (scan : scanArray limits (bytes ++ more) earlier = .incomplete progress) :
      Leaves limits (bytes ++ more) progress

variable {limits : Limits} {bytes : Bytes} {progress : Option Progress}

namespace Leaves

/-- A scan from the start: what it leaves leads to what it would have found in more bytes. -/
theorem onward_of_first (scan : scanArray limits bytes none = .incomplete progress) (more : Bytes) :
    scanArray limits (bytes ++ more) progress = scanArray limits (bytes ++ more) none ∧
      ∀ p, progress = some p → p.Fits bytes := by
  have stands : (scanArray limits bytes none).Stands bytes none (scanArray limits (bytes ++ more)) :=
    scanArray_stands more fun _ => rfl
  rwa [scan] at stands

theorem onward (leaves : Leaves limits bytes progress) (more : Bytes) :
    scanArray limits (bytes ++ more) progress = scanArray limits (bytes ++ more) none ∧
      ∀ p, progress = some p → p.Fits bytes := by
  induction leaves generalizing more with
  | first scan => exact onward_of_first scan more
  | @next bytes between earlier progress _ scan ih =>
      cases earlier with
      | none => exact onward_of_first scan more
      | some p =>
          obtain ⟨same, fits⟩ := ih (between ++ more)
          have stands : (scanArray limits (bytes ++ between) (some p)).Stands _ (some p)
              (scanArray limits (bytes ++ between ++ more)) :=
            scanElements_stands ((fits p rfl).append between) more fun _ => rfl
          rw [scan] at stands
          obtain ⟨resumed, fits'⟩ := stands
          refine ⟨?_, fits'⟩
          rw [List.append_assoc] at resumed ⊢
          exact resumed.trans same

end Leaves

/-- From the progress that scans of its front have left, a buffer is scanned as from its start. -/
theorem scanArray_resumes (leaves : Leaves limits bytes progress) (more : Bytes) :
    scanArray limits (bytes ++ more) progress = scanArray limits (bytes ++ more) none :=
  (leaves.onward more).1

/-- Three pieces of an array of two elements. The first cut is inside the first payload, and the
second between CR and LF behind the length of the other. -/
def arrayPieces : Bytes × Bytes × Bytes :=
  (Bytes.ofAscii "*2\r\n$4\r\nP\r", Bytes.ofAscii "\nG\r\n$2\r", Bytes.ofAscii "\nok\r\n*1")

theorem arrayPieces_resume :
    let (a, b, c) := arrayPieces
    ∃ p q, scanArray {} a none = .incomplete (some p) ∧ p.pos = 4 ∧
      scanArray {} (a ++ b) (some p) = .incomplete (some q) ∧ q.spans = #[⟨8, 12⟩] ∧
      scanArray {} (a ++ b ++ c) (some q) = scanArray {} (a ++ b ++ c) none ∧
      scanArray {} (a ++ b ++ c) none = .command 22 #[⟨8, 12⟩, ⟨18, 20⟩] := by
  have first : scanArray {} arrayPieces.1 none =
      .incomplete (some { count := 2, pos := 4, spans := #[] }) := by decide +kernel
  have next : scanArray {} (arrayPieces.1 ++ arrayPieces.2.1)
      (some { count := 2, pos := 4, spans := #[] }) =
      .incomplete (some { count := 2, pos := 14, spans := #[⟨8, 12⟩] }) := by decide +kernel
  exact ⟨_, _, first, rfl, next, rfl, scanArray_resumes (.next (.first first) next) arrayPieces.2.2,
    by decide +kernel⟩

end IdService.Wire

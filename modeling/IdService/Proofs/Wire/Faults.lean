import IdService.Proofs.Wire.Requests

/-! # Faults of requests

Whatever a decoder of requests refuses breaks the format. That a stream has ended too early is no
such fault, and it is found at the end of the stream only.
-/

namespace IdService.Wire

variable {limits : Limits} {fault : Fault}

private theorem lengthLine_protocol {input : Bytes} (refused : lengthLine input = .error fault) :
    fault.isProtocol := by
  unfold lengthLine at refused
  split at refused
  · split at refused <;> cases refused
    rfl
  · split at refused <;> cases refused
    rfl

private theorem scanPayload_protocol {header : Nat} {n : Int} {rest : Bytes}
    (refused : scanPayload limits header n rest = .error fault) : fault.isProtocol := by
  unfold scanPayload at refused
  split at refused
  · rename_i reason found
    cases refused
    rw [bulkSize_error found]
    rfl
  · split at refused
    · split at refused <;> cases refused
      rfl
    · cases refused

private theorem scanElement_protocol {input : Bytes}
    (refused : scanElement limits input = .error fault) : fault.isProtocol := by
  rcases scanElement_cases limits input with ⟨-, scan⟩ | ⟨mark, tail, -, -, scan⟩ | ⟨-, scan⟩ |
    ⟨tail, reason, -, line, scan⟩ | ⟨bytes, n, rest, -, -, scan⟩
  all_goals rw [scan] at refused
  · cases refused
  · cases refused
    rfl
  · cases refused
  · cases refused
    exact lengthLine_protocol line
  · exact scanPayload_protocol refused

private theorem scanElements_protocol {missing : Nat} {p : Progress} {rest : Bytes}
    (refused : scanElements limits missing p rest = .refused fault) : fault.isProtocol := by
  induction missing generalizing p rest with
  | zero => cases refused
  | succ missing ih =>
      unfold scanElements at refused
      split at refused
      · cases refused
        exact scanElement_protocol ‹_›
      · cases refused
      · exact ih refused

private theorem scanArray_protocol {buffer : Bytes} {progress : Option Progress}
    (refused : scanArray limits buffer progress = .refused fault) : fault.isProtocol := by
  unfold scanArray at refused
  split at refused
  · exact scanElements_protocol refused
  · split at refused
    · cases refused
      exact lengthLine_protocol ‹_›
    · cases refused
    · split at refused
      · cases refused
      · split at refused
        · exact scanElements_protocol refused
        · cases refused
          rfl

private theorem scanLine_protocol {buffer : Bytes}
    (refused : scanLine limits buffer = .refused fault) : fault.isProtocol := by
  unfold scanLine at refused
  split at refused
  · split at refused <;> cases refused
    rfl
  · split at refused
    · cases refused
      rfl
    · dsimp only at refused
      split at refused <;> cases refused

namespace RequestDecoder

variable {d d' : RequestDecoder}

theorem scan_protocol (refused : d.scan = .refused fault) : fault.isProtocol := by
  unfold scan at refused
  split at refused
  · cases refused
  · split at refused
    · exact scanArray_protocol refused
    · exact scanLine_protocol refused

theorem next_protocol (failed : d.next = (.failed fault, d')) : fault.isProtocol := by
  fun_induction next d with
  | case1 => cases failed
  | case2 d reason found =>
      cases failed
      exact scan_protocol found
  | case3 d n found ih => exact ih failed
  | case4 => cases failed
  | case5 d n spans found hollow ih => exact ih failed

end RequestDecoder

theorem Fault.message_eq (protocol : fault.isProtocol) :
    fault.message = "Protocol error: " ++ fault.reason := by
  rw [message, if_pos protocol]

end IdService.Wire

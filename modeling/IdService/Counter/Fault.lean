import IdService.Numeral

/-!
# Faults of counting

Why a counter, an allocator or a registry refuses an operation.
-/

namespace IdService

/-- The call of a store that has been told to fail. -/
inductive InjectedFailure where
  | increment (key : String)
  | drop (key : String)
deriving Repr, DecidableEq

def InjectedFailure.message : InjectedFailure → String
  | increment key => "injected increment failure for `" ++ key ++ "`"
  | drop key => "injected drop failure for `" ++ key ++ "`"

inductive CounterFault where
  | missing (key : String)
  /-- What is kept for the key is no counter value. -/
  | corrupt (key : String)
  /-- The counter would leave the integers of 64 bits. -/
  | overflow (key : String)
  | emptyKey
  | batchSize (n : Int64)
  | unavailable (failure : InjectedFailure)
deriving Repr, DecidableEq

def CounterFault.message : CounterFault → String
  | missing key => "counter for key `" ++ key ++ "` does not exist"
  | corrupt key => "counter for key `" ++ key ++ "` is corrupt"
  | overflow key => "counter for key `" ++ key ++ "` would overflow"
  | emptyKey => "key is empty"
  | batchSize n => "batch size must be positive, got " ++ Numeral.text n.toInt
  | unavailable failure => "store unavailable: " ++ failure.message

/-- Why an operation ends without a result: it is refused, or the store crashes under it. -/
inductive Halt where
  | fault (fault : CounterFault)
  | crash
deriving Repr, DecidableEq

end IdService

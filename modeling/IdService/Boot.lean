import IdService.Config.Startup
import IdService.Service

/-!
# Starting a service

From a command line, an environment and a store to a running service: the saved settings are laid
over the configuration, and the known keys are taken up again.
-/

namespace IdService

inductive BootFault where
  | start (fault : StartFault)
  | counter (fault : CounterFault)
  | crash
deriving Repr, DecidableEq

/-- A service that has started: what became of the saved settings, and how many keys were taken up
again. -/
structure Booted where
  overrides : OverrideReport
  restored : Nat
  service : Service

section

variable [Patterns]

/-- The log filter of a configuration. -/
def Configuration.logFilter? (c : Configuration) : Option LogFilter :=
  match LogFilter.parse (Text.trim (c.value .logLevel)) with
  | .ok filter => some filter
  | .error _ => none

/-- Starts a service over a store, with a configuration. Allocators that somebody still holds keep
their numbers, but none of them is registered. Saved settings that are not read are left out. -/
def Service.start (config : Configuration) (store : Store) (allocators : Array Allocator) :
    Except CounterFault Booted × Store :=
  let (overrides, config) := config.overrideAll store.savedSettings
  match Registry.make config.batchSize with
  | .error fault => (.error fault, store)
  | .ok registry =>
    match ({ store, allocators, registry } : Issuer).restoreKnown with
    | (.error fault, issuer) => (.error fault, issuer.store)
    | (.ok restored, issuer) =>
      let settings := { config, filter := config.logFilter? }
      (.ok { overrides, restored, service := { issuer, settings } }, issuer.store)

/-- Starts a service from a command line and an environment. A crash at a saved setting comes before
anything else is done. -/
def Service.boot (processors : UInt64) (words : List Bytes)
    (environment : String → Option Bytes) (store : Store) (allocators : Array Allocator) :
    Except BootFault Booted × Store :=
  match Configuration.start processors words environment with
  | .error fault => (.error (.start fault), store)
  | .ok config =>
    if (config.overrideAll store.savedSettings).1.crashes then (.error .crash, store)
    else match Service.start config store allocators with
      | (.error fault, store) => (.error (.counter fault), store)
      | (.ok booted, store) => (.ok booted, store)

end

end IdService

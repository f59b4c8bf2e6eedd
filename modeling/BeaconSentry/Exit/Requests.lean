import BeaconSentry.Action
import BeaconSentry.Report

/-!
This module contains requests to exit, which the protocol announces on the execution layer, and the oracle
that knows them.
-/

namespace BeaconSentry
namespace Exit

open Beacon

structure ExitRequest where
  block : BlockNumber
  moduleIndex : UInt64
  operatorIndex : UInt64
  validator : ValidatorIndex
  deriving Repr, DecidableEq

structure ExitOracle (ω : Type) where
  /-- How many requests were processed up to a block. -/
  total : BlockNumber → Action ω Report UInt64
  /-- The requests of a closed range of blocks. -/
  requests : BlockNumber → BlockNumber → Action ω Report (List ExitRequest)

end Exit
end BeaconSentry

import BeaconSentry.Beacon.Basic
import BeaconSentry.Keys.Basic

/-!
This module contains the question whom a validator belongs to.
-/

namespace BeaconSentry
namespace Watch

open Beacon

inductive Owner where
  /-- To the operator of an owned key. -/
  | owned (key : NamedKey)
  /-- To somebody else. -/
  | other
  /-- The validator is not in the registry. -/
  | unknown
  deriving Repr, DecidableEq

def Owner.of (index : ValidatorIndex) (registry : Registry) (keys : OwnedKeys) : Owner :=
  match registry[index]? with
  | none => .unknown
  | some pubkey =>
    match keys.owner? pubkey with
    | some key => .owned key
    | none => .other

theorem Owner.of_eq_unknown_iff {index : ValidatorIndex} {registry : Registry} {keys : OwnedKeys} :
    Owner.of index registry keys = .unknown ↔ index ∉ registry := by
  rw [Std.TreeMap.mem_iff_isSome_getElem?, Owner.of]
  cases registry[index]? with
  | none => simp
  | some pubkey =>
    dsimp only
    cases keys.owner? pubkey <;> simp

end Watch
end BeaconSentry

import BeaconSentry.Watch.Settings
import BeaconSentry.Watch.State

/-!
This module contains the alerts about forks: reorganisations and heads that do not continue the heads that
were handled.
-/

namespace BeaconSentry
namespace Watch
namespace Fork

open Beacon

def reorgKind : AlertKind := ⟨"UnhandledChainReorg", .info⟩

def headKind : AlertKind := ⟨"UnhandledHead", .info⟩

def known? (heads : List Head) (root : String) : Option Head := heads.find? (·.root == root)

/--
Whether a reorganisation leads to a head that is known together with its parent; `heads` are the handled heads
and the current one.
-/
def isLinked (heads : List Head) (reorg : Reorg) : Bool :=
  (known? heads reorg.newHead).any fun head => (known? heads head.parentRoot).isSome

/--
The slots that a reorganisation affects, up to its own. There is no bound on their number: that the slots of a
reorganisation of huge depth do not fit into memory is not modelled.
-/
def affectedSlots (reorg : Reorg) : List Slot :=
  (List.range (reorg.slot.toNat + 1 - reorg.firstSlot.toNat)).map fun i =>
    reorg.firstSlot + UInt64.ofNat i

def reorgDraft (settings : Settings) (reorg : Reorg) : Draft :=
  let links := (affectedSlots reorg).map settings.links.slot
  .plain reorgKind "🔗\u200d🔀Unhandled slots after chain reorganization"
    (s!"Reorg depth is {reorg.depth} slots.\nPlease, check possible unhandled slots: " ++
      "\n".intercalate links)

/-- The draft about a head, where `missing` slots lie between the last handled head and this one. -/
def headDraft (settings : Settings) (head : Head) (missing : UInt64) : Draft :=
  .plain headKind "🔗\u200d🔀Unhandled head: parent block was not handled"
    (s!"Parent {head.parentRoot} of slot {settings.links.slot head.slot} is not among handled headers.\n" ++
      s!"Slots since the last handled one: {missing}")

def missingSlots (last slot : Slot) : Except Overflow UInt64 :=
  (Word.add last 1).map (Word.monus slot)

def headDrafts (settings : Settings) (handled : List Head) (head : Head) : Except Overflow (List Draft) :=
  match handled.getLast? with
  | none => .ok []
  | some last =>
    if (known? (handled ++ [head]) head.parentRoot).isSome then .ok []
    else (missingSlots last.slot head.slot).map fun missing => [headDraft settings head missing]

def unlinked (state : State) (head : Head) : List Reorg :=
  state.drainReorgs.1.filter (!isLinked (state.handled ++ [head]) ·)

/-- The drafts about the forks of a head. The parent of the head counts only if no reorganisation does. -/
def drafts (settings : Settings) (state : State) (head : Head) : Except Overflow (List Draft) :=
  match unlinked state head with
  | [] => headDrafts settings state.handled head
  | reorgs => .ok (reorgs.map (reorgDraft settings))

end Fork
end Watch
end BeaconSentry

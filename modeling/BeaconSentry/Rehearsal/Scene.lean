import BeaconSentry.Rehearsal.World

/-!
This module contains scenes, in which handlers are shown heads one by one while everything around them can be
changed.
-/

namespace BeaconSentry
namespace Rehearsal

open Beacon Watch

structure Scene where
  settings : Settings
  hasOracle : Bool
  handlers : List Handler
  state : State
  world : World

abbrev Results := List (String × Except Failure Unit)

namespace Scene

def consult.go (scene : Scene) (head : Head) : List Handler → State → World → Results × Scene
  | [], state, world => ([], { scene with handlers := [], state, world })
  | handler :: rest, state, world =>
    let action := Handler.handle (World.outlets scene.hasOracle) scene.settings World.now head
    let (result, desk) := action.run ⟨handler, state, world⟩
    let (results, scene) := go scene head rest desk.state desk.world
    ((handler.name, result) :: results, { scene with handlers := desk.handler :: scene.handlers })

/-- Let all handlers look at a head. The mailbox and the log of the oracle are emptied before. -/
def consult (scene : Scene) (head : Head) : Results × Scene :=
  let mailbox := { scene.world.mailbox with alerts := [] }
  let oracle := { scene.world.oracle with queries := [] }
  consult.go scene head scene.handlers scene.state { scene.world with mailbox, oracle }

def handle (scene : Scene) (head : Head) : Results × Scene :=
  let (results, scene) := scene.consult head
  if results.all (·.2.isOk) then (results, { scene with state := scene.state.pushHandled head })
  else (results, scene)

end Scene
end Rehearsal
end BeaconSentry

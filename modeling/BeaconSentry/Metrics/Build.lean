import BeaconSentry.Json.Decode

/-!
This module contains what is known of the build of the watcher.
-/

namespace BeaconSentry

open Json

structure BuildInfo where
  version : String
  branch : String
  commit : String
  deriving Repr, DecidableEq

namespace BuildInfo

def unknown : String := "unknown"

def ownVersion : String := "0.1.0"

def default : BuildInfo := ⟨ownVersion, unknown, unknown⟩

def decode : Decoder BuildInfo := fun value => do
  let [version, branch, commit] ← value.fields? ["version", "branch", "commit"] | none
  pure {
    version := ← defaulted unknown Value.asText version
    branch := ← defaulted unknown Value.asText branch
    commit := ← defaulted unknown Value.asText commit }

def load (text : Option String) : BuildInfo := (text.bind (decode? decode)).getD default

end BuildInfo
end BeaconSentry

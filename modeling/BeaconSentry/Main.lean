import BeaconSentry.Json.Printer
import BeaconSentry.Options.Encode
import BeaconSentry.Options.Parser

/-!
This module contains the command line. It reads the options of the watcher from arguments and the environment,
and prints the settings that they stand for or what is wrong with them.
-/

namespace BeaconSentry
namespace CommandLine

def settings (arguments : List String) (environment : List (String × String)) : Except String String := do
  let options ← (Options.parse arguments (environment.lookup ·)).mapError
    fun error => s!"{error.refusal.name}: {error.argument}"
  match options.complaint? with
  | some complaint => throw complaint
  | none =>
    let members ← options.members.mapError (·.message)
    pure (Json.Value.record members).toText

def environment : IO (List (String × String)) :=
  Options.Spec.all.filterMapM fun spec => do
    let value ← IO.getEnv spec.env
    pure (value.map (spec.env, ·))

end CommandLine
end BeaconSentry

def main (arguments : List String) : IO UInt32 := do
  match BeaconSentry.CommandLine.settings arguments (← BeaconSentry.CommandLine.environment) with
  | .ok text =>
    IO.println text
    pure 0
  | .error message =>
    IO.eprintln message
    pure 2

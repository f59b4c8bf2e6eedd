/-!
This module contains the tokens of YAML text.
-/

namespace BeaconSentry
namespace Yaml

/-- A token of YAML text. Where a block ends is a token too, although no character stands for it. -/
inductive Token where
  | versionDirective (major minor : Nat)
  | tagDirective (handle : String) (start : List UInt8)
  | documentStart
  | documentEnd
  | blockSequenceStart
  | blockMappingStart
  | blockEnd
  | flowSequenceStart
  | flowSequenceEnd
  | flowMappingStart
  | flowMappingEnd
  | blockEntry
  | flowEntry
  | key
  | value
  | alias (name : String)
  | anchor (name : String)
  | tag (handle : String) (suffix : List UInt8)
  | scalar (isPlain : Bool) (text : String)
  deriving Repr, DecidableEq

end Yaml
end BeaconSentry

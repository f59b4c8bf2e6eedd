import BeaconSentry.Evm.Abi
import BeaconSentry.Json.Printer
import BeaconSentry.Net.Provider

/-!
This module contains questions to a node of the execution layer, which travel as remote procedure calls: a
document with the method and its parameters goes out, and one with a result or an error comes back.
-/

namespace BeaconSentry
namespace Evm

open Net Json

structure Node where
  url : Url
  timeout : Duration
  deriving Repr, DecidableEq

inductive BlockTag where
  | latest
  | number (n : UInt64)
  deriving Repr, DecidableEq

def BlockTag.toText : BlockTag → String
  | .latest => "latest"
  | .number n => quantityText n

structure Log where
  block : Option UInt64
  topics : List (List UInt8)
  data : List UInt8
  deriving Repr, DecidableEq

def Log.decode : Decoder Log := fun value => do
  let [block, topics, data] ← value.fields? ["blockNumber", "topics", "data"] | none
  let bytes : Decoder (List UInt8) := fun value => value.asText.bind bytesOfText?
  pure {
    block := ← optional (fun value => value.asText.bind quantityOfText?) block
    topics := ← required (Value.asList bytes) topics
    data := ← required bytes data }

namespace Node

variable {ω : Type}

def callDocument (method : String) (parameters : List Value) : Value :=
  .record [("method", .text method), ("params", .array parameters),
    ("id", .number (.natural 0)), ("jsonrpc", .text "2.0")]

def result? (read : Decoder α) : Decoder α := fun value => do
  let [result, error] ← value.fields? ["result", "error"] | none
  if (error.filter fun | .null => false | _ => true).isSome then none
  else required read result

def call (wire : Wire ω) (node : Node) (method : String) (parameters : List Value) (read : Decoder α) :
    Action ω Unit α := do
  let body := callDocument method parameters
  let reply ← (wire.exchange ⟨.post, node.url, some body, some node.timeout⟩).mapError fun _ => ()
  let answer : Option α :=
    if reply.isOk then (reply.text?.bind (Json.decode? (result? read))) else none
  match answer with
  | some value => pure value
  | none => .fail ()

def callContract (wire : Wire ω) (node : Node) (contract : String) (selector : List UInt8) (tag : BlockTag) :
    Action ω Unit (List UInt8) :=
  let target : Value := .record [("to", .text contract), ("input", .text (bytesText selector))]
  node.call wire "eth_call" [target, .text tag.toText] fun value => value.asText.bind bytesOfText?

def logs (wire : Wire ω) (node : Node) (contract : String) (topic : List UInt8) (first last : UInt64) :
    Action ω Unit (List Log) :=
  let filter : Value := .record [("address", .text contract),
    ("topics", .array [.text (bytesText topic)]), ("fromBlock", .text (quantityText first)),
    ("toBlock", .text (quantityText last))]
  node.call wire "eth_getLogs" [filter] (Value.asList Log.decode)

end Node
end Evm
end BeaconSentry

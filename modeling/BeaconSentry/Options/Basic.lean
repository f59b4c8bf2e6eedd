import BeaconSentry.Alert.Basic
import BeaconSentry.Duration
import BeaconSentry.Json.Decode
import BeaconSentry.Options.Seconds
import BeaconSentry.Options.SlotRange
import BeaconSentry.Text.Blank
import BeaconSentry.Text.Hex
import BeaconSentry.Url.Basic

/-!
This module contains the options of the watcher with their defaults, and the check that those which the chosen
way of working needs are given.
-/

namespace BeaconSentry

inductive KeysOrigin where
  | service
  | file
  deriving Repr, DecidableEq

namespace KeysOrigin

def name : KeysOrigin → String
  | service => "keys_api"
  | file => "file"

def ofName? (name : String) : Option KeysOrigin := [service, file].find? (·.name == name)

end KeysOrigin

structure RequestOptions where
  timeoutSeconds : UInt64
  retries : UInt64
  pause : Seconds
  deriving Repr, DecidableEq

structure RequestTunables where
  timeout : Duration
  retries : UInt64
  backoff : Duration
  deriving Repr, DecidableEq

def RequestOptions.tunables (options : RequestOptions) : Except Overflow RequestTunables := do
  pure ⟨.ofSeconds options.timeoutSeconds.toNat, options.retries, ← options.pause.toDuration⟩

structure Options where
  beaconNodes : List Url
  executionNode : Option Url
  keysServices : List Url
  alertManagers : List Url
  keysOrigin : KeysOrigin
  keysFile : String
  /-- The address of the locator contract. -/
  locator : Option (List UInt8)
  /-- The addresses that may act on owned validators. -/
  validAddresses : List (List UInt8)
  network : String
  labels : Labels
  dryRun : Bool
  beaconRequests : RequestOptions
  keysRequests : RequestOptions
  alertRequests : RequestOptions
  /-- How many blocks the requests to exit are kept for. -/
  exitLookback : UInt64
  /-- How many blocks one query for events spans. -/
  searchStep : UInt64
  /-- The modules whose exits are never unexpected. -/
  disabledModules : List UInt64
  executionTimeoutSeconds : UInt64
  metricsPort : UInt64
  metricsNamespace : String
  pulsePort : UInt64
  longestCycleSeconds : UInt64
  /-- The slots to replay; without them the watcher follows the head. -/
  slots : Option SlotRange
  cycleSleepSeconds : UInt64

namespace Options

/-- The options as they are unless they are told otherwise. -/
def default : Options where
  beaconNodes := []
  executionNode := none
  keysServices := []
  alertManagers := []
  keysOrigin := .service
  keysFile := "./docker/validators/keys.yml"
  locator := none
  validAddresses := []
  network := "mainnet"
  labels := ∅
  dryRun := false
  beaconRequests := ⟨180, 3, .decimal false ⟨5, 0⟩⟩
  keysRequests := ⟨180, 3, .decimal false ⟨5, 0⟩⟩
  alertRequests := ⟨2, 2, .decimal false ⟨1, 0⟩⟩
  exitLookback := 50400
  searchStep := 10000
  disabledModules := []
  executionTimeoutSeconds := 5
  metricsPort := 9000
  metricsNamespace := "ethereum_head_watcher"
  pulsePort := 9010
  longestCycleSeconds := 3000
  slots := none
  cycleSleepSeconds := 1

def missing (options : Options) : List String :=
  let needed (name : String) (isMissing : Bool) : List String := if isMissing then [name] else []
  let service := options.keysOrigin = .service
  needed "CONSENSUS_CLIENT_URI" options.beaconNodes.isEmpty ++
    needed "KEYS_API_URI" (service && options.keysServices.isEmpty) ++
    needed "EXECUTION_CLIENT_URI" (service && options.executionNode.isNone) ++
    needed "LIDO_LOCATOR_ADDRESS" (service && options.locator.isNone) ++
    needed "ALERTMANAGER_URI" (!options.dryRun && options.alertManagers.isEmpty)

def complaint? (options : Options) : Option String :=
  match options.missing with
  | [] => none
  | names => some ("The following variables are required: " ++ ", ".intercalate names)

end Options

def Labels.complaint : String := "labels must be a JSON object"

/-- Read labels from an object of texts. Nothing but blanks stands for no labels. -/
def Labels.parse? (text : String) : Option Labels :=
  let text := Text.trim text
  if text.isEmpty then some ∅
  else (Json.decode? (Json.Value.asMembers Json.Value.asText) text).map Labels.ofList

def addressOfText? (text : String) : Option (List UInt8) := do
  let bytes ← Hex.bytes? (Hex.stripMarker text.toList)
  if bytes.length = 20 then some bytes else none

end BeaconSentry

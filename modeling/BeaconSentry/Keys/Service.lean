import BeaconSentry.Net.Provider

/-!
This module contains a typed client of the service that lists staking modules, their operators and the
registered validator keys.
-/

namespace BeaconSentry
namespace Keys

open Net Json

structure Snapshot where
  blockNumber : UInt64
  blockHash : String
  timestamp : UInt64
  deriving Repr, DecidableEq

structure ServiceStatus where
  version : String
  chain : UInt64
  snapshot : Snapshot
  deriving Repr, DecidableEq

/-- A staking module. Its nonce counts the changes of its keys. -/
structure StakingModule where
  index : UInt64
  address : String
  nonce : UInt64
  name : String
  deriving Repr, DecidableEq

structure Operator where
  index : UInt64
  name : String
  deriving Repr, DecidableEq

structure ModuleOperators where
  module : StakingModule
  operators : List Operator
  deriving Repr, DecidableEq

structure RegisteredKey where
  key : String
  operatorIndex : UInt64
  moduleAddress : String
  deriving Repr, DecidableEq

def Snapshot.decode : Decoder Snapshot := fun value => do
  let [number, hash, timestamp] ← value.fields? ["blockNumber", "blockHash", "timestamp"] | none
  pure {
    blockNumber := ← required Value.asWord number
    blockHash := ← required Value.asText hash
    timestamp := ← required Value.asWord timestamp }

def ServiceStatus.decode : Decoder ServiceStatus := fun value => do
  let [version, chain, snapshot] ← value.fields? ["appVersion", "chainId", "elBlockSnapshot"] | none
  pure {
    version := ← required Value.asText version
    chain := ← required Value.asWord chain
    snapshot := ← required Snapshot.decode snapshot }

def StakingModule.decode : Decoder StakingModule := fun value => do
  let [index, address, nonce, name] ←
    value.fields? ["id", "stakingModuleAddress", "nonce", "name"] | none
  pure {
    index := ← required Value.asWord index
    address := ← required Value.asText address
    nonce := ← required Value.asWord nonce
    name := ← defaulted "" Value.asText name }

def Operator.decode : Decoder Operator := fun value => do
  let [index, name] ← value.fields? ["index", "name"] | none
  pure {
    index := ← required Value.asWord index
    name := ← required Value.asText name }

def ModuleOperators.decode : Decoder ModuleOperators := fun value => do
  let [module, operators] ← value.fields? ["module", "operators"] | none
  pure {
    module := ← required StakingModule.decode module
    operators := ← required (Value.asList Operator.decode) operators }

def RegisteredKey.decode : Decoder RegisteredKey := fun value => do
  let [key, operatorIndex, moduleAddress] ←
    value.fields? ["key", "operatorIndex", "moduleAddress"] | none
  pure {
    key := ← required Value.asText key
    operatorIndex := ← required Value.asWord operatorIndex
    moduleAddress := ← required Value.asText moduleAddress }

structure Client where
  provider : Provider
  deriving Repr, DecidableEq

namespace Client

variable {ω : Type}

def new (hosts : List Url) (policy : RequestPolicy) : Except ProviderError Client :=
  (Provider.new "KeysApiClient" hosts policy).map Client.mk

def ask (wire : Wire ω) (client : Client) (path : String) (query : List (String × String))
    (read : Decoder α) : Action ω ProviderError α :=
  client.provider.getJson wire client.provider.policy (.get path path query) .never (fun _ => false) read

def dataList (read : Decoder α) : Decoder (List α) := fun value => do
  let [data] ← value.fields? ["data"] | none
  required (Value.asList read) data

def status (wire : Wire ω) (client : Client) : Action ω ProviderError ServiceStatus :=
  client.ask wire "v1/status" [] ServiceStatus.decode

def modules (wire : Wire ω) (client : Client) : Action ω ProviderError (List StakingModule) :=
  client.ask wire "v1/modules" [] (dataList StakingModule.decode)

def operators (wire : Wire ω) (client : Client) : Action ω ProviderError (List ModuleOperators) :=
  client.ask wire "v1/operators" [] (dataList ModuleOperators.decode)

def usedKeys (wire : Wire ω) (client : Client) : Action ω ProviderError (List RegisteredKey) :=
  client.ask wire "v1/keys" [("used", "true")] (dataList RegisteredKey.decode)

end Client
end Keys
end BeaconSentry

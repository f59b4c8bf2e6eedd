import BeaconSentry.Keys.Basic
import BeaconSentry.Keys.Service
import BeaconSentry.Report
import Std.Data.HashMap

/-!
This module contains the source of owned keys that follows a keys service. It asks for the keys only when the
snapshot of the service has advanced and the sum of its nonces has changed.
-/

namespace BeaconSentry
namespace Keys

open Net

structure Service (ω : Type) where
  status : Action ω ProviderError ServiceStatus
  modules : Action ω ProviderError (List StakingModule)
  operators : Action ω ProviderError (List ModuleOperators)
  usedKeys : Action ω ProviderError (List RegisteredKey)
  showBlock : UInt64 → ω → ω

def Client.service (wire : Wire ω) (client : Client) (showBlock : UInt64 → ω → ω) : Service ω where
  status := client.status wire
  modules := client.modules wire
  operators := client.operators wire
  usedKeys := client.usedKeys wire
  showBlock := showBlock

/-- The name of each operator and the index of its module, by module address in small letters and operator index. -/
abbrev OperatorTable := Std.HashMap (String × UInt64) (String × UInt64)

/-- Enter the operators of a module. Later ones replace earlier ones. -/
def OperatorTable.enter (table : OperatorTable) (entry : ModuleOperators) : OperatorTable :=
  let address := Text.lower entry.module.address
  entry.operators.foldl
    (fun table operator => table.insert (address, operator.index) (operator.name, entry.module.index))
    table

def OperatorTable.ofModules (entries : List ModuleOperators) : OperatorTable :=
  entries.foldl OperatorTable.enter ∅

def RegisteredKey.named? (table : OperatorTable) (registered : RegisteredKey) : Option NamedKey :=
  table[(Text.lower registered.moduleAddress, registered.operatorIndex)]?.map
    fun (operatorName, moduleIndex) => {
      key := NamedKey.normalize registered.key
      operatorName
      operatorIndex := registered.operatorIndex
      moduleIndex }

def ownedKeys (operators : List ModuleOperators) (keys : List RegisteredKey) : OwnedKeys :=
  .ofKeys (keys.filterMap (·.named? (.ofModules operators)))

def nonceSum (modules : List StakingModule) : Except Overflow UInt64 :=
  modules.foldlM (fun sum module => Word.add sum module.nonce) 0

/-- What a source remembers of the service: the markers of the content it has seen last. -/
structure ServiceSource where
  lastTimestamp : Option UInt64
  lastNonce : Option UInt64
  deriving Repr, DecidableEq

namespace ServiceSource

def start : ServiceSource := ⟨none, none⟩

def ask (action : Action ω ProviderError α) : Action (ServiceSource × ω) Failure α :=
  (action.mapError fun error => .report (.provider error)).beside

/--
Look for new keys. The result is the owned keys if they may have changed. The markers change only after all
questions of the update have been answered.
-/
def update (service : Service ω) : Action (ServiceSource × ω) Failure (Option OwnedKeys) := do
  let snapshot := (← ask service.status).snapshot
  .modify fun (source, world) => (source, service.showBlock snapshot.blockNumber world)
  let source ← .inspect
  if source.lastTimestamp.any (snapshot.timestamp ≤ ·) then
    return none
  let nonce ← .ofExcept ((nonceSum (← ask service.modules)).mapError .overflow)
  if source.lastNonce == some nonce then
    .revise fun source => { source with lastTimestamp := some snapshot.timestamp }
    return none
  let operators ← ask service.operators
  let keys ← ask service.usedKeys
  .revise fun _ => ⟨some snapshot.timestamp, some nonce⟩
  return some (ownedKeys operators keys)

end ServiceSource
end Keys
end BeaconSentry

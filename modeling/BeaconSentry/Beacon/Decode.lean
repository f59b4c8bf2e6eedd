import BeaconSentry.Beacon.Basic
import BeaconSentry.Beacon.Quantity
import BeaconSentry.Keys.Basic

/-!
This module contains the reading of beacon data from JSON documents. Fields that the watcher does not use are
passed over.
-/

namespace BeaconSentry
namespace Beacon

open Json

def signed (decode : Decoder α) : Decoder α := fun value => do
  let [message] ← value.fields? ["message"] | none
  required decode message

def Genesis.decode : Decoder Genesis := fun value => do
  let [time, validatorsRoot] ← value.fields? ["genesis_time", "genesis_validators_root"] | none
  pure {
    time := ← required Quantity.decode time
    validatorsRoot := ← required Value.asText validatorsRoot }

def BlockHeader.decode : Decoder BlockHeader := fun value => do
  let [slot, proposer, parentRoot, stateRoot] ←
    value.fields? ["slot", "proposer_index", "parent_root", "state_root"] | none
  pure {
    slot := ← required Quantity.decode slot
    proposer := ← required Quantity.decode proposer
    parentRoot := ← required Value.asText parentRoot
    stateRoot := ← required Value.asText stateRoot }

def HeaderRecord.decode : Decoder HeaderRecord := fun value => do
  let [root, canonical, header] ← value.fields? ["root", "canonical", "header"] | none
  pure {
    root := ← required Value.asText root
    canonical := ← required Value.asBool canonical
    header := ← required (signed BlockHeader.decode) header }

def ExecutionPayload.decode : Decoder ExecutionPayload := fun value => do
  let [blockNumber] ← value.fields? ["block_number"] | none
  pure { blockNumber := ← required Quantity.decode blockNumber }

def VoluntaryExit.decode : Decoder VoluntaryExit := signed fun value => do
  let [validator] ← value.fields? ["validator_index"] | none
  pure { validator := ← required Quantity.decode validator }

def ProposerSlashing.decode : Decoder ProposerSlashing := fun value => do
  let [first, second] ← value.fields? ["signed_header_1", "signed_header_2"] | none
  pure {
    first := ← required (signed BlockHeader.decode) first
    second := ← required (signed BlockHeader.decode) second }

def Attestation.decode : Decoder Attestation := fun value => do
  let [signers] ← value.fields? ["attesting_indices"] | none
  pure { signers := ← required Quantity.decodeList signers }

def AttesterSlashing.decode : Decoder AttesterSlashing := fun value => do
  let [first, second] ← value.fields? ["attestation_1", "attestation_2"] | none
  pure {
    first := ← required Attestation.decode first
    second := ← required Attestation.decode second }

def WithdrawalRequest.decode : Decoder WithdrawalRequest := fun value => do
  let [sourceAddress, validatorPubkey, amount] ←
    value.fields? ["source_address", "validator_pubkey", "amount"] | none
  pure {
    sourceAddress := ← required Value.asText sourceAddress
    validatorPubkey := ← required Value.asText validatorPubkey
    amount := ← required Quantity.decode amount }

def ConsolidationRequest.decode : Decoder ConsolidationRequest := fun value => do
  let [sourceAddress, sourcePubkey, targetPubkey] ←
    value.fields? ["source_address", "source_pubkey", "target_pubkey"] | none
  pure {
    sourceAddress := ← required Value.asText sourceAddress
    sourcePubkey := ← required Value.asText sourcePubkey
    targetPubkey := ← required Value.asText targetPubkey }

def DepositRequest.decode : Decoder DepositRequest := fun value => do
  let [pubkey, withdrawalCredentials, amount] ←
    value.fields? ["pubkey", "withdrawal_credentials", "amount"] | none
  pure {
    pubkey := ← required Value.asText pubkey
    withdrawalCredentials := ← required Value.asText withdrawalCredentials
    amount := ← required Quantity.decode amount }

/-- A list that is empty unless it is given. -/
def listed (decode : Decoder α) (field : Option Value) : Option (List α) :=
  defaulted [] (Value.asList decode) field

def ExecutionRequests.decode : Decoder ExecutionRequests := fun value => do
  let [deposits, withdrawals, consolidations] ←
    value.fields? ["deposits", "withdrawals", "consolidations"] | none
  pure {
    deposits := ← listed DepositRequest.decode deposits
    withdrawals := ← listed WithdrawalRequest.decode withdrawals
    consolidations := ← listed ConsolidationRequest.decode consolidations }

def BlockBody.decode : Decoder BlockBody := fun value => do
  let [payload, exits, proposerSlashings, attesterSlashings, requests] ←
    value.fields? ["execution_payload", "voluntary_exits", "proposer_slashings",
      "attester_slashings", "execution_requests"] | none
  pure {
    executionPayload := ← optional ExecutionPayload.decode payload
    voluntaryExits := ← listed VoluntaryExit.decode exits
    proposerSlashings := ← listed ProposerSlashing.decode proposerSlashings
    attesterSlashings := ← listed AttesterSlashing.decode attesterSlashings
    executionRequests := ← optional ExecutionRequests.decode requests }

def Block.decode : Decoder Block := signed fun value => do
  let [slot, parentRoot, body] ← value.fields? ["slot", "parent_root", "body"] | none
  pure {
    slot := ← required Quantity.decode slot
    parentRoot := ← required Value.asText parentRoot
    body := ← required BlockBody.decode body }

def Reorg.decode : Decoder Reorg := fun value => do
  let [slot, depth, oldHead, newHead] ←
    value.fields? ["slot", "depth", "old_head_block", "new_head_block"] | none
  pure {
    slot := ← required Quantity.decode slot
    depth := ← required Quantity.decode depth
    oldHead := ← required Value.asText oldHead
    newHead := ← required Value.asText newHead }

def validatorPubkey : Decoder String := fun value => do
  let [pubkey] ← value.fields? ["pubkey"] | none
  required Value.asText pubkey

def ValidatorEntry.decode : Decoder ValidatorEntry := fun value => do
  let [index, validator] ← value.fields? ["index", "validator"] | none
  pure {
    index := ← required Quantity.decode index
    pubkey := ← required validatorPubkey validator }

end Beacon

open Json in
def NamedKey.decode : Decoder NamedKey := fun value => do
  let [key, operatorName, operatorIndex, moduleIndex] ←
    value.fields? ["key", "operator_name", "operator_index", "module_index"] | none
  pure {
    key := ← required Value.asText key
    operatorName := ← required Value.asText operatorName
    operatorIndex := ← required Value.asWord operatorIndex
    moduleIndex := ← required Value.asWord moduleIndex }

end BeaconSentry

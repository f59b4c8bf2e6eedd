import BeaconSentry.Beacon.Basic
import BeaconSentry.Beacon.Quantity
import BeaconSentry.Keys.Basic

/-!
This module contains the writing of beacon data as JSON documents.
-/

namespace BeaconSentry
namespace Beacon

open Json

def message (value : Value) : Value := .record [("message", value)]

def Genesis.encode (genesis : Genesis) : Value :=
  .record [("genesis_time", Quantity.encode genesis.time),
    ("genesis_validators_root", .text genesis.validatorsRoot)]

def BlockHeader.encode (header : BlockHeader) : Value :=
  .record [("slot", Quantity.encode header.slot),
    ("proposer_index", Quantity.encode header.proposer),
    ("parent_root", .text header.parentRoot),
    ("state_root", .text header.stateRoot)]

def HeaderRecord.encode (record : HeaderRecord) : Value :=
  .record [("root", .text record.root), ("canonical", .bool record.canonical),
    ("header", message record.header.encode)]

def ExecutionPayload.encode (payload : ExecutionPayload) : Value :=
  .record [("block_number", Quantity.encode payload.blockNumber)]

def VoluntaryExit.encode (exit : VoluntaryExit) : Value :=
  message (.record [("validator_index", Quantity.encode exit.validator)])

def ProposerSlashing.encode (slashing : ProposerSlashing) : Value :=
  .record [("signed_header_1", message slashing.first.encode),
    ("signed_header_2", message slashing.second.encode)]

def Attestation.encode (attestation : Attestation) : Value :=
  .record [("attesting_indices", Quantity.encodeList attestation.signers)]

def AttesterSlashing.encode (slashing : AttesterSlashing) : Value :=
  .record [("attestation_1", slashing.first.encode), ("attestation_2", slashing.second.encode)]

def WithdrawalRequest.encode (request : WithdrawalRequest) : Value :=
  .record [("source_address", .text request.sourceAddress),
    ("validator_pubkey", .text request.validatorPubkey),
    ("amount", Quantity.encode request.amount)]

def ConsolidationRequest.encode (request : ConsolidationRequest) : Value :=
  .record [("source_address", .text request.sourceAddress),
    ("source_pubkey", .text request.sourcePubkey),
    ("target_pubkey", .text request.targetPubkey)]

def DepositRequest.encode (request : DepositRequest) : Value :=
  .record [("pubkey", .text request.pubkey),
    ("withdrawal_credentials", .text request.withdrawalCredentials),
    ("amount", Quantity.encode request.amount)]

def ExecutionRequests.encode (requests : ExecutionRequests) : Value :=
  .record [("deposits", .array (requests.deposits.map (·.encode))),
    ("withdrawals", .array (requests.withdrawals.map (·.encode))),
    ("consolidations", .array (requests.consolidations.map (·.encode)))]

/-- The member of an optional part, which is left out if the part is missing. -/
def optionalMember (name : String) (encode : α → Value) (part : Option α) :
    List (String × Value) :=
  match part with
  | some part => [(name, encode part)]
  | none => []

def BlockBody.encode (body : BlockBody) : Value :=
  .record (optionalMember "execution_payload" (·.encode) body.executionPayload ++
    [("voluntary_exits", .array (body.voluntaryExits.map (·.encode))),
      ("proposer_slashings", .array (body.proposerSlashings.map (·.encode))),
      ("attester_slashings", .array (body.attesterSlashings.map (·.encode)))] ++
    optionalMember "execution_requests" (·.encode) body.executionRequests)

def Block.encode (block : Block) : Value :=
  message (.record [("slot", Quantity.encode block.slot), ("parent_root", .text block.parentRoot),
    ("body", block.body.encode)])

def Reorg.encode (reorg : Reorg) : Value :=
  .record [("slot", Quantity.encode reorg.slot), ("depth", Quantity.encode reorg.depth),
    ("old_head_block", .text reorg.oldHead), ("new_head_block", .text reorg.newHead)]

def ValidatorEntry.encode (entry : ValidatorEntry) : Value :=
  .record [("index", Quantity.encode entry.index),
    ("validator", .record [("pubkey", .text entry.pubkey)])]

end Beacon

open Json in
def NamedKey.encode (key : NamedKey) : Value :=
  .record [("key", .text key.key), ("operator_name", .text key.operatorName),
    ("operator_index", .word key.operatorIndex), ("module_index", .word key.moduleIndex)]

end BeaconSentry

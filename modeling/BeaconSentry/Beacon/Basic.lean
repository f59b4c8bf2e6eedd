import BeaconSentry.Beacon.Slot

/-!
This module contains the beacon chain data that the watcher looks at: blocks with what they carry, headers,
reorganisations of the chain and entries of the validator registry.
-/

namespace BeaconSentry
namespace Beacon

abbrev ValidatorIndex := UInt64

abbrev BlockNumber := UInt64

inductive BlockId where
  | head
  | finalized
  | genesis
  | slot (slot : Slot)
  | root (root : String)
  deriving Repr, DecidableEq

namespace BlockId

def toText : BlockId → String
  | .head => "head"
  | .finalized => "finalized"
  | .genesis => "genesis"
  | .slot n => toString n
  | .root name => name

def isHead : BlockId → Bool
  | .head => true
  | _ => false

end BlockId

structure Genesis where
  time : UInt64
  validatorsRoot : String
  deriving Repr, DecidableEq

structure BlockHeader where
  slot : Slot
  proposer : ValidatorIndex
  parentRoot : String
  stateRoot : String
  deriving Repr, DecidableEq

structure HeaderRecord where
  root : String
  canonical : Bool
  header : BlockHeader
  deriving Repr, DecidableEq

structure ExecutionPayload where
  blockNumber : BlockNumber
  deriving Repr, DecidableEq

structure VoluntaryExit where
  validator : ValidatorIndex
  deriving Repr, DecidableEq

structure ProposerSlashing where
  first : BlockHeader
  second : BlockHeader
  deriving Repr, DecidableEq

def ProposerSlashing.proposer (slashing : ProposerSlashing) : ValidatorIndex :=
  slashing.first.proposer

structure Attestation where
  signers : List ValidatorIndex
  deriving Repr, DecidableEq

structure AttesterSlashing where
  first : Attestation
  second : Attestation
  deriving Repr, DecidableEq

/--
The validators that signed both attestations, each once and in ascending order. A signature under one of them
alone proves nothing.
-/
def AttesterSlashing.slashed (slashing : AttesterSlashing) : List ValidatorIndex :=
  ((slashing.first.signers.filter (slashing.second.signers.contains ·)).mergeSort
    (· ≤ ·)).eraseReps

structure WithdrawalRequest where
  sourceAddress : String
  validatorPubkey : String
  amount : UInt64
  deriving Repr, DecidableEq

def WithdrawalRequest.isFull (request : WithdrawalRequest) : Bool := request.amount == 0

structure ConsolidationRequest where
  sourceAddress : String
  sourcePubkey : String
  targetPubkey : String
  deriving Repr, DecidableEq

structure DepositRequest where
  pubkey : String
  withdrawalCredentials : String
  amount : UInt64
  deriving Repr, DecidableEq

structure ExecutionRequests where
  deposits : List DepositRequest
  withdrawals : List WithdrawalRequest
  consolidations : List ConsolidationRequest
  deriving Repr, DecidableEq

/-- The body of a block. Early blocks have no payload, and blocks before Electra no requests. -/
structure BlockBody where
  executionPayload : Option ExecutionPayload
  voluntaryExits : List VoluntaryExit
  proposerSlashings : List ProposerSlashing
  attesterSlashings : List AttesterSlashing
  executionRequests : Option ExecutionRequests
  deriving Repr, DecidableEq

structure Block where
  slot : Slot
  parentRoot : String
  body : BlockBody
  deriving Repr, DecidableEq

/-- A head of the chain: a header and the block fetched for its root. -/
structure Head where
  header : HeaderRecord
  block : Block
  deriving Repr, DecidableEq

namespace Head

def slot (head : Head) : Slot := head.header.header.slot

def root (head : Head) : String := head.header.root

def parentRoot (head : Head) : String := head.header.header.parentRoot

def body (head : Head) : BlockBody := head.block.body

def blockNumber (head : Head) : Option BlockNumber :=
  head.body.executionPayload.map (·.blockNumber)

def withdrawals (head : Head) : List WithdrawalRequest :=
  (head.body.executionRequests.map (·.withdrawals)).getD []

def consolidations (head : Head) : List ConsolidationRequest :=
  (head.body.executionRequests.map (·.consolidations)).getD []

end Head

structure Reorg where
  slot : Slot
  depth : UInt64
  oldHead : String
  newHead : String
  deriving Repr, DecidableEq

/-- The first slot that a reorganisation affects; the last one is its own slot. -/
def Reorg.firstSlot (reorg : Reorg) : Slot := Word.monus reorg.slot reorg.depth

structure ValidatorEntry where
  index : ValidatorIndex
  pubkey : String
  deriving Repr, DecidableEq

end Beacon
end BeaconSentry

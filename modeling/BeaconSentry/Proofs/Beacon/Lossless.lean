import BeaconSentry.Beacon.Decode
import BeaconSentry.Beacon.Encode
import BeaconSentry.Proofs.Json.Records
import BeaconSentry.Proofs.Text.Numeral

/-!
This module contains that beacon data and the keys under watch are written as JSON text without loss: what is decoded
from the text is the data.
-/

namespace BeaconSentry
namespace Beacon

open Json

@[simp]
theorem Quantity.written_encode (n : UInt64) : (Quantity.encode n).Written := .string (some (toString n.toNat))

@[simp]
theorem Quantity.decode_encode (n : UInt64) : Quantity.decode (Quantity.encode n) = some n := by
  have hbound : n.toNat ≤ UInt64.size - 1 := Nat.le_sub_one_of_lt n.toNat_lt_size
  have hread : Quantity.decodeNat UInt64.size (Quantity.encode n) = some n.toNat := by
    show (Numeral.unsigned (UInt64.size - 1) (toString n.toNat)).toOption = some n.toNat
    rw [Numeral.unsigned_toString, if_pos hbound]
    rfl
  rw [Quantity.decode, hread, Option.map_some, UInt64.ofNat_toNat]

theorem Quantity.lossless : Lossless Quantity.encode Quantity.decode := ⟨written_encode, decode_encode⟩

theorem lossless_message {α : Type} {encode : α → Value} {decode : Decoder α} (h : Lossless encode decode)
    : Lossless (fun a => message (encode a)) (signed decode) := by
  refine lossless_record ["message"] (fun a => [some (encode a)]) (by decide) (fun _ => ⟨rfl, rfl⟩) ?_ ?_
  . simp [h.written]
  . intro a value hfields
    simp [signed, hfields, h.decode_encode]

theorem listed_some {α : Type} {encode : α → Value} {decode : Decoder α} (h : Lossless encode decode) (items : List α)
    : listed decode (some (.array (items.map encode))) = some items := h.list.decode_encode items

theorem Genesis.lossless : Lossless Genesis.encode Genesis.decode := by
  refine lossless_record ["genesis_time", "genesis_validators_root"]
    (fun genesis => [some (Quantity.encode genesis.time), some (.text genesis.validatorsRoot)]) (by decide)
    (fun _ => ⟨rfl, rfl⟩) ?_ ?_
  . simp
  . intro genesis value hfields
    simp [Genesis.decode, hfields]

theorem BlockHeader.lossless : Lossless BlockHeader.encode BlockHeader.decode := by
  refine lossless_record ["slot", "proposer_index", "parent_root", "state_root"]
    (fun header => [some (Quantity.encode header.slot), some (Quantity.encode header.proposer),
      some (.text header.parentRoot), some (.text header.stateRoot)]) (by decide) (fun _ => ⟨rfl, rfl⟩) ?_ ?_
  . simp
  . intro header value hfields
    simp [BlockHeader.decode, hfields]

theorem HeaderRecord.lossless : Lossless HeaderRecord.encode HeaderRecord.decode := by
  have hheader := lossless_message BlockHeader.lossless
  refine lossless_record ["root", "canonical", "header"]
    (fun record => [some (.text record.root), some (.bool record.canonical), some (message record.header.encode)])
    (by decide) (fun _ => ⟨rfl, rfl⟩) ?_ ?_
  . simp [hheader.written]
  . intro record value hfields
    simp [HeaderRecord.decode, hfields, hheader.decode_encode]

theorem ExecutionPayload.lossless : Lossless ExecutionPayload.encode ExecutionPayload.decode := by
  refine lossless_record ["block_number"] (fun payload => [some (Quantity.encode payload.blockNumber)]) (by decide)
    (fun _ => ⟨rfl, rfl⟩) ?_ ?_
  . simp
  . intro payload value hfields
    simp [ExecutionPayload.decode, hfields]

theorem VoluntaryExit.lossless : Lossless VoluntaryExit.encode VoluntaryExit.decode := by
  refine lossless_message (lossless_record ["validator_index"]
    (fun exit => [some (Quantity.encode exit.validator)]) (by decide) (fun _ => ⟨rfl, rfl⟩) ?_ ?_)
  . simp
  . intro exit value hfields
    simp [hfields]

theorem ProposerSlashing.lossless : Lossless ProposerSlashing.encode ProposerSlashing.decode := by
  have hheader := lossless_message BlockHeader.lossless
  refine lossless_record ["signed_header_1", "signed_header_2"]
    (fun slashing => [some (message slashing.first.encode), some (message slashing.second.encode)]) (by decide)
    (fun _ => ⟨rfl, rfl⟩) ?_ ?_
  . simp [hheader.written]
  . intro slashing value hfields
    simp [ProposerSlashing.decode, hfields, hheader.decode_encode]

theorem Attestation.lossless : Lossless Attestation.encode Attestation.decode := by
  have hsigners : Lossless Quantity.encodeList Quantity.decodeList := Quantity.lossless.list
  refine lossless_record ["attesting_indices"] (fun attestation => [some (Quantity.encodeList attestation.signers)])
    (by decide) (fun _ => ⟨rfl, rfl⟩) ?_ ?_
  . simp [hsigners.written]
  . intro attestation value hfields
    simp [Attestation.decode, hfields, hsigners.decode_encode]

theorem AttesterSlashing.lossless : Lossless AttesterSlashing.encode AttesterSlashing.decode := by
  refine lossless_record ["attestation_1", "attestation_2"]
    (fun slashing => [some slashing.first.encode, some slashing.second.encode]) (by decide) (fun _ => ⟨rfl, rfl⟩) ?_ ?_
  . simp [Attestation.lossless.written]
  . intro slashing value hfields
    simp [AttesterSlashing.decode, hfields, Attestation.lossless.decode_encode]

theorem WithdrawalRequest.lossless : Lossless WithdrawalRequest.encode WithdrawalRequest.decode := by
  refine lossless_record ["source_address", "validator_pubkey", "amount"]
    (fun request => [some (.text request.sourceAddress), some (.text request.validatorPubkey),
      some (Quantity.encode request.amount)]) (by decide) (fun _ => ⟨rfl, rfl⟩) ?_ ?_
  . simp
  . intro request value hfields
    simp [WithdrawalRequest.decode, hfields]

theorem ConsolidationRequest.lossless : Lossless ConsolidationRequest.encode ConsolidationRequest.decode := by
  refine lossless_record ["source_address", "source_pubkey", "target_pubkey"]
    (fun request => [some (.text request.sourceAddress), some (.text request.sourcePubkey),
      some (.text request.targetPubkey)]) (by decide) (fun _ => ⟨rfl, rfl⟩) ?_ ?_
  . simp
  . intro request value hfields
    simp [ConsolidationRequest.decode, hfields]

theorem DepositRequest.lossless : Lossless DepositRequest.encode DepositRequest.decode := by
  refine lossless_record ["pubkey", "withdrawal_credentials", "amount"]
    (fun request => [some (.text request.pubkey), some (.text request.withdrawalCredentials),
      some (Quantity.encode request.amount)]) (by decide) (fun _ => ⟨rfl, rfl⟩) ?_ ?_
  . simp
  . intro request value hfields
    simp [DepositRequest.decode, hfields]

theorem ExecutionRequests.lossless : Lossless ExecutionRequests.encode ExecutionRequests.decode := by
  refine lossless_record ["deposits", "withdrawals", "consolidations"]
    (fun requests => [some (.array (requests.deposits.map (·.encode))),
      some (.array (requests.withdrawals.map (·.encode))), some (.array (requests.consolidations.map (·.encode)))])
    (by decide) (fun _ => ⟨rfl, rfl⟩) ?_ ?_
  . simp [DepositRequest.lossless.list.written, WithdrawalRequest.lossless.list.written,
      ConsolidationRequest.lossless.list.written]
  . intro requests value hfields
    simp [ExecutionRequests.decode, hfields, listed_some DepositRequest.lossless,
      listed_some WithdrawalRequest.lossless, listed_some ConsolidationRequest.lossless]

/-- What is written of a block body; the first and the last part may be missing. -/
def BlockBody.parts (body : BlockBody) : List (Option Value) :=
  [body.executionPayload.map (·.encode), some (.array (body.voluntaryExits.map (·.encode))),
    some (.array (body.proposerSlashings.map (·.encode))), some (.array (body.attesterSlashings.map (·.encode))),
    body.executionRequests.map (·.encode)]

theorem BlockBody.encode_eq (body : BlockBody)
    : body.encode = .record (Value.given ["execution_payload", "voluntary_exits", "proposer_slashings",
        "attester_slashings", "execution_requests"] body.parts) := by
  rcases body with ⟨_ | _, exits, proposers, attesters, _ | _⟩
  all_goals rfl

theorem BlockBody.lossless : Lossless BlockBody.encode BlockBody.decode := by
  refine lossless_record ["execution_payload", "voluntary_exits", "proposer_slashings", "attester_slashings",
    "execution_requests"] BlockBody.parts (by decide) (fun body => ⟨body.encode_eq, rfl⟩) ?_ ?_
  . intro body value hvalue
    simp only [BlockBody.parts, List.mem_cons, List.not_mem_nil, or_false, Option.some.injEq] at hvalue
    rcases hvalue with hpayload | rfl | rfl | rfl | hrequests
    . obtain ⟨payload, _, rfl⟩ := Option.map_eq_some_iff.mp hpayload.symm
      exact ExecutionPayload.lossless.written payload
    . exact VoluntaryExit.lossless.list.written _
    . exact ProposerSlashing.lossless.list.written _
    . exact AttesterSlashing.lossless.list.written _
    . obtain ⟨requests, _, rfl⟩ := Option.map_eq_some_iff.mp hrequests.symm
      exact ExecutionRequests.lossless.written requests
  . intro body value hfields
    have hpayload := ExecutionPayload.lossless.optional_map nofun body.executionPayload
    have hrequests := ExecutionRequests.lossless.optional_map nofun body.executionRequests
    simp [BlockBody.decode, hfields, BlockBody.parts, hpayload, hrequests, listed_some VoluntaryExit.lossless,
      listed_some ProposerSlashing.lossless, listed_some AttesterSlashing.lossless]

/-- Numbers are quoted, and parts that are missing are left out. -/
example : (BlockBody.encode ⟨none, [⟨5⟩], [], [], some ⟨[], [], []⟩⟩).toText
    = "\x7b\"voluntary_exits\":[\x7b\"message\":\x7b\"validator_index\":\"5\"\x7d\x7d],\"proposer_slashings\":[],"
      ++ "\"attester_slashings\":[],\"execution_requests\":\x7b\"deposits\":[],\"withdrawals\":[],"
      ++ "\"consolidations\":[]\x7d\x7d" := by
  decide +kernel

theorem Block.lossless : Lossless Block.encode Block.decode := by
  refine lossless_message (lossless_record ["slot", "parent_root", "body"]
    (fun block => [some (Quantity.encode block.slot), some (.text block.parentRoot), some block.body.encode])
    (by decide) (fun _ => ⟨rfl, rfl⟩) ?_ ?_)
  . simp [BlockBody.lossless.written]
  . intro block value hfields
    simp [hfields, BlockBody.lossless.decode_encode]

theorem Reorg.lossless : Lossless Reorg.encode Reorg.decode := by
  refine lossless_record ["slot", "depth", "old_head_block", "new_head_block"]
    (fun reorg => [some (Quantity.encode reorg.slot), some (Quantity.encode reorg.depth), some (.text reorg.oldHead),
      some (.text reorg.newHead)]) (by decide) (fun _ => ⟨rfl, rfl⟩) ?_ ?_
  . simp
  . intro reorg value hfields
    simp [Reorg.decode, hfields]

theorem lossless_validatorPubkey
    : Lossless (fun pubkey => .record [("pubkey", .text pubkey)]) validatorPubkey := by
  refine lossless_record ["pubkey"] (fun pubkey => [some (.text pubkey)]) (by decide) (fun _ => ⟨rfl, rfl⟩) ?_ ?_
  . simp
  . intro pubkey value hfields
    simp [validatorPubkey, hfields]

theorem ValidatorEntry.lossless : Lossless ValidatorEntry.encode ValidatorEntry.decode := by
  refine lossless_record ["index", "validator"]
    (fun entry => [some (Quantity.encode entry.index), some (.record [("pubkey", .text entry.pubkey)])]) (by decide)
    (fun _ => ⟨rfl, rfl⟩) ?_ ?_
  . simp [lossless_validatorPubkey.written]
  . intro entry value hfields
    simp [ValidatorEntry.decode, hfields, lossless_validatorPubkey.decode_encode]

end Beacon

open Json in
theorem NamedKey.lossless : Lossless NamedKey.encode NamedKey.decode := by
  refine lossless_record ["key", "operator_name", "operator_index", "module_index"]
    (fun key => [some (.text key.key), some (.text key.operatorName), some (.word key.operatorIndex),
      some (.word key.moduleIndex)]) (by decide) (fun _ => ⟨rfl, rfl⟩) ?_ ?_
  . simp
  . intro key value hfields
    simp [NamedKey.decode, hfields]

open Json Beacon in
/-- Each kind of data is decoded from the text of what it is encoded as, whatever its numbers, texts and lists. -/
theorem decode?_toText_encode
    : (∀ genesis : Genesis, decode? Genesis.decode genesis.encode.toText = some genesis)
      ∧ (∀ record : HeaderRecord, decode? HeaderRecord.decode record.encode.toText = some record)
      ∧ (∀ block : Block, decode? Block.decode block.encode.toText = some block)
      ∧ (∀ body : BlockBody, decode? BlockBody.decode body.encode.toText = some body)
      ∧ (∀ payload : ExecutionPayload, decode? ExecutionPayload.decode payload.encode.toText = some payload)
      ∧ (∀ exit : VoluntaryExit, decode? VoluntaryExit.decode exit.encode.toText = some exit)
      ∧ (∀ slashing : ProposerSlashing, decode? ProposerSlashing.decode slashing.encode.toText = some slashing)
      ∧ (∀ slashing : AttesterSlashing, decode? AttesterSlashing.decode slashing.encode.toText = some slashing)
      ∧ (∀ attestation : Attestation, decode? Attestation.decode attestation.encode.toText = some attestation)
      ∧ (∀ request : WithdrawalRequest, decode? WithdrawalRequest.decode request.encode.toText = some request)
      ∧ (∀ request : ConsolidationRequest, decode? ConsolidationRequest.decode request.encode.toText = some request)
      ∧ (∀ request : DepositRequest, decode? DepositRequest.decode request.encode.toText = some request)
      ∧ (∀ requests : ExecutionRequests, decode? ExecutionRequests.decode requests.encode.toText = some requests)
      ∧ (∀ reorg : Reorg, decode? Reorg.decode reorg.encode.toText = some reorg)
      ∧ (∀ entry : ValidatorEntry, decode? ValidatorEntry.decode entry.encode.toText = some entry)
      ∧ ∀ key : NamedKey, decode? NamedKey.decode key.encode.toText = some key :=
  ⟨Genesis.lossless.decode?_toText, HeaderRecord.lossless.decode?_toText, Block.lossless.decode?_toText,
    BlockBody.lossless.decode?_toText, ExecutionPayload.lossless.decode?_toText,
    VoluntaryExit.lossless.decode?_toText, ProposerSlashing.lossless.decode?_toText,
    AttesterSlashing.lossless.decode?_toText, Attestation.lossless.decode?_toText,
    WithdrawalRequest.lossless.decode?_toText, ConsolidationRequest.lossless.decode?_toText,
    DepositRequest.lossless.decode?_toText, ExecutionRequests.lossless.decode?_toText,
    Reorg.lossless.decode?_toText, ValidatorEntry.lossless.decode?_toText, NamedKey.lossless.decode?_toText⟩

end BeaconSentry

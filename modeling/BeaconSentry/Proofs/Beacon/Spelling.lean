import BeaconSentry.Beacon.Decode
import BeaconSentry.Proofs.Json.ReadBack
import BeaconSentry.Proofs.Json.Spelling
import BeaconSentry.Proofs.Text.Numeral

/-!
This module contains where the integers of beacon data are, and that it makes no difference to any kind of data whether
they are in quotes.
-/

namespace BeaconSentry
namespace Beacon

open Json

section Quantities

/-- An integer without quotes is taken if it fits. -/
theorem Quantity.decode_natural (n : Nat)
    : Quantity.decode (.number (.natural n)) = if n < UInt64.size then some (UInt64.ofNat n) else none := by
  show (if n < UInt64.size then some n else none).map UInt64.ofNat = _
  split
  . rfl
  . rfl

/-- So is its numeral. -/
theorem Quantity.decode_numeral (n : Nat)
    : Quantity.decode (.text (toString n)) = if n < UInt64.size then some (UInt64.ofNat n) else none := by
  show ((Numeral.unsigned (UInt64.size - 1) (toString n)).toOption).map UInt64.ofNat = _
  have hfits : n ≤ UInt64.size - 1 ↔ n < UInt64.size := Nat.le_sub_one_iff_lt (by decide)
  rw [Numeral.unsigned_toString]
  simp only [hfits]
  split
  . rfl
  . rfl

theorem Quantity.indifferent : Indifferent .integer Quantity.decode := by
  intro _ _ h
  cases h with
  | integer n => rw [decode_natural, decode_numeral]

theorem Quantity.indifferent_list : Indifferent (.list .integer) Quantity.decodeList := Quantity.indifferent.list

end Quantities

section Records

variable {α : Type} {decode : Decoder α} {shape : Shape} {part part' : Option Value}

theorem required_other (h : PartQuoted .other part part') (decode : Decoder α)
    : required decode part = required decode part' := h.required (indifferent_other decode)

theorem required_integer (h : PartQuoted .integer part part')
    : required Quantity.decode part = required Quantity.decode part' := h.required Quantity.indifferent

theorem listed_eq (h : PartQuoted (.list shape) part part') (hdecode : Indifferent shape decode)
    : listed decode part = listed decode part' := h.defaulted [] hdecode.list

def signedShape (message : Shape) : Shape := .record [("message", message)]

theorem indifferent_signed (hdecode : Indifferent shape decode)
    : Indifferent (signedShape shape) (signed decode) := by
  refine indifferent_record (List.nodup_singleton _) (fun _ => rfl) ?_
  rintro _ _ (_ | ⟨hmessage, _ | _⟩)
  exact hmessage.required hdecode

end Records

-- The fields of each shape are those of the decoder, in the order in which an array gives them.

def Genesis.shape : Shape := .record [("genesis_time", .integer), ("genesis_validators_root", .other)]

theorem Genesis.indifferent : Indifferent Genesis.shape Genesis.decode := by
  refine indifferent_record (by decide) (fun _ => rfl) ?_
  rintro _ _ (_ | ⟨htime, _ | ⟨hroot, _ | _⟩⟩)
  simp only [required_integer htime, required_other hroot]

def BlockHeader.shape : Shape :=
  .record [("slot", .integer), ("proposer_index", .integer), ("parent_root", .other), ("state_root", .other)]

theorem BlockHeader.indifferent : Indifferent BlockHeader.shape BlockHeader.decode := by
  refine indifferent_record (by decide) (fun _ => rfl) ?_
  rintro _ _ (_ | ⟨hslot, _ | ⟨hproposer, _ | ⟨hparent, _ | ⟨hstate, _ | _⟩⟩⟩⟩)
  simp only [required_integer hslot, required_integer hproposer, required_other hparent, required_other hstate]

def HeaderRecord.shape : Shape :=
  .record [("root", .other), ("canonical", .other), ("header", signedShape BlockHeader.shape)]

theorem HeaderRecord.indifferent : Indifferent HeaderRecord.shape HeaderRecord.decode := by
  refine indifferent_record (by decide) (fun _ => rfl) ?_
  rintro _ _ (_ | ⟨hroot, _ | ⟨hcanonical, _ | ⟨hheader, _ | _⟩⟩⟩)
  simp only [required_other hroot, required_other hcanonical,
    hheader.required (indifferent_signed BlockHeader.indifferent)]

def ExecutionPayload.shape : Shape := .record [("block_number", .integer)]

theorem ExecutionPayload.indifferent : Indifferent ExecutionPayload.shape ExecutionPayload.decode := by
  refine indifferent_record (by decide) (fun _ => rfl) ?_
  rintro _ _ (_ | ⟨hnumber, _ | _⟩)
  simp only [required_integer hnumber]

def VoluntaryExit.shape : Shape := signedShape <| .record [("validator_index", .integer)]

theorem VoluntaryExit.indifferent : Indifferent VoluntaryExit.shape VoluntaryExit.decode := by
  refine indifferent_signed (indifferent_record (by decide) (fun _ => rfl) ?_)
  rintro _ _ (_ | ⟨hvalidator, _ | _⟩)
  simp only [required_integer hvalidator]

def ProposerSlashing.shape : Shape :=
  .record [("signed_header_1", signedShape BlockHeader.shape), ("signed_header_2", signedShape BlockHeader.shape)]

theorem ProposerSlashing.indifferent : Indifferent ProposerSlashing.shape ProposerSlashing.decode := by
  refine indifferent_record (by decide) (fun _ => rfl) ?_
  rintro _ _ (_ | ⟨hfirst, _ | ⟨hsecond, _ | _⟩⟩)
  have hheader := indifferent_signed BlockHeader.indifferent
  simp only [hfirst.required hheader, hsecond.required hheader]

def Attestation.shape : Shape := .record [("attesting_indices", .list .integer)]

theorem Attestation.indifferent : Indifferent Attestation.shape Attestation.decode := by
  refine indifferent_record (by decide) (fun _ => rfl) ?_
  rintro _ _ (_ | ⟨hsigners, _ | _⟩)
  simp only [hsigners.required Quantity.indifferent_list]

def AttesterSlashing.shape : Shape :=
  .record [("attestation_1", Attestation.shape), ("attestation_2", Attestation.shape)]

theorem AttesterSlashing.indifferent : Indifferent AttesterSlashing.shape AttesterSlashing.decode := by
  refine indifferent_record (by decide) (fun _ => rfl) ?_
  rintro _ _ (_ | ⟨hfirst, _ | ⟨hsecond, _ | _⟩⟩)
  simp only [hfirst.required Attestation.indifferent, hsecond.required Attestation.indifferent]

def WithdrawalRequest.shape : Shape :=
  .record [("source_address", .other), ("validator_pubkey", .other), ("amount", .integer)]

theorem WithdrawalRequest.indifferent : Indifferent WithdrawalRequest.shape WithdrawalRequest.decode := by
  refine indifferent_record (by decide) (fun _ => rfl) ?_
  rintro _ _ (_ | ⟨haddress, _ | ⟨hpubkey, _ | ⟨hamount, _ | _⟩⟩⟩)
  simp only [required_other haddress, required_other hpubkey, required_integer hamount]

def ConsolidationRequest.shape : Shape :=
  .record [("source_address", .other), ("source_pubkey", .other), ("target_pubkey", .other)]

theorem ConsolidationRequest.indifferent : Indifferent ConsolidationRequest.shape ConsolidationRequest.decode := by
  refine indifferent_record (by decide) (fun _ => rfl) ?_
  rintro _ _ (_ | ⟨haddress, _ | ⟨hsource, _ | ⟨htarget, _ | _⟩⟩⟩)
  simp only [required_other haddress, required_other hsource, required_other htarget]

def DepositRequest.shape : Shape :=
  .record [("pubkey", .other), ("withdrawal_credentials", .other), ("amount", .integer)]

theorem DepositRequest.indifferent : Indifferent DepositRequest.shape DepositRequest.decode := by
  refine indifferent_record (by decide) (fun _ => rfl) ?_
  rintro _ _ (_ | ⟨hpubkey, _ | ⟨hcredentials, _ | ⟨hamount, _ | _⟩⟩⟩)
  simp only [required_other hpubkey, required_other hcredentials, required_integer hamount]

def ExecutionRequests.shape : Shape :=
  .record [("deposits", .list DepositRequest.shape), ("withdrawals", .list WithdrawalRequest.shape),
    ("consolidations", .list ConsolidationRequest.shape)]

theorem ExecutionRequests.indifferent : Indifferent ExecutionRequests.shape ExecutionRequests.decode := by
  refine indifferent_record (by decide) (fun _ => rfl) ?_
  rintro _ _ (_ | ⟨hdeposits, _ | ⟨hwithdrawals, _ | ⟨hconsolidations, _ | _⟩⟩⟩)
  simp only [listed_eq hdeposits DepositRequest.indifferent, listed_eq hwithdrawals WithdrawalRequest.indifferent,
    listed_eq hconsolidations ConsolidationRequest.indifferent]

def BlockBody.shape : Shape :=
  .record [("execution_payload", ExecutionPayload.shape), ("voluntary_exits", .list VoluntaryExit.shape),
    ("proposer_slashings", .list ProposerSlashing.shape), ("attester_slashings", .list AttesterSlashing.shape),
    ("execution_requests", ExecutionRequests.shape)]

theorem BlockBody.indifferent : Indifferent BlockBody.shape BlockBody.decode := by
  refine indifferent_record (by decide) (fun _ => rfl) ?_
  rintro _ _ (_ | ⟨hpayload, _ | ⟨hexits, _ | ⟨hproposers, _ | ⟨hattesters, _ | ⟨hrequests, _ | _⟩⟩⟩⟩⟩)
  simp only [hpayload.optional ExecutionPayload.indifferent, listed_eq hexits VoluntaryExit.indifferent,
    listed_eq hproposers ProposerSlashing.indifferent, listed_eq hattesters AttesterSlashing.indifferent,
    hrequests.optional ExecutionRequests.indifferent]

def Block.shape : Shape :=
  signedShape <| .record [("slot", .integer), ("parent_root", .other), ("body", BlockBody.shape)]

theorem Block.indifferent : Indifferent Block.shape Block.decode := by
  refine indifferent_signed (indifferent_record (by decide) (fun _ => rfl) ?_)
  rintro _ _ (_ | ⟨hslot, _ | ⟨hparent, _ | ⟨hbody, _ | _⟩⟩⟩)
  simp only [required_integer hslot, required_other hparent, hbody.required BlockBody.indifferent]

def Reorg.shape : Shape :=
  .record [("slot", .integer), ("depth", .integer), ("old_head_block", .other), ("new_head_block", .other)]

theorem Reorg.indifferent : Indifferent Reorg.shape Reorg.decode := by
  refine indifferent_record (by decide) (fun _ => rfl) ?_
  rintro _ _ (_ | ⟨hslot, _ | ⟨hdepth, _ | ⟨hold, _ | ⟨hnew, _ | _⟩⟩⟩⟩)
  simp only [required_integer hslot, required_integer hdepth, required_other hold, required_other hnew]

def validatorShape : Shape := .record [("pubkey", .other)]

theorem indifferent_validatorPubkey : Indifferent validatorShape validatorPubkey := by
  refine indifferent_record (by decide) (fun _ => rfl) ?_
  rintro _ _ (_ | ⟨hpubkey, _ | _⟩)
  exact required_other hpubkey _

def ValidatorEntry.shape : Shape := .record [("index", .integer), ("validator", validatorShape)]

theorem ValidatorEntry.indifferent : Indifferent ValidatorEntry.shape ValidatorEntry.decode := by
  refine indifferent_record (by decide) (fun _ => rfl) ?_
  rintro _ _ (_ | ⟨hindex, _ | ⟨hvalidator, _ | _⟩⟩)
  simp only [required_integer hindex, hvalidator.required indifferent_validatorPubkey]

/--
An integer is decoded if it fits, with quotes or without them, and whatever a text is decoded as does not change with
the quotes around its integers.
-/
theorem decode?_respelled
    : (∀ n : Nat, let fitting := if n < UInt64.size then some (UInt64.ofNat n) else none
        decode? Quantity.decode (Value.number (.natural n)).toText = fitting
          ∧ decode? Quantity.decode (Value.text (toString n)).toText = fitting)
      ∧ DecodesAlike Genesis.shape Genesis.decode
      ∧ DecodesAlike BlockHeader.shape BlockHeader.decode
      ∧ DecodesAlike (signedShape BlockHeader.shape) (signed BlockHeader.decode)
      ∧ DecodesAlike HeaderRecord.shape HeaderRecord.decode
      ∧ DecodesAlike ExecutionPayload.shape ExecutionPayload.decode
      ∧ DecodesAlike VoluntaryExit.shape VoluntaryExit.decode
      ∧ DecodesAlike ProposerSlashing.shape ProposerSlashing.decode
      ∧ DecodesAlike Attestation.shape Attestation.decode
      ∧ DecodesAlike AttesterSlashing.shape AttesterSlashing.decode
      ∧ DecodesAlike WithdrawalRequest.shape WithdrawalRequest.decode
      ∧ DecodesAlike ConsolidationRequest.shape ConsolidationRequest.decode
      ∧ DecodesAlike DepositRequest.shape DepositRequest.decode
      ∧ DecodesAlike ExecutionRequests.shape ExecutionRequests.decode
      ∧ DecodesAlike BlockBody.shape BlockBody.decode
      ∧ DecodesAlike Block.shape Block.decode
      ∧ DecodesAlike Reorg.shape Reorg.decode
      ∧ DecodesAlike validatorShape validatorPubkey
      ∧ DecodesAlike ValidatorEntry.shape ValidatorEntry.decode := by
  refine ⟨fun n => ⟨?_, ?_⟩, Genesis.indifferent.decodesAlike, BlockHeader.indifferent.decodesAlike,
    (indifferent_signed BlockHeader.indifferent).decodesAlike, HeaderRecord.indifferent.decodesAlike,
    ExecutionPayload.indifferent.decodesAlike, VoluntaryExit.indifferent.decodesAlike,
    ProposerSlashing.indifferent.decodesAlike, Attestation.indifferent.decodesAlike,
    AttesterSlashing.indifferent.decodesAlike, WithdrawalRequest.indifferent.decodesAlike,
    ConsolidationRequest.indifferent.decodesAlike, DepositRequest.indifferent.decodesAlike,
    ExecutionRequests.indifferent.decodesAlike, BlockBody.indifferent.decodesAlike, Block.indifferent.decodesAlike,
    Reorg.indifferent.decodesAlike, indifferent_validatorPubkey.decodesAlike, ValidatorEntry.indifferent.decodesAlike⟩
  . have hwritten : (Value.number (.natural n)).Written := .number nofun
    rw [decode?, Value.parse?_toText hwritten]
    exact Quantity.decode_natural n
  . have hwritten : (Value.text (toString n)).Written := .string _
    rw [decode?, Value.parse?_toText hwritten]
    exact Quantity.decode_numeral n

namespace Requoted

/-- A slashing in an array, whose second attestation is an array, too. -/
def slashing (first last : Value) : Value :=
  .array [.object [(some "attesting_indices", .array [first, last])], .array [.array [.text "2"]]]

theorem quoted_first (last : Value)
    : Quoted AttesterSlashing.shape (slashing (.number (.natural 1)) last) (slashing (.text "1") last) :=
  .position [] _ rfl (.member [] [] List.mem_cons_self (.item [] [last] (.integer 1)))

theorem quoted_last (first : Value)
    : Quoted AttesterSlashing.shape (slashing first (.number (.natural 18446744073709551615)))
        (slashing first (.text "18446744073709551615")) :=
  .position [] _ rfl (.member [] [] List.mem_cons_self (.item [first] [] (.integer 18446744073709551615)))

theorem parse?_slashing {text : String} {first last : Value} (htext : text = (slashing first last).toText)
    (hfirst : first.Written) (hlast : last.Written)
    : Value.parse? text = some (slashing first last) := by
  have hsigners : (Value.array [first, last]).Written :=
    .array (List.forall_mem_cons.mpr ⟨hfirst, List.forall_mem_singleton.mpr hlast⟩)
  have hattestation : (Value.array [.array [.text "2"]]).Written :=
    .array (List.forall_mem_singleton.mpr (.array (List.forall_mem_singleton.mpr (.string _))))
  have hwritten : (slashing first last).Written :=
    .array (List.forall_mem_cons.mpr
      ⟨.object (List.forall_mem_singleton.mpr hsigners), List.forall_mem_singleton.mpr hattestation⟩)
  rw [htext, Value.parse?_toText hwritten]

/-- The greatest word is decoded in both ways, and the number after it in neither. -/
theorem decode?_respelled_slashing :
    let text := "[\x7b\"attesting_indices\":[\"1\",18446744073709551615]\x7d,[[\"2\"]]]"
    let text' := "[\x7b\"attesting_indices\":[1,\"18446744073709551615\"]\x7d,[[\"2\"]]]"
    Respelled AttesterSlashing.shape text text'
      ∧ decode? AttesterSlashing.decode text = some ⟨⟨[1, 18446744073709551615]⟩, ⟨[2]⟩⟩
      ∧ decode? AttesterSlashing.decode text = decode? AttesterSlashing.decode text'
      ∧ decode? Quantity.decode "18446744073709551616" = none
      ∧ decode? Quantity.decode "\"18446744073709551616\"" = none := by
  intro text text'
  have hparse : Value.parse? text = some (slashing (.text "1") (.number (.natural 18446744073709551615))) :=
    parse?_slashing (by decide +kernel) (.string _) (.number nofun)
  have hparse' : Value.parse? text' = some (slashing (.number (.natural 1)) (.text "18446744073709551615")) :=
    parse?_slashing (by decide +kernel) (.number nofun) (.string _)
  have hrespelled : Respelled AttesterSlashing.shape text text' :=
    ⟨_, _, hparse, hparse', .trans _ _ _ (.symm _ _ (.rel _ _ (quoted_first _))) (.rel _ _ (quoted_last _))⟩
  have ⟨hquantity, _, _, _, _, _, _, _, _, hslashing, _⟩ := decode?_respelled
  have ⟨hnative, hquoted⟩ := hquantity 18446744073709551616
  refine ⟨hrespelled, ?_, hslashing text text' hrespelled, hnative, hquoted⟩
  rw [decode?, hparse]
  decide +kernel

end Requoted
end Beacon
end BeaconSentry

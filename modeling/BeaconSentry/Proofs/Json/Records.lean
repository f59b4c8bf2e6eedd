import BeaconSentry.Json.Decode
import BeaconSentry.Proofs.Json.ReadBack

/-!
This module contains the ways to write data as JSON documents that lose nothing, and how such ways are put together for
lists and for records whose missing fields are left out.
-/

namespace BeaconSentry
namespace Json

variable {α : Type}

section Leaves

attribute [simp] Value.Written.bool

@[simp]
theorem Value.written_text (s : String) : (Value.text s).Written := .string (some s)

@[simp]
theorem Value.written_word (n : UInt64) : (Value.word n).Written := .number nofun

@[simp]
theorem Value.asText_text (s : String) : (Value.text s).asText = some s := rfl

@[simp]
theorem Value.asBool_bool (b : Bool) : (Value.bool b).asBool = some b := rfl

@[simp]
theorem Value.asWord_word (n : UInt64) : (Value.word n).asWord = some n := by
  simp [Value.asWord, Value.word, Value.asNat, n.toNat_lt_size]

@[simp]
theorem required_some (decode : Decoder α) (value : Value) : required decode (some value) = decode value := rfl

end Leaves

/-- A way to write data that loses nothing: what is written can stand in a text, and it is read as what it was. -/
structure Lossless (encode : α → Value) (decode : Decoder α) : Prop where
  written (a : α) : (encode a).Written
  decode_encode (a : α) : decode (encode a) = some a

namespace Lossless

variable {encode : α → Value} {decode : Decoder α}

theorem decode?_toText (h : Lossless encode decode) (a : α) : decode? decode (encode a).toText = some a := by
  rw [decode?, Value.parse?_toText (h.written a), Option.bind_some]
  exact h.decode_encode a

theorem list (h : Lossless encode decode)
    : Lossless (fun items => .array (items.map encode)) (Value.asList decode) where
  written items := .array <| by
    rw [List.forall_mem_map]
    exact fun item _ => h.written item
  decode_encode items := by
    simp only [Value.asList]
    induction items with
    | nil => rfl
    | cons item items ih => simp [List.mapM_cons, h.decode_encode, ih]

/-- An optional part that is left out if it is missing, and that is never written as null. -/
theorem optional_map (h : Lossless encode decode) (hnull : ∀ a, encode a ≠ .null) (part : Option α)
    : optional decode (part.map encode) = some part := by
  cases part with
  | none => rfl
  | some a =>
    rw [Option.map_some, optional.eq_def]
    split
    next heq => cases heq
    next heq => exact absurd (Option.some.inj heq) (hnull a)
    next heq =>
      cases heq
      rw [h.decode_encode, Option.map_some]

end Lossless

namespace Value

/-- The members of an object that gives some of these fields. -/
def given : List String → List (Option Value) → List (String × Value)
  | name :: names, some value :: parts => (name, value) :: given names parts
  | _ :: names, none :: parts => given names parts
  | _, _ => []

/-- The members as they stand in an object. -/
def keyed (members : List (String × Value)) : List (Text × Value) :=
  members.map fun (key, value) => (some key, value)

theorem given_sublist (names : List String) (parts : List (Option Value))
    : ((given names parts).map (·.1)).Sublist names := by
  fun_induction given names parts with
  | case1 name names value parts ih => exact ih.cons_cons name
  | case2 name names parts ih => exact ih.cons name
  | case3 => exact List.nil_sublist _

theorem some_mem_of_mem_given {names : List String} {parts : List (Option Value)} {member : String × Value}
    (h : member ∈ given names parts)
    : some member.2 ∈ parts := by
  fun_induction given names parts with
  | case1 name names value parts ih =>
    rcases List.mem_cons.mp h with rfl | h
    . exact List.mem_cons_self
    . exact List.mem_cons_of_mem _ (ih h)
  | case2 name names parts ih => exact List.mem_cons_of_mem _ (ih h)
  | case3 => cases h

theorem namesUnique_of_nodup {members : List (Text × Value)} (h : (members.map (·.1)).Nodup) (names : List String)
    : namesUnique names members = true := by
  rw [namesUnique, List.all_eq_true]
  intro name _
  have hcount := List.nodup_iff_count.mp h (some name)
  rw [List.count, List.countP_map, List.countP_eq_length_filter] at hcount
  exact decide_eq_true hcount

theorem member?_cons_self (name : String) (value : Value) (members : List (String × Value))
    : member? (keyed ((name, value) :: members)) name = some value := by
  simp [member?, keyed]

theorem member?_cons_of_ne {key name : String} (h : key ≠ name) (value : Value) (members : List (String × Value))
    : member? (keyed ((key, value) :: members)) name = member? (keyed members) name := by
  simp [member?, keyed, h]

theorem member?_of_not_mem {name : String} {members : List (String × Value)} (h : name ∉ members.map (·.1))
    : member? (keyed members) name = none := by
  induction members with
  | nil => rfl
  | cons member members ih =>
    rw [List.map_cons, List.mem_cons, not_or] at h
    rw [member?_cons_of_ne (Ne.symm h.1), ih h.2]

theorem map_member?_given {names : List String} {parts : List (Option Value)} (hnames : names.Nodup)
    (hlength : parts.length = names.length)
    : names.map (member? (keyed (given names parts))) = parts := by
  induction names generalizing parts with
  | nil => exact (List.length_eq_zero_iff.mp hlength).symm
  | cons name names ih =>
    obtain ⟨part, parts, rfl⟩ := List.exists_cons_of_length_eq_add_one hlength
    rw [List.nodup_cons] at hnames
    have hrest := ih hnames.2 (Nat.succ.inj hlength)
    cases part with
    | some value =>
      have hskip : names.map (member? (keyed ((name, value) :: given names parts)))
          = names.map (member? (keyed (given names parts))) :=
        List.map_congr_left fun other hother =>
          member?_cons_of_ne (ne_of_mem_of_not_mem hother hnames.1).symm value _
      rw [given, List.map_cons, member?_cons_self, hskip, hrest]
    | none =>
      have hname : name ∉ (given names parts).map (·.1) := fun hmem =>
        hnames.1 ((given_sublist names parts).mem hmem)
      rw [given, List.map_cons, member?_of_not_mem hname, hrest]

/-- The fields of a record are those that it gives. -/
theorem fields?_given {names : List String} {parts : List (Option Value)} (hnames : names.Nodup)
    (hlength : parts.length = names.length)
    : (Value.record (given names parts)).fields? names = some parts := by
  have hkeys : ((keyed (given names parts)).map (·.1)).Nodup := by
    have hnodup := hnames.sublist (given_sublist names parts)
    rw [keyed, List.map_map]
    rw [List.Nodup, List.pairwise_map] at hnodup ⊢
    exact hnodup.imp fun hne heq => hne (Option.some.inj heq)
  have hall : (keyed (given names parts)).all (·.1.isSome) = true := by
    simp [keyed]
  show fields? names (.object (keyed (given names parts))) = some parts
  rw [fields?, hall, namesUnique_of_nodup hkeys, map_member?_given hnames hlength]
  rfl

theorem written_record {members : List (String × Value)} (h : ∀ member ∈ members, member.2.Written)
    : (Value.record members).Written := by
  refine .object ?_
  rw [List.forall_mem_map]
  exact h

end Value

/-- Records are written without loss if their fields can be read from what is written of them. -/
theorem lossless_record {encode : α → Value} {decode : Decoder α} (names : List String)
    (parts : α → List (Option Value)) (hnames : names.Nodup)
    (hencode : ∀ a, encode a = .record (Value.given names (parts a)) ∧ (parts a).length = names.length)
    (hwritten : ∀ a, ∀ value, some value ∈ parts a → value.Written)
    (hdecode : ∀ a value, value.fields? names = some (parts a) → decode value = some a)
    : Lossless encode decode where
  written a := by
    rw [(hencode a).1]
    exact Value.written_record fun member hmem => hwritten a member.2 (Value.some_mem_of_mem_given hmem)
  decode_encode a := by
    apply hdecode
    rw [(hencode a).1]
    exact Value.fields?_given hnames (hencode a).2

end Json
end BeaconSentry

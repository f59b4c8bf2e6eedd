import BeaconSentry.Json.Decode
import Mathlib.Data.List.Nodup
import Mathlib.Logic.Relation

/-!
This module contains the two ways to write an integer in a JSON document, with and without quotes, and that decoders are
put together for lists and for records so that neither way is told from the other.
-/

namespace BeaconSentry
namespace Json

/-- Where the integers of a document are. The fields of a record are in order. -/
inductive Shape where
  | other
  | integer
  | list (items : Shape)
  | record (fields : List (String × Shape))

/-- The first document has an integer without quotes where the second one has it in quotes. -/
inductive Quoted : Shape → Value → Value → Prop
  | integer (n : Nat) : Quoted .integer (.number (.natural n)) (.text (toString n))
  | item {shape : Shape} {a b : Value} (before after : List Value) (h : Quoted shape a b) :
    Quoted (.list shape) (.array (before ++ a :: after)) (.array (before ++ b :: after))
  | member {fields : List (String × Shape)} {name : String} {shape : Shape} {a b : Value}
      (before after : List (Text × Value)) (hfield : (name, shape) ∈ fields) (h : Quoted shape a b) :
    Quoted (.record fields) (.object (before ++ (some name, a) :: after)) (.object (before ++ (some name, b) :: after))
  | position {fields : List (String × Shape)} {name : String} {shape : Shape} {a b : Value}
      (before after : List Value) (hfield : fields[before.length]? = some (name, shape)) (h : Quoted shape a b) :
    Quoted (.record fields) (.array (before ++ a :: after)) (.array (before ++ b :: after))

/-- The documents of two texts are the same but for the quotes around some of their integers. -/
def Respelled (shape : Shape) (text text' : String) : Prop :=
  ∃ a b, Value.parse? text = some a ∧ Value.parse? text' = some b ∧ Relation.EqvGen (Quoted shape) a b

/-- From two such texts the same is decoded, or nothing from either. -/
def DecodesAlike {α : Type} (shape : Shape) (decode : Decoder α) : Prop :=
  ∀ text text', Respelled shape text text' → decode? decode text = decode? decode text'

/-- A decoder that does not tell whether an integer is in quotes. -/
def Indifferent {α : Type} (shape : Shape) (decode : Decoder α) : Prop :=
  ∀ a b, Quoted shape a b → decode a = decode b

variable {α : Type} {decode : Decoder α} {shape : Shape}

theorem indifferent_other (decode : Decoder α) : Indifferent .other decode := nofun

theorem Quoted.ne_null {a b : Value} (h : Quoted shape a b) : a ≠ .null ∧ b ≠ .null := by
  cases h <;> exact ⟨nofun, nofun⟩

theorem Indifferent.eq_of_eqvGen (hdecode : Indifferent shape decode) {a b : Value}
    (h : Relation.EqvGen (Quoted shape) a b)
    : decode a = decode b := by
  induction h with
  | rel a b h => exact hdecode a b h
  | refl a => rfl
  | symm a b _ ih => exact ih.symm
  | trans a b c _ _ hab hbc => exact hab.trans hbc

theorem Indifferent.decodesAlike (hdecode : Indifferent shape decode) : DecodesAlike shape decode := by
  intro text text' ⟨a, b, ha, hb, hab⟩
  rw [decode?, decode?, ha, hb]
  exact hdecode.eq_of_eqvGen hab

theorem Indifferent.list (hdecode : Indifferent shape decode) : Indifferent (.list shape) (Value.asList decode) := by
  intro _ _ h
  cases h with
  | item before after h =>
    show (before ++ _ :: after).mapM decode = (before ++ _ :: after).mapM decode
    rw [List.mapM_append, List.mapM_append, List.mapM_cons, List.mapM_cons, hdecode _ _ h]

/-- What two documents give for a field is the same but for the quotes of one integer. -/
inductive PartQuoted (shape : Shape) : Option Value → Option Value → Prop
  | same (part : Option Value) : PartQuoted shape part part
  | given {a b : Value} (h : Quoted shape a b) : PartQuoted shape (some a) (some b)

inductive PartsQuoted : List (String × Shape) → List (Option Value) → List (Option Value) → Prop
  | nil : PartsQuoted [] [] []
  | cons {name : String} {shape : Shape} {fields : List (String × Shape)} {part part' : Option Value}
      {parts parts' : List (Option Value)} (hpart : PartQuoted shape part part')
      (hparts : PartsQuoted fields parts parts') :
    PartsQuoted ((name, shape) :: fields) (part :: parts) (part' :: parts')

namespace PartQuoted

variable {part part' : Option Value}

theorem required (h : PartQuoted shape part part') (hdecode : Indifferent shape decode)
    : required decode part = required decode part' := by
  cases h with
  | same => rfl
  | given h => exact hdecode _ _ h

theorem defaulted (h : PartQuoted shape part part') (default : α) (hdecode : Indifferent shape decode)
    : defaulted default decode part = defaulted default decode part' := by
  cases h with
  | same => rfl
  | given h => exact hdecode _ _ h

theorem optional (h : PartQuoted shape part part') (hdecode : Indifferent shape decode)
    : optional decode part = optional decode part' := by
  cases h with
  | same => rfl
  | given h =>
    obtain ⟨ha, hb⟩ := h.ne_null
    rw [Json.optional.eq_3 _ _ ha, Json.optional.eq_3 _ _ hb, hdecode _ _ h]

end PartQuoted

namespace PartsQuoted

theorem refl {fields : List (String × Shape)} {parts : List (Option Value)} (h : parts.length = fields.length)
    : PartsQuoted fields parts parts := by
  induction fields generalizing parts with
  | nil =>
    cases List.length_eq_zero_iff.mp h
    exact .nil
  | cons field fields ih =>
    obtain ⟨part, parts, rfl⟩ := List.exists_cons_of_length_eq_add_one h
    exact .cons (.same part) (ih (Nat.succ.inj h))

theorem map {fields : List (String × Shape)} {f g : String → Option Value}
    (h : ∀ field ∈ fields, PartQuoted field.2 (f field.1) (g field.1))
    : PartsQuoted fields ((fields.map (·.1)).map f) ((fields.map (·.1)).map g) := by
  induction fields with
  | nil => exact .nil
  | cons field fields ih =>
    rw [List.forall_mem_cons] at h
    exact .cons h.1 (ih h.2)

/-- The fields that an array gives, if it has at most one value for each. -/
theorem array {fields : List (String × Shape)} {name : String} {a b : Value} {before after : List Value}
    {missing : List (Option Value)} (hfield : fields[before.length]? = some (name, shape)) (h : Quoted shape a b)
    (hlength : ((before ++ a :: after).map some ++ missing).length = fields.length)
    : PartsQuoted fields ((before ++ a :: after).map some ++ missing) ((before ++ b :: after).map some ++ missing) := by
  induction before generalizing fields with
  | nil =>
    cases fields with
    | nil => cases hfield
    | cons field fields =>
      cases hfield
      exact .cons (.given h) (.refl (Nat.succ.inj hlength))
  | cons first before ih =>
    cases fields with
    | nil => cases hfield
    | cons field fields => exact .cons (.same _) (ih hfield (Nat.succ.inj hlength))

end PartsQuoted

namespace Value

/-- Whether names repeat is seen from the keys alone. -/
theorem namesUnique_eq_all_countP (names : List String) (members : List (Text × Value))
    : namesUnique names members = names.all fun name => (members.map (·.1)).countP (· == some name) ≤ 1 := by
  simp only [namesUnique, ← List.countP_eq_length_filter, List.countP_map]
  rfl

theorem member?_append (members rest : List (Text × Value)) (name : String)
    : member? (members ++ rest) name = (member? members name).or (member? rest name) := by
  rw [member?, List.find?_append, Option.map_or]
  rfl

theorem member?_cons_eq (key : Text) (value : Value) (members : List (Text × Value)) (name : String)
    : member? ((key, value) :: members) name = if key = some name then some value else member? members name := by
  by_cases hkey : key = some name
  . rw [if_pos hkey, member?, List.find?_cons_of_pos (by simp [hkey])]
    rfl
  . rw [if_neg hkey, member?, List.find?_cons_of_neg (by simp [hkey])]
    rfl

/-- Where a key of a record stands for one field only, at most that field changes. -/
theorem partQuoted_member? {fields : List (String × Shape)} {name : String} {a b : Value}
    {before after : List (Text × Value)} (hnames : (fields.map (·.1)).Nodup) (hfield : (name, shape) ∈ fields)
    (h : Quoted shape a b)
    : ∀ field ∈ fields, PartQuoted field.2 (member? (before ++ (some name, a) :: after) field.1)
        (member? (before ++ (some name, b) :: after) field.1) := by
  intro field hmem
  rw [member?_append, member?_append, member?_cons_eq, member?_cons_eq]
  by_cases hname : name = field.1
  . have hsame : field = (name, shape) := List.inj_on_of_nodup_map hnames hmem hfield hname.symm
    subst hsame
    rw [if_pos rfl, if_pos rfl]
    cases member? before name with
    | none => exact .given h
    | some value => exact .same (some value)
  . have hkey : (some name : Text) ≠ some field.1 := fun heq => hname (Option.some.inj heq)
    rw [if_neg hkey, if_neg hkey]
    exact .same _

/-- Two such documents of a record give the same fields, and for them the same but for the quotes. -/
theorem rel_fields? {fields : List (String × Shape)} (hnames : (fields.map (·.1)).Nodup) {a b : Value}
    (h : Quoted (.record fields) a b)
    : Option.Rel (PartsQuoted fields) (a.fields? (fields.map (·.1))) (b.fields? (fields.map (·.1))) := by
  cases h with
  | @member _ name shape a b before after hfield h =>
    have hkeys : (before ++ (some name, a) :: after).map (·.1) = (before ++ (some name, b) :: after).map (·.1) := by
      simp only [List.map_append, List.map_cons]
    have hall : (before ++ (some name, a) :: after).all (·.1.isSome)
        = (before ++ (some name, b) :: after).all (·.1.isSome) := by
      simp only [List.all_append, List.all_cons]
    rw [fields?, fields?, namesUnique_eq_all_countP, namesUnique_eq_all_countP, hkeys, hall]
    split
    . exact .some (.map (partQuoted_member? hnames hfield h))
    . exact .none
  | @position _ name shape a b before after hfield h =>
    have hlength : (before ++ b :: after).length = (before ++ a :: after).length := by
      simp only [List.length_append, List.length_cons]
    rw [fields?, fields?, hlength]
    split
    next hle =>
      refine .some (.array hfield h ?_)
      rw [List.length_append, List.length_map, List.length_replicate, Nat.add_sub_cancel' hle, List.length_map]
    next => exact .none

end Value

/-- A record is built from its fields, so it is enough that this is done without regard to quotes. -/
theorem indifferent_record {fields : List (String × Shape)} {build : List (Option Value) → Option α}
    (hnames : (fields.map (·.1)).Nodup)
    (hdecode : ∀ value, decode value = (value.fields? (fields.map (·.1))).bind build)
    (hbuild : ∀ parts parts', PartsQuoted fields parts parts' → build parts = build parts')
    : Indifferent (.record fields) decode := by
  intro a b h
  have hfields := Value.rel_fields? hnames h
  rw [hdecode a, hdecode b]
  generalize a.fields? (fields.map (·.1)) = parts, b.fields? (fields.map (·.1)) = parts' at hfields ⊢
  cases hfields with
  | none => rfl
  | some hparts => exact hbuild _ _ hparts

end Json
end BeaconSentry

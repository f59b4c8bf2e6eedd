import BeaconSentry.Keys.File
import BeaconSentry.Keys.Source
import BeaconSentry.Proofs.Keys.Last
import Mathlib.Data.Prod.Lex

/-!
This module contains which owned key the sources of owned keys make of a text, from the content that they read on: the
key that is listed last of those with the text.
-/

namespace BeaconSentry

theorem Action.run_bind_eq_ok_iff {ω ε α β : Type} {action : Action ω ε α} {next : α → Action ω ε β} {world after : ω}
    {value : β} :
    (action >>= next).run world = (.ok value, after)
      ↔ ∃ first between, action.run world = (.ok first, between) ∧ (next first).run between = (.ok value, after) := by
  rw [run_bind]
  generalize action.run world = answer
  rcases answer with ⟨_ | _, _⟩ <;> simp

theorem OwnedKeys.getElem?_ofKeys_eq_some_iff {keys : List NamedKey} {text : String} {key : NamedKey} :
    (OwnedKeys.ofKeys keys)[text]? = some key ↔ IsLast (fun key => key.key = text) keys key := by
  have henter (owned : OwnedKeys) (key : NamedKey) (text : String) (found : NamedKey) :
      (owned.insert key.key key)[text]? = some found
        ↔ key.key = text ∧ key = found ∨ key.key ≠ text ∧ owned[text]? = some found := by
    simp only [Std.TreeMap.getElem?_insert, Std.LawfulEqCmp.compare_eq_iff_eq]
    by_cases h : key.key = text <;> simp [h]
  have hempty : (∅ : OwnedKeys)[text]? = none := Std.TreeMap.getElem?_emptyc
  unfold OwnedKeys.ofKeys
  rw [lookup_foldl_eq_some_iff (fun (owned : OwnedKeys) text => owned[text]?) henter, hempty]
  simp

namespace Keys

/-- All operators that are listed, in order, with their modules. -/
def listings (entries : List ModuleOperators) : List (StakingModule × Operator) :=
  entries.flatMap fun entry => entry.operators.map (entry.module, ·)

/-- An operator with its module is the one that a key is registered for. -/
def RegisteredKey.IsFor (registered : RegisteredKey) (listing : StakingModule × Operator) : Prop :=
  Text.lower listing.1.address = Text.lower registered.moduleAddress ∧ listing.2.index = registered.operatorIndex

instance (registered : RegisteredKey) : DecidablePred registered.IsFor :=
  fun _ => inferInstanceAs (Decidable (_ ∧ _))

theorem OperatorTable.getElem?_ofModules_eq_some_iff {entries : List ModuleOperators} {registered : RegisteredKey}
    {named : String × UInt64} :
    (ofModules entries)[(Text.lower registered.moduleAddress, registered.operatorIndex)]? = some named
      ↔ ∃ listing, IsLast registered.IsFor (listings entries) listing
        ∧ (listing.2.name, listing.1.index) = named := by
  let key (listing : StakingModule × Operator) := (Text.lower listing.1.address, listing.2.index)
  let enterListing (table : OperatorTable) (listing : StakingModule × Operator) : OperatorTable :=
    table.insert (key listing) (listing.2.name, listing.1.index)
  have henter (table : OperatorTable) (listing : StakingModule × Operator) (place : String × UInt64)
      (named : String × UInt64) :
      (enterListing table listing)[place]? = some named
        ↔ key listing = place ∧ (listing.2.name, listing.1.index) = named
          ∨ key listing ≠ place ∧ table[place]? = some named := by
    simp only [enterListing, Std.HashMap.getElem?_insert, beq_iff_eq]
    by_cases h : key listing = place <;> simp [h]
  have hentered : ofModules entries = (listings entries).foldl enterListing ∅ := by
    unfold listings ofModules enter
    simp only [List.foldl_flatMap, List.foldl_map]
    rfl
  rw [hentered, lookup_foldl_eq_some_iff (fun (table : OperatorTable) place => table[place]?) henter,
    Std.HashMap.getElem?_empty]
  simp only [key, Prod.mk.injEq, reduceCtorEq, and_false, or_false]
  exact Iff.rfl

/-- What a registered key is to a service: ours if one of its listed operators is the one it is registered for. -/
def RegisteredKey.IsListed (entries : List ModuleOperators) (registered : RegisteredKey) : Prop :=
  ∃ listing ∈ listings entries, registered.IsFor listing

instance (entries : List ModuleOperators) : DecidablePred (RegisteredKey.IsListed entries) :=
  fun _ => inferInstanceAs (Decidable (∃ _ ∈ _, _))

theorem RegisteredKey.named?_eq_some_iff {entries : List ModuleOperators} {registered : RegisteredKey}
    {key : NamedKey} :
    registered.named? (.ofModules entries) = some key
      ↔ ∃ listing, IsLast registered.IsFor (listings entries) listing
        ∧ key = ⟨NamedKey.normalize registered.key, listing.2.name, registered.operatorIndex, listing.1.index⟩ := by
  unfold named?
  rw [Option.map_eq_some_iff]
  simp only [OperatorTable.getElem?_ofModules_eq_some_iff]
  constructor
  . rintro ⟨_, ⟨listing, hlast, rfl⟩, rfl⟩
    exact ⟨listing, hlast, rfl⟩
  . rintro ⟨listing, hlast, rfl⟩
    exact ⟨_, ⟨listing, hlast, rfl⟩, rfl⟩

/-- A key of an unknown operator is passed over. -/
theorem ownedKeys_append_cons {entries : List ModuleOperators} {registered : RegisteredKey}
    (h : ¬registered.IsListed entries) (earlier later : List RegisteredKey)
    : ownedKeys entries (earlier ++ registered :: later) = ownedKeys entries (earlier ++ later) := by
  have hnone : registered.named? (.ofModules entries) = none := by
    rw [Option.eq_none_iff_forall_ne_some]
    intro key hkey
    obtain ⟨listing, hlast, _⟩ := RegisteredKey.named?_eq_some_iff.mp hkey
    exact h (exists_isLast_iff.mp ⟨listing, hlast⟩)
  unfold ownedKeys
  rw [List.filterMap_append, List.filterMap_cons_none hnone, ← List.filterMap_append]

/-- The key that a service lists last of those with a text, with its operator and module as they are listed last. -/
def IsServedLast (entries : List ModuleOperators) (keys : List RegisteredKey) (text : String) (key : NamedKey) : Prop :=
  ∃ registered listing,
    IsLast (fun registered => NamedKey.normalize registered.key = text ∧ registered.IsListed entries) keys registered
      ∧ IsLast registered.IsFor (listings entries) listing
      ∧ key = ⟨text, listing.2.name, registered.operatorIndex, listing.1.index⟩

theorem getElem?_ownedKeys_eq_some_iff {entries : List ModuleOperators} {keys : List RegisteredKey} {text : String}
    {key : NamedKey} :
    (ownedKeys entries keys)[text]? = some key ↔ IsServedLast entries keys text key := by
  have hlisted (registered : RegisteredKey) :
      (∃ key ∈ registered.named? (.ofModules entries), key.key = text)
        ↔ NamedKey.normalize registered.key = text ∧ registered.IsListed entries := by
    unfold RegisteredKey.IsListed
    simp only [Option.mem_def, RegisteredKey.named?_eq_some_iff, ← exists_isLast_iff]
    constructor
    . rintro ⟨_, ⟨listing, hlast, rfl⟩, rfl⟩
      exact ⟨rfl, listing, hlast⟩
    . rintro ⟨rfl, listing, hlast⟩
      exact ⟨_, ⟨listing, hlast, rfl⟩, rfl⟩
  unfold ownedKeys IsServedLast
  rw [OwnedKeys.getElem?_ofKeys_eq_some_iff, isLast_filterMap_iff]
  simp only [hlisted, RegisteredKey.named?_eq_some_iff]
  constructor
  . rintro ⟨registered, hlast, listing, hfor, rfl⟩
    rw [hlast.holds.1]
    exact ⟨registered, listing, hlast, hfor, rfl⟩
  . rintro ⟨registered, listing, hlast, hfor, rfl⟩
    refine ⟨registered, hlast, listing, hfor, ?_⟩
    rw [hlast.holds.1]

namespace ServiceSource

theorem run_ask_eq_ok_iff {ω α : Type} {action : Action ω Net.ProviderError α} {source source' : ServiceSource}
    {world after : ω} {value : α} :
    (ask action).run (source, world) = (.ok value, source', after)
      ↔ action.run world = (.ok value, after) ∧ source' = source := by
  unfold ask
  rw [Action.run_beside, Action.run_mapError]
  generalize action.run world = answer
  rcases answer with ⟨_ | _, _⟩
  . simp
  . constructor
    . intro h
      cases h
      exact ⟨rfl, rfl⟩
    . rintro ⟨h, rfl⟩
      cases h
      rfl

/-- The keys that an update returns are those of the content that the service has answered with. -/
theorem eq_ownedKeys_of_update {ω : Type} {service : Service ω} {source source' : ServiceSource} {world after : ω}
    {owned : OwnedKeys} (h : (update service).run (source, world) = (.ok (some owned), source', after))
    : ∃ entries keys between between', service.operators.run between = (.ok entries, between')
        ∧ service.usedKeys.run between' = (.ok keys, after) ∧ owned = ownedKeys entries keys := by
  obtain ⟨status, ⟨source₁, world₁⟩, _, h⟩ := Action.run_bind_eq_ok_iff.mp h
  simp only [Action.run_bind, Action.run_modify, Action.run_inspect] at h
  split at h
  . cases h
  . obtain ⟨modules, _, _, h⟩ := Action.run_bind_eq_ok_iff.mp h
    obtain ⟨nonce, _, _, h⟩ := Action.run_bind_eq_ok_iff.mp h
    split at h
    . cases h
    . obtain ⟨entries, ⟨source₂, between'⟩, hentries, h⟩ := Action.run_bind_eq_ok_iff.mp h
      obtain ⟨keys, ⟨source₃, world₃⟩, hkeys, h⟩ := Action.run_bind_eq_ok_iff.mp h
      cases h
      exact ⟨entries, keys, _, between', (run_ask_eq_ok_iff.mp hentries).1, (run_ask_eq_ok_iff.mp hkeys).1, rfl⟩

end ServiceSource

namespace KeyFile

/-- A key of an operator is at a place in a file: the module, the operator in it and the key in that, from zero. -/
def Lists (file : KeyFile) (place : Nat × Nat × Nat) (operator : ListedOperator) (raw : String) : Prop :=
  ∃ operators, file[place.1]? = some operators ∧ operators[place.2.1]? = some operator
    ∧ operator.keys[place.2.2]? = some raw

/-- A place comes before another one in a file. -/
def Before : Nat × Nat × Nat → Nat × Nat × Nat → Prop := Prod.Lex (· < ·) (Prod.Lex (· < ·) (· < ·))

/-- The key that a file lists last of those with a text. Modules and the operators of each count from one. -/
def IsListedLast (file : KeyFile) (text : String) (key : NamedKey) : Prop :=
  ∃ place operator raw, file.Lists place operator raw ∧ NamedKey.normalize raw = text
    ∧ (∀ place' operator' raw', file.Lists place' operator' raw' → NamedKey.normalize raw' = text
      → ¬Before place place')
    ∧ key = ⟨text, operator.name, .ofNat (place.2.1 + 1), .ofNat (place.1 + 1)⟩

/-- All keys with their places and operators, in order. -/
def entries (file : KeyFile) : List ((Nat × Nat × Nat) × ListedOperator × String) :=
  file.zipIdx.flatMap fun (operators, m) =>
    operators.zipIdx.flatMap fun (operator, o) =>
      operator.keys.zipIdx.map fun (raw, k) => ((m, o, k), operator, raw)

def named (entry : (Nat × Nat × Nat) × ListedOperator × String) : NamedKey :=
  namedKey (entry.1.1 + 1) (entry.1.2.1 + 1) entry.2.1 entry.2.2

theorem Before.asymm (place place' : Nat × Nat × Nat) (h : Before place place') : ¬Before place' place := by
  unfold Before at *
  rw [Prod.lex_def, Prod.lex_def] at *
  omega

theorem mem_entries_iff {file : KeyFile} {place : Nat × Nat × Nat} {operator : ListedOperator} {raw : String} :
    (place, operator, raw) ∈ file.entries ↔ file.Lists place operator raw := by
  unfold entries Lists
  simp only [List.mem_flatMap, List.mem_map, Prod.exists, List.mk_mem_zipIdx_iff_getElem?, Prod.mk.injEq]
  constructor
  . rintro ⟨operators, m, hm, operator, o, ho, raw, k, hk, rfl, rfl, rfl⟩
    exact ⟨operators, hm, ho, hk⟩
  . rintro ⟨operators, hm, ho, hk⟩
    exact ⟨operators, _, hm, operator, _, ho, raw, _, hk, rfl, rfl, rfl⟩

theorem pairwise_zipIdx {α : Type} (xs : List α) : xs.zipIdx.Pairwise fun part part' => part.2 < part'.2 := by
  rw [← List.pairwise_map (f := Prod.snd), List.zipIdx_map_snd]
  exact List.pairwise_lt_range' 1

theorem pairwise_entries (file : KeyFile) : file.entries.Pairwise fun entry entry' => Before entry.1 entry'.1 := by
  unfold entries
  simp only [List.pairwise_flatMap, List.mem_flatMap, List.pairwise_map, List.mem_map, Before, Prod.lex_def]
  refine ⟨fun (operators, m) _ => ⟨fun (operator, o) _ => ?_, ?_⟩, ?_⟩
  . exact (pairwise_zipIdx operator.keys).imp fun hlt => .inr ⟨trivial, .inr ⟨trivial, hlt⟩⟩
  . apply (pairwise_zipIdx operators).imp
    rintro ⟨operator, o⟩ ⟨operator', o'⟩ hlt _ ⟨_, _, rfl⟩ _ ⟨_, _, rfl⟩
    exact .inr ⟨rfl, .inl hlt⟩
  . apply (pairwise_zipIdx file).imp
    rintro ⟨operators, m⟩ ⟨operators', m'⟩ hlt _ ⟨_, _, _, _, rfl⟩ _ ⟨_, _, _, _, rfl⟩
    exact .inl hlt

theorem namedKeys_eq (file : KeyFile) : file.namedKeys = file.entries.map named := by
  have hkeys (m o : Nat) (operator : ListedOperator) :
      operator.keys.map (namedKey m o operator)
        = operator.keys.zipIdx.map fun part => namedKey m o operator part.1 := by
    conv_lhs => rw [← List.zipIdx_map_fst 0 operator.keys, List.map_map]
    rfl
  unfold namedKeys entries
  simp only [List.zipIdx_eq_map_add (i := 1), List.flatMap_map, List.map_flatMap, List.map_map, hkeys, Nat.add_comm 1]
  rfl

theorem getElem?_ownedKeys_eq_some_iff {file : KeyFile} {text : String} {key : NamedKey} :
    file.ownedKeys[text]? = some key ↔ file.IsListedLast text key := by
  unfold ownedKeys
  rw [OwnedKeys.getElem?_ofKeys_eq_some_iff, namedKeys_eq, isLast_map_iff]
  simp only [isLast_iff_of_pairwise (pairwise_entries file) fun _ _ => Before.asymm _ _, Prod.forall, Prod.exists,
    mem_entries_iff, IsListedLast, named, namedKey]
  constructor
  . rintro ⟨m, o, k, operator, raw, ⟨hlists, htext, hlast⟩, rfl⟩
    exact ⟨m, o, k, operator, raw, hlists, htext, hlast, by rw [htext]⟩
  . rintro ⟨m, o, k, operator, raw, hlists, htext, hlast, rfl⟩
    exact ⟨m, o, k, operator, raw, ⟨hlists, htext, hlast⟩, by rw [htext]⟩

theorem exists_isListedLast_iff (file : KeyFile) (text : String) :
    (∃ key, file.IsListedLast text key)
      ↔ ∃ place operator raw, file.Lists place operator raw ∧ NamedKey.normalize raw = text := by
  have hmem : (∃ key ∈ file.namedKeys, key.key = text) ↔ ∃ entry ∈ file.entries, (named entry).key = text := by
    rw [namedKeys_eq]
    simp
  simp only [← getElem?_ownedKeys_eq_some_iff, ownedKeys, OwnedKeys.getElem?_ofKeys_eq_some_iff, exists_isLast_iff,
    hmem]
  simp only [Prod.exists, mem_entries_iff, named, namedKey]

/-- The operators of a module as a file says them, unless it is malformed. -/
def operators? (value : Yaml.Value) : Option (List ListedOperator) :=
  (ListedOperator.items? value).bind (·.mapM ListedOperator.ofValue?)

theorem ofEntries_cons (name value : Yaml.Value) (rest : List (Yaml.Value × Yaml.Value)) :
    ofEntries ((name, value) :: rest) =
      match operators? value with
      | some operators => (ofEntries rest).map (operators :: ·)
      | none => .error (.badModule name) := by
  unfold ofEntries operators?
  rw [List.mapM_cons]
  dsimp only
  cases (ListedOperator.items? value).bind (·.mapM ListedOperator.ofValue?) with
  | none => rfl
  | some operators => rfl

/-- A file is read from entries that say the operators of each of its modules, in order. -/
theorem ofEntries_eq_ok_iff {entries : List (Yaml.Value × Yaml.Value)} {file : KeyFile} :
    ofEntries entries = .ok file ↔ entries.map (operators? ·.2) = file.map some := by
  induction entries generalizing file with
  | nil =>
    have hnil : ofEntries [] = .ok [] := rfl
    cases file <;> simp [hnil]
  | cons entry rest ih =>
    rcases entry with ⟨name, value⟩
    rw [ofEntries_cons, List.map_cons]
    cases operators? value with
    | none => cases file <;> simp
    | some operators => cases file <;> cases hrest : ofEntries rest <;> simp_all [Except.map]

/-- If a file cannot be read, this is since its first malformed module is. -/
theorem exists_of_ofEntries_eq_error {entries : List (Yaml.Value × Yaml.Value)} {error : FileError}
    (h : ofEntries entries = .error error)
    : ∃ earlier name value later, entries = earlier ++ (name, value) :: later
        ∧ (∀ entry ∈ earlier, operators? entry.2 ≠ none) ∧ operators? value = none ∧ error = .badModule name := by
  induction entries with
  | nil => cases h
  | cons entry rest ih =>
    rcases entry with ⟨name, value⟩
    rw [ofEntries_cons] at h
    cases hvalue : operators? value with
    | none =>
      rw [hvalue] at h
      cases h
      exact ⟨[], name, value, rest, rfl, List.forall_mem_nil _, hvalue, rfl⟩
    | some operators =>
      rw [hvalue] at h
      cases hrest : ofEntries rest with
      | ok => simp [hrest, Except.map] at h
      | error error' =>
        rw [hrest] at h
        cases h
        obtain ⟨earlier, name', value', later, rfl, hearlier, hmalformed, heq⟩ := ih hrest
        refine ⟨(name, value) :: earlier, name', value', later, rfl, ?_, hmalformed, heq⟩
        exact List.forall_mem_cons.mpr ⟨by simp [hvalue], hearlier⟩

end KeyFile

/-- A version of a file says what its modules are. -/
def FileVersion.Says (version : FileVersion) (entries : List (Yaml.Value × Yaml.Value)) : Prop :=
  ∃ bytes text, version.content = some bytes ∧ Utf8.decode? bytes = some text
    ∧ Yaml.entriesOfText? text = some entries

theorem FileSource.update_of_saying {seen found : FileVersion} {source : FileSource}
    {entries : List (Yaml.Value × Yaml.Value)} (hsaid : found.Says entries)
    (hmodified : source.lastModified ≠ some seen.modified)
    : update (some seen) (some found) source =
        match KeyFile.ofEntries entries with
        | .ok file => (.ok (some file.ownedKeys), ⟨some seen.modified⟩)
        | .error error => (.error error, source) := by
  rcases found with ⟨modified, content⟩
  obtain ⟨bytes, text, rfl, htext, hentries⟩ := hsaid
  have hversion : ownedKeysOfVersion (some ⟨modified, some bytes⟩)
      = (KeyFile.ofEntries entries).map KeyFile.ownedKeys := by
    unfold ownedKeysOfVersion KeyFile.ownedKeysOfBytes KeyFile.parse
    simp only [htext, hentries]
  unfold update
  dsimp only
  rw [if_neg hmodified, hversion]
  cases KeyFile.ofEntries entries <;> rfl

end Keys
end BeaconSentry

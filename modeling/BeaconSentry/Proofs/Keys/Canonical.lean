import BeaconSentry.Proofs.Keys.Listed
import BeaconSentry.Proofs.Keys.Reloads
import BeaconSentry.Proofs.Text.Trimming
import Mathlib.Logic.Relation

/-!
This module contains that the normal form of a key is the same for all of its spellings, and that the maps of owned keys
that sources return hold no key in two spellings.
-/

namespace BeaconSentry

namespace NamedKey

/--
Two spellings of a key: the second one has more blanks at its ends, or they are the same but for the case of ASCII
letters, which are the only ones that `String.toLower` knows.
-/
inductive Respelled : String → String → Prop
  | padded (before key after : String) (hbefore : before.toList.all Text.isBlank = true)
      (hafter : after.toList.all Text.isBlank = true) : Respelled key (before ++ key ++ after)
  | recased {key key' : String} (h : key.toLower = key'.toLower) : Respelled key key'

theorem normalize_eq (key : String) : normalize key = String.ofList (Text.lowerList (Text.trimList key.toList)) := by
  rw [normalize, Text.lower, Text.trim, String.toList_ofList]

theorem normalize_normalize (key : String) : normalize (normalize key) = normalize key := by
  have htrimmed := (Text.isTrimmed_trimList key.toList).lowerList
  rw [normalize_eq, normalize_eq key, String.toList_ofList, htrimmed.trimList_eq, Text.lowerList_lowerList]

theorem toList_toLower (key : String) : key.toLower.toList = key.toList.map Char.toLower := String.toList_map

theorem normalize_toLower (key : String) : normalize key.toLower = normalize key := by
  rw [normalize_eq, normalize_eq, toList_toLower, Text.trimList_map_toLower]
  unfold Text.lowerList
  rw [Text.go_map_toLower]

theorem Respelled.normalize_eq {key key' : String} (h : Respelled key key') : normalize key = normalize key' := by
  cases h with
  | padded before key after hbefore hafter =>
    rw [NamedKey.normalize_eq, NamedKey.normalize_eq, String.toList_append, String.toList_append,
      Text.trimList_pad key.toList (List.all_eq_true.mp hbefore) (List.all_eq_true.mp hafter)]
  | recased h => rw [← normalize_toLower key, ← normalize_toLower key', h]

theorem normalize_eq_of_eqvGen {key key' : String} (h : Relation.EqvGen Respelled key key') :
    normalize key = normalize key' := by
  induction h with
  | rel key key' h => exact h.normalize_eq
  | refl key => rfl
  | symm key key' _ ih => exact ih.symm
  | trans key key' key'' _ _ h h' => exact h.trans h'

end NamedKey

open NamedKey

/-- Each key is under its own text, which is its normal form, and no two texts are spellings of one key. -/
structure OwnedKeys.IsCanonical (owned : OwnedKeys) : Prop where
  text_eq : ∀ (text : String) (key : NamedKey), owned[text]? = some key → key.key = text
  normal : ∀ (text : String) (key : NamedKey), owned[text]? = some key → normalize key.key = key.key
  apart : ∀ text ∈ owned, ∀ text' ∈ owned, Relation.EqvGen Respelled text text' → text = text'

theorem OwnedKeys.isCanonical_of_normalize {owned : OwnedKeys}
    (h : ∀ (text : String) (key : NamedKey), owned[text]? = some key → key.key = text ∧ ∃ raw, normalize raw = text) :
    owned.IsCanonical := by
  have hnormal (text : String) (hmem : text ∈ owned) : normalize text = text := by
    obtain ⟨key, hkey⟩ := Option.isSome_iff_exists.mp (Std.TreeMap.mem_iff_isSome_getElem?.mp hmem)
    obtain ⟨raw, rfl⟩ := (h text key hkey).2
    exact normalize_normalize raw
  constructor
  . exact fun text key hkey => (h text key hkey).1
  . intro text key hkey
    rw [(h text key hkey).1]
    exact hnormal text (Std.TreeMap.mem_iff_isSome_getElem?.mpr (Option.isSome_of_mem hkey))
  . intro text hmem text' hmem' hspelled
    rw [← hnormal text hmem, ← hnormal text' hmem', normalize_eq_of_eqvGen hspelled]

namespace Keys

theorem isCanonical_ownedKeys (entries : List ModuleOperators) (keys : List RegisteredKey) :
    (ownedKeys entries keys).IsCanonical := by
  refine OwnedKeys.isCanonical_of_normalize fun text key hkey => ?_
  obtain ⟨registered, listing, hlast, _, rfl⟩ := getElem?_ownedKeys_eq_some_iff.mp hkey
  exact ⟨rfl, registered.key, hlast.holds.1⟩

theorem KeyFile.isCanonical_ownedKeys (file : KeyFile) : file.ownedKeys.IsCanonical := by
  refine OwnedKeys.isCanonical_of_normalize fun text key hkey => ?_
  obtain ⟨place, operator, raw, _, htext, _, rfl⟩ := KeyFile.getElem?_ownedKeys_eq_some_iff.mp hkey
  exact ⟨rfl, raw, htext⟩

theorem exists_eq_ownedKeys_of_version {version : Option FileVersion} {owned : OwnedKeys}
    (h : ownedKeysOfVersion version = .ok owned) : ∃ file : KeyFile, owned = file.ownedKeys := by
  unfold ownedKeysOfVersion KeyFile.ownedKeysOfBytes at h
  split at h
  . cases h
  . cases h
  . split at h
    . next text _ =>
      cases hfile : KeyFile.parse text with
      | ok file =>
        rw [hfile] at h
        cases h
        exact ⟨file, rfl⟩
      | error error =>
        rw [hfile] at h
        cases h
    . cases h

/-- A map of owned keys that an update of a source returns. -/
inductive Returned (owned : OwnedKeys) : Prop
  | served {ω : Type} (service : Service ω) (source : ServiceSource) (world : ω)
      (h : ((ServiceSource.update service).run (source, world)).1 = .ok (some owned)) : Returned owned
  | read (seen found : Option FileVersion) (source : FileSource)
      (h : (FileSource.update seen found source).1 = .ok (some owned)) : Returned owned

theorem Returned.isCanonical {owned : OwnedKeys} (h : Returned owned) : owned.IsCanonical := by
  cases h with
  | served service source world h =>
    obtain ⟨entries, keys, _, _, _, _, rfl⟩ := ServiceSource.eq_ownedKeys_of_update (Prod.ext h rfl)
    exact isCanonical_ownedKeys entries keys
  | read seen found source h =>
    have hupdated := FileSource.updated_update seen found source
    rw [h] at hupdated
    generalize (FileSource.update seen found source).2 = source' at hupdated
    cases hupdated with
    | loaded _ _ hfound =>
      obtain ⟨file, rfl⟩ := exists_eq_ownedKeys_of_version hfound
      exact file.isCanonical_ownedKeys

/--
The normal form of a key stays as it is, and it is the same for any blanks around the key and for any case of its ASCII
letters. So a map that a source returns has each key under its own normal form, and none in two spellings.
-/
theorem normalize_canonical :
    (∀ key, normalize (normalize key) = normalize key)
      ∧ (∀ key key', Relation.EqvGen Respelled key key' → normalize key = normalize key')
      ∧ ∀ owned, Returned owned → owned.IsCanonical :=
  ⟨normalize_normalize, fun _ _ => normalize_eq_of_eqvGen, fun _ => Returned.isCanonical⟩

namespace Spelled

/-- Two spellings of a key. Each ends with a sigma, which becomes a final one. -/
def raws : List String := ["\u00a00xAΣ", "0xaΣ\u3000"]

def service : Service Unit :=
  let module : StakingModule := ⟨1, "0xAB", 3, "curated"⟩
  { status := pure ⟨"1.0", 1, ⟨100, "0x00", 10⟩⟩
    modules := pure [module]
    operators := pure [⟨module, [⟨7, "Alpha"⟩]⟩]
    usedKeys := pure (raws.map (⟨·, 7, "0xab"⟩))
    showBlock := fun _ world => world }

def version : FileVersion where
  modified := ⟨0, 0⟩
  content := some ("curated:\n- name: Alpha\n  keys: [" ++ ", ".intercalate raws ++ "]\n").toUTF8.toList

theorem respelled : Relation.EqvGen Respelled "\u00a00xAΣ" "0xaΣ\u3000" := by
  have hbefore : Respelled "0xAΣ" "\u00a00xAΣ" := .padded "\u00a0" "0xAΣ" "" (by decide) (by decide)
  have hcase : Respelled "0xAΣ" "0xaΣ" := by
    apply Respelled.recased
    rw [← String.toList_inj, toList_toLower, toList_toLower]
    decide
  have hafter : Respelled "0xaΣ" "0xaΣ\u3000" := .padded "" "0xaΣ" "\u3000" (by decide) (by decide)
  exact .trans _ _ _ (.symm _ _ (.rel _ _ hbefore)) (.trans _ _ _ (.rel _ _ hcase) (.rel _ _ hafter))

theorem exists_read :
    ∃ owned, (FileSource.update (some version) (some version) .start).1 = .ok (some owned) ∧ owned.keys = ["0xaς"] := by
  have hkeys : (FileSource.update (some version) (some version) .start).1.toOption.join.map (·.keys)
      = some ["0xaς"] := by
    decide +kernel
  generalize (FileSource.update (some version) (some version) .start).1 = result at hkeys ⊢
  rcases result with _ | _ | owned
  . cases hkeys
  . cases hkeys
  . exact ⟨owned, rfl, Option.some.inj hkeys⟩

theorem normalize_canonical_spelled :
    normalize "\u00a00xAΣ" = normalize "0xaΣ\u3000"
      ∧ (∃ owned, ((ServiceSource.update service).run (.start, ())).1 = .ok (some owned) ∧ owned.IsCanonical)
      ∧ ∃ owned, (FileSource.update (some version) (some version) .start).1 = .ok (some owned)
        ∧ owned.keys = ["0xaς"] ∧ owned.IsCanonical := by
  have ⟨_, hrespelled, hreturned⟩ := normalize_canonical
  refine ⟨hrespelled _ _ respelled, ?_, ?_⟩
  . exact ⟨_, rfl, hreturned _ (.served service .start () rfl)⟩
  . obtain ⟨owned, howned, hkeys⟩ := exists_read
    exact ⟨owned, howned, hkeys, hreturned owned (.read (some version) (some version) .start howned)⟩

end Spelled
end Keys
end BeaconSentry

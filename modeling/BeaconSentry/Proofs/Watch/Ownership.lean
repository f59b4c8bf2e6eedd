import BeaconSentry.Proofs.Keys.Listed
import BeaconSentry.Watch.Owner

/-!
This module contains whom a validator belongs to, from the content of the source of owned keys on: to the operator for
which the source lists the public key of the validator last.
-/

namespace BeaconSentry
namespace Watch

open Beacon Keys

/--
Whom validators belong to, with these owned keys: if there is a source key for the public key of a validator, to whom
the last such one names.
-/
structure Resolves (owned : OwnedKeys) (isSourceKey : String → Prop) (last : String → NamedKey → Prop) : Prop where
  unknown_iff : ∀ registry index, Owner.of index registry owned = .unknown ↔ index ∉ registry
  owned_iff : ∀ registry index pubkey, registry[index]? = some pubkey →
    ((∃ key, Owner.of index registry owned = .owned key) ↔ isSourceKey (NamedKey.normalize pubkey))
  key_iff : ∀ registry index pubkey key, registry[index]? = some pubkey →
    (Owner.of index registry owned = .owned key ↔ last (NamedKey.normalize pubkey) key)
  other_iff : ∀ registry index pubkey, registry[index]? = some pubkey →
    (Owner.of index registry owned = .other ↔ ¬isSourceKey (NamedKey.normalize pubkey))

theorem Owner.of_eq_of_getElem? {registry : Registry} {index : ValidatorIndex} {pubkey : String}
    (h : registry[index]? = some pubkey) (owned : OwnedKeys)
    : Owner.of index registry owned =
        match owned.owner? pubkey with
        | some key => .owned key
        | none => .other := by
  rw [Owner.of]
  cases howner : owned.owner? pubkey with
  | none => simp only [h, howner]
  | some key => simp only [h, howner]

theorem Resolves.of_getElem? {owned : OwnedKeys} {isSourceKey : String → Prop} {last : String → NamedKey → Prop}
    (hlast : ∀ text key, owned[text]? = some key ↔ last text key)
    (hexists : ∀ text, (∃ key, last text key) ↔ isSourceKey text)
    : Resolves owned isSourceKey last := by
  have hlast (pubkey : String) (key : NamedKey) :
      last (NamedKey.normalize pubkey) key ↔ owned.owner? pubkey = some key := (hlast ..).symm
  have hexists (pubkey : String) :
      isSourceKey (NamedKey.normalize pubkey) ↔ ∃ key, owned.owner? pubkey = some key := by
    simp only [← hexists, hlast]
  constructor
  . exact fun _ _ => Owner.of_eq_unknown_iff
  . intro registry index pubkey hpubkey
    rw [hexists, Owner.of_eq_of_getElem? hpubkey]
    cases owned.owner? pubkey <;> simp
  . intro registry index pubkey key hpubkey
    rw [hlast, Owner.of_eq_of_getElem? hpubkey]
    cases owned.owner? pubkey <;> simp
  . intro registry index pubkey hpubkey
    rw [hexists, Owner.of_eq_of_getElem? hpubkey]
    cases owned.owner? pubkey <;> simp

theorem resolves_served (entries : List ModuleOperators) (keys : List RegisteredKey) :
    Resolves (Keys.ownedKeys entries keys)
      (fun text => ∃ registered ∈ keys, NamedKey.normalize registered.key = text ∧ registered.IsListed entries)
      (IsServedLast entries keys) := by
  apply Resolves.of_getElem? fun _ _ => Keys.getElem?_ownedKeys_eq_some_iff
  intro text
  rw [← exists_isLast_iff]
  unfold IsServedLast
  constructor
  . rintro ⟨_, registered, _, hlast, _, rfl⟩
    exact ⟨registered, hlast⟩
  . intro ⟨registered, hlast⟩
    obtain ⟨listing, hfor⟩ := exists_isLast_iff.mpr hlast.holds.2
    exact ⟨_, registered, listing, hlast, hfor, rfl⟩

theorem resolves_listed (file : KeyFile) :
    Resolves file.ownedKeys
      (fun text => ∃ place operator raw, file.Lists place operator raw ∧ NamedKey.normalize raw = text)
      file.IsListedLast := by
  apply Resolves.of_getElem? fun _ _ => KeyFile.getElem?_ownedKeys_eq_some_iff
  exact KeyFile.exists_isListedLast_iff file

/--
A validator that is not in the registry has an unknown owner. One whose public key is a source key has the owner that
the last such source key names, and any other one has another owner. The source keys of a service are the keys of the
operators that it lists, and keys of unknown operators change nothing. Those of a file are all keys in it, and a file
with a malformed module has none, since it is not taken.
-/
theorem resolves_sources :
    (∀ entries keys, Resolves (Keys.ownedKeys entries keys)
        (fun text => ∃ registered ∈ keys, NamedKey.normalize registered.key = text ∧ registered.IsListed entries)
        (IsServedLast entries keys))
      ∧ (∀ entries earlier later (registered : RegisteredKey), ¬registered.IsListed entries
        → Keys.ownedKeys entries (earlier ++ registered :: later) = Keys.ownedKeys entries (earlier ++ later))
      ∧ (∀ (ω : Type) (service : Service ω) (source source' : ServiceSource) (world after : ω) (owned : OwnedKeys),
        (ServiceSource.update service).run (source, world) = (.ok (some owned), source', after)
          → ∃ entries keys between between', service.operators.run between = (.ok entries, between')
            ∧ service.usedKeys.run between' = (.ok keys, after) ∧ owned = Keys.ownedKeys entries keys)
      ∧ (∀ file : KeyFile, Resolves file.ownedKeys
        (fun text => ∃ place operator raw, file.Lists place operator raw ∧ NamedKey.normalize raw = text)
        file.IsListedLast)
      ∧ ∀ (seen found : FileVersion) (source : FileSource) entries, found.Says entries
        → source.lastModified ≠ some seen.modified →
          let updated := FileSource.update (some seen) (some found) source
          (∀ file : KeyFile, entries.map (KeyFile.operators? ·.2) = file.map some
            → updated = (.ok (some file.ownedKeys), ⟨some seen.modified⟩))
          ∧ ((∃ entry ∈ entries, KeyFile.operators? entry.2 = none)
            → ∃ earlier name value later, entries = earlier ++ (name, value) :: later
              ∧ (∀ entry ∈ earlier, KeyFile.operators? entry.2 ≠ none) ∧ KeyFile.operators? value = none
              ∧ updated = (.error (.badModule name), source)) := by
  refine ⟨resolves_served, fun _ _ _ _ h => ownedKeys_append_cons h _ _,
    fun _ _ _ _ _ _ _ => ServiceSource.eq_ownedKeys_of_update, resolves_listed, ?_⟩
  intro seen found source entries hsaid hmodified updated
  have hupdated : updated = _ := FileSource.update_of_saying hsaid hmodified
  rw [hupdated]
  constructor
  . intro file hfile
    rw [KeyFile.ofEntries_eq_ok_iff.mpr hfile]
  . intro ⟨entry, hmem, hmalformed⟩
    cases hread : KeyFile.ofEntries entries with
    | ok file =>
      have hentry : KeyFile.operators? entry.2 ∈ file.map some := by
        rw [← KeyFile.ofEntries_eq_ok_iff.mp hread]
        exact List.mem_map_of_mem hmem
      rw [hmalformed] at hentry
      simp at hentry
    | error error =>
      obtain ⟨earlier, name, value, later, hentries, hearlier, hvalue, rfl⟩ :=
        KeyFile.exists_of_ofEntries_eq_error hread
      exact ⟨earlier, name, value, later, hentries, hearlier, hvalue, rfl⟩

namespace Disputed

/-- Beta is listed in place of Alpha, and Gamma is in another module at the same address. -/
def entries : List ModuleOperators :=
  [⟨⟨1, "0xAB", 3, "curated"⟩, [⟨0, "Alpha"⟩, ⟨0, "Beta"⟩]⟩, ⟨⟨2, "0xab", 4, "community"⟩, [⟨1, "Gamma"⟩]⟩]

/-- The key of Gamma is listed for Beta too, and then for an operator that nobody knows. -/
def keys : List RegisteredKey := [⟨" 0xAA", 1, "0xAb"⟩, ⟨"0xaa", 0, "0xaB"⟩, ⟨"0xAA", 9, "0xab"⟩]

def registry : Registry := (∅ : Registry).insert 7 "0xaA "

/-- The second module is no list of operators. -/
def text : String := "good:\n- name: Alpha\n  keys: [\" 0xAA\"]\nbad: 5\n"

def version : FileVersion := ⟨⟨0, 0⟩, some text.toUTF8.toList⟩

theorem isServedLast : IsServedLast entries keys "0xaa" ⟨"0xaa", "Beta", 0, 1⟩ := by
  refine ⟨⟨"0xaa", 0, "0xaB"⟩, (⟨1, "0xAB", 3, "curated"⟩, ⟨0, "Beta"⟩), ?_, ?_, rfl⟩
  . exact ⟨[⟨" 0xAA", 1, "0xAb"⟩], [⟨"0xAA", 9, "0xab"⟩], rfl, by decide +kernel, by decide +kernel⟩
  . refine ⟨[(⟨1, "0xAB", 3, "curated"⟩, ⟨0, "Alpha"⟩)], [(⟨2, "0xab", 4, "community"⟩, ⟨1, "Gamma"⟩)], rfl, ?_, ?_⟩
    . decide +kernel
    . decide +kernel

theorem says_version :
    ∃ modules, version.Says modules ∧ modules.map (KeyFile.operators? ·.2) = [some [⟨"Alpha", [" 0xAA"]⟩], none] := by
  have hmodules : (Yaml.entriesOfText? text).any
      (·.map (KeyFile.operators? ·.2) = [some [⟨"Alpha", [" 0xAA"]⟩], none]) = true := by
    decide +kernel
  have htext : Utf8.decode? text.toUTF8.toList = some text := by decide +kernel
  obtain ⟨modules, hsome, hmap⟩ := (Option.any_eq_true ..).mp hmodules
  exact ⟨modules, ⟨_, text, rfl, htext, hsome⟩, of_decide_eq_true hmap⟩

theorem resolves_disputed :
    Owner.of 7 registry (Keys.ownedKeys entries keys) = .owned ⟨"0xaa", "Beta", 0, 1⟩
      ∧ Owner.of 8 registry (Keys.ownedKeys entries keys) = .unknown
      ∧ ∃ name, FileSource.update (some version) (some version) .start = (.error (.badModule name), .start) := by
  have ⟨hserved, _, _, _, hfile⟩ := resolves_sources
  have hresolves := hserved entries keys
  refine ⟨?_, ?_, ?_⟩
  . refine (hresolves.key_iff registry 7 "0xaA " _ (by decide +kernel)).mpr ?_
    have hnormalize : NamedKey.normalize "0xaA " = "0xaa" := by decide +kernel
    rw [hnormalize]
    exact isServedLast
  . exact (hresolves.unknown_iff registry 8).mpr (by decide +kernel)
  . obtain ⟨modules, hsaid, hmodules⟩ := says_version
    have hmalformed : ∃ entry ∈ modules, KeyFile.operators? entry.2 = none := by
      have hnone : none ∈ modules.map (KeyFile.operators? ·.2) := by simp [hmodules]
      exact List.mem_map.mp hnone
    obtain ⟨_, name, _, _, _, _, _, hupdate⟩ := (hfile version version .start modules hsaid nofun).2 hmalformed
    exact ⟨name, hupdate⟩

end Disputed
end Watch
end BeaconSentry

import BeaconSentry.Keys.File

/-!
This module contains the law of the source of owned keys that follows a key file: whenever the file may be replaced,
also while the source is looking at it, an update that ends well while the file stays the same leaves the keys of its
content as the last ones, and a version that could not be loaded is tried again.
-/

namespace BeaconSentry
namespace Keys

/-- The versions of a key file, one after the other, or none while there is no file. No two are modified at one time. -/
structure FileHistory where
  version : Nat → Option FileVersion
  eq_of_modified : ∀ {m n : Nat} {older newer : FileVersion}, version m = some older → version n = some newer
    → older.modified = newer.modified → m = n

namespace FileSource

variable {seen found : Option FileVersion} {source : FileSource}

/-- What an update can do to a source, and how it can end. -/
inductive Updated (seen found : Option FileVersion) (source : FileSource) :
    Except FileError (Option OwnedKeys) → FileSource → Prop
  | absent (hseen : seen = none) : Updated seen found source (.error .absent) source
  | unchanged {version : FileVersion} (hseen : seen = some version)
      (hsame : source.lastModified = some version.modified) : Updated seen found source (.ok none) source
  | failed {version : FileVersion} {error : FileError} (hseen : seen = some version)
      (hnew : source.lastModified ≠ some version.modified) (hfound : ownedKeysOfVersion found = .error error) :
    Updated seen found source (.error error) source
  | loaded {version : FileVersion} {keys : OwnedKeys} (hseen : seen = some version)
      (hnew : source.lastModified ≠ some version.modified) (hfound : ownedKeysOfVersion found = .ok keys) :
    Updated seen found source (.ok (some keys)) ⟨some version.modified⟩

theorem updated_update (seen found : Option FileVersion) (source : FileSource)
    : Updated seen found source (update seen found source).1 (update seen found source).2 := by
  cases hseen : seen with
  | none => exact .absent rfl
  | some version =>
    unfold update
    dsimp only
    split
    . next hsame => exact .unchanged rfl hsame
    . next hnew =>
      split
      . next keys hfound => exact .loaded rfl hnew hfound
      . next error hfound => exact .failed rfl hnew hfound

/-- A source that does not remember the version that it sees updates like a new one. -/
theorem update_eq_start (h : ∀ version ∈ seen, source.lastModified ≠ some version.modified)
    : (update seen found source).1 = (update seen found .start).1 := by
  cases seen with
  | none => rfl
  | some version =>
    have hstart : start.lastModified ≠ some version.modified := nofun
    unfold update
    dsimp only
    rw [if_neg (h version rfl), if_neg hstart]
    cases ownedKeysOfVersion found <;> rfl

end FileSource

/-- A source, how far its file has come, and the keys that the source has returned last. -/
structure FileFollower where
  source : FileSource
  position : Nat
  keys : Option OwnedKeys

namespace FileFollower

/-- The file has not been looked at yet. -/
def start : FileFollower := ⟨.start, 0, none⟩

/-- The file is replaced some times while nothing looks at it. -/
def advance (n : Nat) (follower : FileFollower) : FileFollower :=
  { follower with position := follower.position + n }

/-- The keys that were returned last, once an update has ended. -/
def latest (keys : Option OwnedKeys) : Except FileError (Option OwnedKeys) → Option OwnedKeys
  | .ok (some returned) => some returned
  | _ => keys

/-- Look for new keys, and keep those that are returned. The file is replaced `n` times before it is read. -/
def update (history : FileHistory) (n : Nat) (follower : FileFollower)
    : Except FileError (Option OwnedKeys) × FileFollower :=
  let found := follower.position + n
  let (result, source) :=
    FileSource.update (history.version follower.position) (history.version found) follower.source
  (result, ⟨source, found, latest follower.keys result⟩)

/-- What becomes of some updates: how often the file is replaced before each one, and during it. -/
def updates (history : FileHistory) : List (Nat × Nat) → FileFollower → FileFollower
  | [], follower => follower
  | (before, during) :: rest, follower =>
    updates history rest ((follower.advance before).update history during).2

/-- The keys are those of the present content of the file. -/
def IsCurrent (history : FileHistory) (follower : FileFollower) : Prop :=
  ∃ keys, follower.keys = some keys ∧ ownedKeysOfVersion (history.version follower.position) = .ok keys

/--
What is remembered of the file is the time of a version that it has come to. If that is the present one, the keys are
those of its content.
-/
def IsUpToDate (history : FileHistory) (follower : FileFollower) : Prop :=
  ∀ modified, follower.source.lastModified = some modified → ∃ seen version, seen ≤ follower.position
    ∧ history.version seen = some version ∧ version.modified = modified
    ∧ (seen = follower.position → follower.IsCurrent history)

section

variable {history : FileHistory} {follower : FileFollower}

theorem isUpToDate_start (history : FileHistory) : start.IsUpToDate history := nofun

theorem isUpToDate_advance (h : follower.IsUpToDate history) (n : Nat) : (follower.advance n).IsUpToDate history := by
  intro modified hmodified
  obtain ⟨seen, version, hle, hversion, htime, hcurrent⟩ := h modified hmodified
  refine ⟨seen, version, Nat.le_add_right_of_le hle, hversion, htime, fun heq => ?_⟩
  have hzero : n = 0 := by
    have : seen = follower.position + n := heq
    omega
  subst hzero
  exact hcurrent heq

theorem exists_updated (history : FileHistory) (n : Nat) (follower : FileFollower)
    : ∃ result source,
        follower.update history n = (result, ⟨source, follower.position + n, latest follower.keys result⟩)
          ∧ FileSource.Updated (history.version follower.position) (history.version (follower.position + n))
            follower.source result source :=
  ⟨_, _, rfl, FileSource.updated_update ..⟩

theorem isUpToDate_update (h : follower.IsUpToDate history) (n : Nat)
    : (follower.update history n).2.IsUpToDate history := by
  obtain ⟨result, source, hrun, hupdated⟩ := exists_updated history n follower
  rw [hrun]
  cases hupdated with
  | absent => exact isUpToDate_advance h n
  | unchanged => exact isUpToDate_advance h n
  | failed => exact isUpToDate_advance h n
  | @loaded version keys hseen _ hfound =>
    -- What was read may belong to a later version than what is remembered, but that one is gone for good.
    intro modified hmodified
    cases hmodified
    exact ⟨follower.position, version, Nat.le_add_right .., hseen, rfl, fun _ => ⟨keys, rfl, hfound⟩⟩

theorem isUpToDate_updates (visits : List (Nat × Nat)) (h : follower.IsUpToDate history)
    : (updates history visits follower).IsUpToDate history := by
  induction visits generalizing follower with
  | nil => exact h
  | cons visit rest ih => exact ih (isUpToDate_update (isUpToDate_advance h visit.1) visit.2)

/-- A time that is remembered is that of the present version only if the file has not been replaced since. -/
theorem position_eq_of_same (h : follower.IsUpToDate history) {n : Nat} {version : FileVersion}
    (hversion : history.version (follower.position + n) = some version)
    (hsame : follower.source.lastModified = some version.modified) : n = 0 ∧ follower.IsCurrent history := by
  obtain ⟨seen, older, hle, holder, htime, hcurrent⟩ := h version.modified hsame
  have hseen : seen = follower.position + n := history.eq_of_modified holder hversion htime
  exact ⟨by omega, hcurrent (by omega)⟩

theorem eq_advance_of_error {n : Nat} {error : FileError} (h : (follower.update history n).1 = .error error)
    : (follower.update history n).2 = follower.advance n := by
  obtain ⟨result, source, hrun, hupdated⟩ := exists_updated history n follower
  rw [hrun] at h ⊢
  cases h
  cases hupdated <;> rfl

/-- After an update that has failed no version is taken for an old one. -/
theorem lastModified_ne_of_error (hstart : follower.IsUpToDate history) {n : Nat} {error : FileError}
    (h : (follower.update history n).1 = .error error) (m : Nat)
    : ∀ version ∈ history.version (follower.position + n + m),
        follower.source.lastModified ≠ some version.modified := by
  intro version hversion hsame
  rw [Nat.add_assoc] at hversion
  have hzero : n + m = 0 := (position_eq_of_same hstart hversion hsame).1
  rw [hzero] at hversion
  obtain ⟨result, source, hrun, hupdated⟩ := exists_updated history n follower
  rw [hrun] at h
  cases h
  cases hupdated with
  | absent hseen => exact Option.some_ne_none version (hversion.symm.trans hseen)
  | failed hseen hnew =>
    have heq := Option.some.inj (hversion.symm.trans hseen)
    rw [heq] at hsame
    exact hnew hsame

theorem isCurrent_of_ok (hstart : follower.IsUpToDate history) {returned : Option OwnedKeys}
    (h : (follower.update history 0).1 = .ok returned) : (follower.update history 0).2.IsCurrent history := by
  obtain ⟨result, source, hrun, hupdated⟩ := exists_updated history 0 follower
  rw [hrun] at h ⊢
  cases h
  cases hupdated with
  | unchanged hseen hsame => exact (position_eq_of_same hstart (n := 0) hseen hsame).2
  | @loaded _ keys _ _ hfound => exact ⟨keys, rfl, hfound⟩

theorem exists_ok_of_parses {keys : OwnedKeys} (h : ownedKeysOfVersion (history.version follower.position) = .ok keys)
    : ∃ returned, (follower.update history 0).1 = .ok returned := by
  obtain ⟨result, source, hrun, hupdated⟩ := exists_updated history 0 follower
  rw [hrun]
  cases hupdated with
  | absent hseen =>
    rw [hseen] at h
    cases h
  | unchanged => exact ⟨none, rfl⟩
  | failed _ _ hfound => cases h.symm.trans hfound
  | @loaded _ keys => exact ⟨some keys, rfl⟩

end

/--
A source that follows a file never keeps to an old one. After any updates before and during which the file may have been
replaced any number of times, an update that fails leaves the source as it was, and the next one tries to load whatever
it then sees, just as a new source would. If the file stays the same during an update, it ends well just if the content
can be read, and then the keys of this content are those that were returned last.
-/
theorem update_current (history : FileHistory) (visits : List (Nat × Nat)) (before during : Nat)
    : let follower := (updates history visits start).advance before
      let after := (follower.update history during).2
      (∀ error, (follower.update history during).1 = .error error → after.source = follower.source
          ∧ after.keys = follower.keys
          ∧ ∀ m n, ((after.advance m).update history n).1
            = (({ after with source := .start }.advance m).update history n).1)
        ∧ (during = 0 →
          (∀ returned, (follower.update history during).1 = .ok returned → after.IsCurrent history)
            ∧ ∀ keys, ownedKeysOfVersion (history.version follower.position) = .ok keys
              → ∃ returned, (follower.update history during).1 = .ok returned) := by
  intro follower after
  have hstart : follower.IsUpToDate history :=
    isUpToDate_advance (isUpToDate_updates visits (isUpToDate_start history)) before
  constructor
  . intro error herror
    have hafter : after = follower.advance during := eq_advance_of_error herror
    rw [hafter]
    exact ⟨rfl, rfl, fun m n => FileSource.update_eq_start (lastModified_ne_of_error hstart herror m)⟩
  . intro hkept
    subst hkept
    exact ⟨fun _ hok => isCurrent_of_ok hstart hok, fun _ hkeys => exists_ok_of_parses hkeys⟩

namespace Edited

/-- First there is no file, then it holds keys, bytes that are no text, and other keys, and then it cannot be read. -/
def content : Nat → Option (Option (List UInt8))
  | 1 => some (some "curated:\n- name: Alpha\n  keys: [\"0xAA\"]\n".toUTF8.toList)
  | 2 => some (some [0xff])
  | 3 => some (some "curated:\n- name: Beta\n  keys: [\" 0xBB\"]\n".toUTF8.toList)
  | 4 => some none
  | _ => none

def history : FileHistory where
  version n := (content n).map fun content => ⟨⟨n, 0⟩, content⟩
  eq_of_modified holder hnewer htime := by
    obtain ⟨_, _, rfl⟩ := Option.map_eq_some_iff.mp holder
    obtain ⟨_, _, rfl⟩ := Option.map_eq_some_iff.mp hnewer
    exact Int.ofNat.inj (congrArg Instant.seconds htime)

/-- The third update sees the bytes and reads the other keys, so the fourth one reads these again. -/
theorem update_current_edited :
    let follower := updates history [(0, 0), (1, 1), (0, 1)] start
    let unreadable := (updates history [(0, 0), (1, 1), (0, 1), (0, 0)] start).advance 1
    follower.source = ⟨some ⟨2, 0⟩⟩ ∧ (follower.update history 0).1.isOk = true
      ∧ (follower.update history 0).2.IsCurrent history ∧ (unreadable.update history 0).1.isOk = false
      ∧ (unreadable.update history 0).2.source = unreadable.source := by
  intro follower unreadable
  have hok : (follower.update history 0).1.isOk = true := by decide +kernel
  have hfails : (unreadable.update history 0).1.isOk = false := by decide +kernel
  refine ⟨by decide +kernel, hok, ?_, hfails, ?_⟩
  . cases hresult : (follower.update history 0).1 with
    | error =>
      rw [hresult] at hok
      cases hok
    | ok returned => exact ((update_current history [(0, 0), (1, 1), (0, 1)] 0 0).2 rfl).1 returned hresult
  . cases hresult : (unreadable.update history 0).1 with
    | error error => exact ((update_current history [(0, 0), (1, 1), (0, 1), (0, 0)] 1 0).1 error hresult).1
    | ok =>
      rw [hresult] at hfails
      cases hfails

end Edited
end FileFollower
end Keys
end BeaconSentry

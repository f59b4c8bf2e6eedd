import BeaconSentry.Proofs.Keys.Timeline

/-!
This module contains the law of the source of owned keys: whatever happens to the service while it is asked, the
keys are up to date as soon as the service has kept its version for the length of one update.
-/

namespace BeaconSentry
namespace Keys

namespace ServiceSource

open Timeline (service)

theorem run_ask_bind {read : Version → α} {next : α → Action (ServiceSource × Timeline) Failure β}
    {source source' : ServiceSource} {timeline after : Timeline} {result : Except Failure β}
    (h : (ask (Timeline.answer read) >>= next).run (source, timeline) = (result, source', after))
    : ∃ later : Timeline, timeline.current.NotAfter later.current
        ∧ ((¬timeline.IsReliable ∧ (∃ failure, result = .error failure) ∧ source' = source ∧ after = later)
          ∨ ((timeline.IsReliable → later.IsReliable)
            ∧ (next (read later.current)).run (source, later) = (result, source', after))) := by
  rw [Action.run_bind, ask, Action.run_beside, Action.run_mapError] at h
  generalize hanswer : (Timeline.answer read).run timeline = answer at h
  rcases answer with ⟨_ | value, later⟩
  . have ⟨hlater, hreliable, _⟩ := Timeline.answer_cases hanswer
    cases h
    refine ⟨later, hlater, .inl ⟨?_, ⟨_, rfl⟩, rfl, rfl⟩⟩
    intro hreliable'
    cases (hreliable hreliable').2
  . have ⟨hlater, hreliable, hvalue⟩ := Timeline.answer_cases hanswer
    refine ⟨later, hlater, .inr ⟨fun hreliable' => (hreliable hreliable').1, ?_⟩⟩
    rw [← hvalue value rfl]
    exact h

/-- What an update can do to a source while the service moves on, and how it can end. -/
inductive Updated (source : ServiceSource) (before after : Timeline) :
    Except Failure (Option OwnedKeys) → ServiceSource → Prop
  | failed {failure : Failure} (hfails : ¬before.IsReliable) : Updated source before after (.error failure) source
  | seen (hseen : source.lastTimestamp.any (after.current.timestamp ≤ ·)) :
    Updated source before after (.ok none) source
  | unchanged {first : Version} {nonce : UInt64} (hbefore : before.current.NotAfter first)
      (hfirst : first.NotAfter after.current) (hnonce : nonce.toNat = after.current.nonce)
      (hsame : source.lastNonce = some nonce) :
    Updated source before after (.ok none) { source with lastTimestamp := some first.timestamp }
  | loaded {first second third : Version} {nonce : UInt64} (hbefore : before.current.NotAfter first)
      (hfirst : first.NotAfter second) (hsecond : second.NotAfter third) (hthird : third.NotAfter after.current)
      (hnonce : nonce.toNat = second.nonce) :
    Updated source before after (.ok (some (ownedKeys third.operators after.current.keys)))
      ⟨some first.timestamp, some nonce⟩

theorem updated_of_run {source source' : ServiceSource} {before after : Timeline}
    {result : Except Failure (Option OwnedKeys)}
    (h : (update service).run (source, before) = (result, source', after))
    : before.current.NotAfter after.current ∧ Updated source before after result source' := by
  rw [update] at h
  have ⟨first, hfirst, h⟩ := run_ask_bind h
  rcases h with ⟨hfails, ⟨failure, rfl⟩, rfl, rfl⟩ | ⟨hreliable, h⟩
  . exact ⟨hfirst, .failed hfails⟩
  . simp only [Action.run_bind, Action.run_modify, Action.run_inspect] at h
    split at h
    . next hseen =>
      cases h
      exact ⟨hfirst, .seen hseen⟩
    . have ⟨second, hsecond, h⟩ := run_ask_bind h
      rcases h with ⟨hfails, ⟨failure, rfl⟩, rfl, rfl⟩ | ⟨hreliable', h⟩
      . exact ⟨hfirst.trans hsecond, .failed fun hbefore => hfails (hreliable hbefore)⟩
      . have ⟨nonce, hsum, hnonce⟩ := second.current.nonceSum_eq_ok
        rw [Action.run_bind, hsum] at h
        simp only [mapError_ok, Action.run_ofExcept] at h
        split at h
        . next hsame =>
          cases h
          exact ⟨hfirst.trans hsecond, .unchanged hfirst hsecond hnonce (by simpa using hsame)⟩
        . have ⟨third, hthird, h⟩ := run_ask_bind h
          rcases h with ⟨hfails, ⟨failure, rfl⟩, rfl, rfl⟩ | ⟨hreliable'', h⟩
          . exact ⟨(hfirst.trans hsecond).trans hthird,
              .failed fun hbefore => hfails (hreliable' (hreliable hbefore))⟩
          . have ⟨fourth, hfourth, h⟩ := run_ask_bind h
            rcases h with ⟨hfails, ⟨failure, rfl⟩, rfl, rfl⟩ | ⟨_, h⟩
            . exact ⟨((hfirst.trans hsecond).trans hthird).trans hfourth,
                .failed fun hbefore => hfails (hreliable'' (hreliable' (hreliable hbefore)))⟩
            . cases h
              exact ⟨((hfirst.trans hsecond).trans hthird).trans hfourth,
                .loaded hfirst hsecond hthird hfourth hnonce⟩

end ServiceSource

/-- A source, the service that it follows and the keys that it has returned last. -/
structure Follower where
  source : ServiceSource
  service : Timeline
  keys : Option OwnedKeys

namespace Follower

/-- Nothing has been asked yet. -/
def start (service : Timeline) : Follower := ⟨.start, service, none⟩

/-- The keys that were returned last, once an update has ended. -/
def latest (keys : Option OwnedKeys) : Except Failure (Option OwnedKeys) → Option OwnedKeys
  | .ok (some returned) => some returned
  | _ => keys

/-- Look for new keys, and keep those that are returned. -/
def update (follower : Follower) : Except Failure (Option OwnedKeys) × Follower :=
  let (result, source, service) :=
    (ServiceSource.update Timeline.service).run (follower.source, follower.service)
  (result, ⟨source, service, latest follower.keys result⟩)

/-- The service moves on while nothing is asked. -/
def advance (n : Nat) (follower : Follower) : Follower :=
  { follower with service := follower.service.advance n }

/-- What becomes of some updates, each after the service has moved on by some versions. -/
def updates : List Nat → Follower → Follower
  | [], follower => follower
  | n :: advances, follower => updates advances (follower.advance n).update.2

/--
Neither marker is ahead of a version. One that has reached the version stands for keys that are those of the
version.
-/
structure UpToDate (version : Version) (source : ServiceSource) (keys : Option OwnedKeys) : Prop where
  timestamp : ∀ {timestamp}, source.lastTimestamp = some timestamp
    → timestamp ≤ version.timestamp ∧ (timestamp = version.timestamp → keys = some version.ownedKeys)
  nonce : ∀ {nonce}, source.lastNonce = some nonce
    → nonce.toNat ≤ version.nonce ∧ (nonce.toNat = version.nonce → keys = some version.ownedKeys)

namespace UpToDate

variable {version later : Version} {source : ServiceSource} {keys : Option OwnedKeys}

theorem start (version : Version) (keys : Option OwnedKeys) : UpToDate version .start keys where
  timestamp h := by cases h
  nonce h := by cases h

theorem ownedKeys_eq (h : version.NotAfter later) (hnonce : version.nonce = later.nonce) :
    version.ownedKeys = later.ownedKeys := by
  have ⟨hoperators, hkeys⟩ := h.content_eq hnonce
  unfold Version.ownedKeys
  rw [hoperators, hkeys]

theorem mono (h : UpToDate version source keys) (hlater : version.NotAfter later) :
    UpToDate later source keys where
  timestamp := by
    intro timestamp hmarker
    have ⟨hle, hkeys⟩ := h.timestamp hmarker
    refine ⟨UInt64.le_trans hle hlater.timestamp_le, ?_⟩
    intro heq
    rw [heq] at hle
    have heq' : version = later :=
      hlater.eq_of_timestamp_eq (UInt64.le_antisymm hlater.timestamp_le hle)
    rw [← heq'] at heq ⊢
    exact hkeys heq
  nonce := by
    intro nonce hmarker
    have ⟨hle, hkeys⟩ := h.nonce hmarker
    have hlater_le := hlater.nonce_le
    refine ⟨Nat.le_trans hle hlater_le, ?_⟩
    intro heq
    rw [← ownedKeys_eq hlater (by omega)]
    exact hkeys (by omega)

theorem updated {before after : Timeline} {source' : ServiceSource}
    {result : Except Failure (Option OwnedKeys)} (h : UpToDate before.current source keys)
    (hafter : before.current.NotAfter after.current)
    (hupdated : ServiceSource.Updated source before after result source')
    : UpToDate after.current source' (latest keys result) := by
  have h := h.mono hafter
  cases hupdated with
  | failed => exact h
  | seen => exact h
  | unchanged hbefore hfirst hnonce hsame =>
    refine ⟨?_, h.nonce⟩
    -- The nonce was read later than the timestamp, so it is that of the version it stands for.
    intro timestamp hmarker
    cases hmarker
    refine ⟨hfirst.timestamp_le, ?_⟩
    intro _
    exact (h.nonce hsame).2 hnonce
  | @loaded first second third nonce hbefore hfirst hsecond hthird hnonce =>
    -- If the nonce has not changed since it was read, neither has the content between its two requests.
    have hsecond_after := hsecond.trans hthird
    have hkeys : nonce.toNat = after.current.nonce
        → some (ownedKeys third.operators after.current.keys) = some after.current.ownedKeys := by
      intro heq
      have := hsecond.nonce_le
      have := hthird.nonce_le
      rw [Version.ownedKeys, (hthird.content_eq (by omega)).1]
    refine ⟨?_, ?_⟩
    . intro timestamp hmarker
      cases hmarker
      refine ⟨(hfirst.trans hsecond_after).timestamp_le, ?_⟩
      intro heq
      have heq := (hfirst.trans hsecond_after).eq_of_timestamp_eq heq
      apply hkeys
      have hfirst_le := hfirst.nonce_le
      have hsecond_le := hsecond_after.nonce_le
      rw [heq] at hfirst_le
      omega
    . intro nonce hmarker
      cases hmarker
      refine ⟨by rw [hnonce]; exact hsecond_after.nonce_le, hkeys⟩

theorem keys_eq_of_updated {before after : Timeline} {source' : ServiceSource} {returned : Option OwnedKeys}
    (h : UpToDate before.current source keys)
    (hupdated : ServiceSource.Updated source before after (.ok returned) source')
    (hkept : after.current = before.current)
    : latest keys (.ok returned) = some after.current.ownedKeys := by
  cases hupdated with
  | seen hseen =>
    cases hmarker : source.lastTimestamp with
    | none =>
      rw [hmarker] at hseen
      cases hseen
    | some timestamp =>
      have ⟨hle, hkeys⟩ := h.timestamp hmarker
      rw [hmarker, hkept] at hseen
      rw [hkept]
      exact hkeys (UInt64.le_antisymm hle (of_decide_eq_true hseen))
  | unchanged hbefore hfirst hnonce hsame =>
    rw [hkept] at hnonce ⊢
    exact (h.nonce hsame).2 hnonce
  | @loaded first second third nonce hbefore hfirst hsecond hthird hnonce =>
    -- All versions that were read lie between two that are the same.
    have hbefore_le := ((hbefore.trans hfirst).trans hsecond).nonce_le
    have hthird_le := hthird.nonce_le
    have hoperators := (hthird.content_eq (by rw [hkept] at hthird_le ⊢; omega)).1
    rw [Version.ownedKeys, hoperators]
    rfl

end UpToDate

/-- What the source remembers fits to the keys that it has returned. -/
def IsUpToDate (follower : Follower) : Prop :=
  UpToDate follower.service.current follower.source follower.keys

theorem updated_update (follower : Follower)
    : follower.service.current.NotAfter follower.update.2.service.current
        ∧ ServiceSource.Updated follower.source follower.service follower.update.2.service follower.update.1
          follower.update.2.source :=
  ServiceSource.updated_of_run rfl

theorem isUpToDate_update {follower : Follower} (h : follower.IsUpToDate) : follower.update.2.IsUpToDate :=
  h.updated (updated_update follower).1 (updated_update follower).2

theorem isUpToDate_advance {follower : Follower} (n : Nat) (h : follower.IsUpToDate) :
    (follower.advance n).IsUpToDate :=
  h.mono (Timeline.notAfter_advance n follower.service)

theorem isUpToDate_updates (advances : List Nat) {follower : Follower} (h : follower.IsUpToDate) :
    (updates advances follower).IsUpToDate := by
  induction advances generalizing follower with
  | nil => exact h
  | cons n advances ih => exact ih (isUpToDate_update (isUpToDate_advance n h))

/--
A source that follows a service returns up to date keys: after any updates during which the service may have moved
on at any request and failed to answer any of them, an update that ends well while the version stays the same leaves
the keys of this version as the last ones. An update that fails leaves the markers as they were, which it can do
only if a request does.
-/
theorem update_fresh (service : Timeline) (advances : List Nat) (n : Nat)
    : let follower := (updates advances (start service)).advance n
      let after := follower.update.2
      (∀ returned, follower.update.1 = .ok returned → after.service.current = follower.service.current
          → after.keys = some follower.service.current.ownedKeys)
        ∧ ∀ failure, follower.update.1 = .error failure
          → after.source = follower.source ∧ ¬follower.service.IsReliable := by
  intro follower after
  have huptodate : follower.IsUpToDate := by
    apply isUpToDate_advance
    apply isUpToDate_updates
    exact .start ..
  have hupdated := (updated_update follower).2
  constructor
  . intro returned hresult hkept
    rw [hresult] at hupdated
    have hkeys := huptodate.keys_eq_of_updated hupdated hkept
    rw [← hresult, hkept] at hkeys
    exact hkeys
  . intro failure hresult
    generalize hsource : follower.update.2.source = source' at hupdated
    rw [hresult] at hupdated
    cases hupdated with
    | failed hfails => exact ⟨rfl, hfails⟩

/-- A version with one module of one operator. -/
def versionOf (timestamp nonce : UInt64) (name : String) (keys : List RegisteredKey) : Version :=
  let module : StakingModule := ⟨1, "0xAb", nonce, "curated"⟩
  { status := ⟨"1.0", 1, ⟨100, "0x00", timestamp⟩⟩
    modules := [module]
    operators := [⟨module, [⟨7, name⟩]⟩]
    keys := keys
    nonces_lt := nonce.toNat_lt_size }

/-- A service that changes between the last two requests of the first update and fails in the second one. -/
def racing : Timeline where
  current := versionOf 10 5 "Alpha" []
  upcoming := [versionOf 20 6 "Beta" [⟨" 0xCD", 7, "0xaB"⟩], versionOf 30 6 "Beta" [⟨" 0xCD", 7, "0xaB"⟩]]
  ordered := by decide +kernel
  turns := [⟨0, none⟩, ⟨0, none⟩, ⟨0, none⟩, ⟨1, none⟩, ⟨0, none⟩, ⟨0, none⟩, ⟨0, some (.noHosts "keys")⟩]

theorem update_fresh_racing :
    let follower := (updates [0, 0, 0] (start racing)).advance 1
    let newest := versionOf 30 6 "Beta" [⟨" 0xCD", 7, "0xaB"⟩]
    follower.update.1.isOk = true ∧ follower.update.2.service.current = newest
      ∧ follower.update.2.keys = some newest.ownedKeys := by
  intro follower newest
  have hok : follower.update.1.isOk = true := by decide +kernel
  have hcurrent : follower.service.current = newest := by decide +kernel
  have hcurrent' : follower.update.2.service.current = newest := by decide +kernel
  refine ⟨hok, hcurrent', ?_⟩
  cases hresult : follower.update.1 with
  | error =>
    rw [hresult] at hok
    cases hok
  | ok returned =>
    rw [← hcurrent]
    exact (update_fresh racing [0, 0, 0] 1).1 returned hresult (hcurrent'.trans hcurrent.symm)

end Follower
end Keys
end BeaconSentry

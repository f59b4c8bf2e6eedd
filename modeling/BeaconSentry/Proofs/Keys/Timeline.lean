import BeaconSentry.Keys.Source

/-!
This module contains keys services that move on from version to version while they are asked.
-/

namespace BeaconSentry
namespace Keys

open Net

/-- The sum of the nonces of some modules. -/
def nonceTotal : List StakingModule → Nat
  | [] => 0
  | staking :: rest => staking.nonce.toNat + nonceTotal rest

/-- What a keys service serves at one time. The sum of the nonces fits into a word. -/
structure Version where
  status : ServiceStatus
  modules : List StakingModule
  operators : List ModuleOperators
  keys : List RegisteredKey
  nonces_lt : nonceTotal modules < UInt64.size
  deriving DecidableEq

namespace Version

def timestamp (version : Version) : UInt64 := version.status.snapshot.timestamp

def nonce (version : Version) : Nat := nonceTotal version.modules

def ownedKeys (version : Version) : OwnedKeys := Keys.ownedKeys version.operators version.keys

/-- One version is older than another one. The content changes only together with the sum of the nonces. -/
structure Precedes (older newer : Version) : Prop where
  timestamp_lt : older.timestamp < newer.timestamp
  nonce_le : older.nonce ≤ newer.nonce
  content_eq : older.nonce = newer.nonce → older.operators = newer.operators ∧ older.keys = newer.keys

instance (older newer : Version) : Decidable (older.Precedes newer) :=
  decidable_of_iff
    (older.timestamp < newer.timestamp ∧ older.nonce ≤ newer.nonce
      ∧ (older.nonce = newer.nonce → older.operators = newer.operators ∧ older.keys = newer.keys))
    ⟨fun h => ⟨h.1, h.2.1, h.2.2⟩, fun h => ⟨h.timestamp_lt, h.nonce_le, h.content_eq⟩⟩

/-- One version is older than another one or the same. -/
def NotAfter (older newer : Version) : Prop := older = newer ∨ older.Precedes newer

namespace NotAfter

variable {u v w : Version}

theorem refl (v : Version) : v.NotAfter v := .inl rfl

theorem nonce_le (h : v.NotAfter w) : v.nonce ≤ w.nonce := by
  cases h with
  | inl heq => exact Nat.le_of_eq (congrArg nonce heq)
  | inr hprecedes => exact hprecedes.nonce_le

theorem timestamp_le (h : v.NotAfter w) : v.timestamp ≤ w.timestamp := by
  cases h with
  | inl heq => exact UInt64.le_of_eq (congrArg timestamp heq)
  | inr hprecedes => exact UInt64.le_of_lt hprecedes.timestamp_lt

theorem content_eq (h : v.NotAfter w) (hnonce : v.nonce = w.nonce) :
    v.operators = w.operators ∧ v.keys = w.keys := by
  cases h with
  | inl heq => rw [heq]; exact ⟨rfl, rfl⟩
  | inr hprecedes => exact hprecedes.content_eq hnonce

theorem eq_of_timestamp_eq (h : v.NotAfter w) (htimestamp : v.timestamp = w.timestamp) : v = w := by
  cases h with
  | inl heq => exact heq
  | inr hprecedes =>
    have := hprecedes.timestamp_lt
    rw [htimestamp] at this
    exact absurd this (UInt64.lt_irrefl _)

theorem trans (huv : u.NotAfter v) (hvw : v.NotAfter w) : u.NotAfter w := by
  cases huv with
  | inl heq => rw [heq]; exact hvw
  | inr huv =>
    cases hvw with
    | inl heq => rw [← heq]; exact .inr huv
    | inr hvw =>
      refine .inr ⟨UInt64.lt_trans huv.timestamp_lt hvw.timestamp_lt,
        Nat.le_trans huv.nonce_le hvw.nonce_le, ?_⟩
      -- The sums of the nonces of all three versions are equal, since they never decrease.
      intro hnonce
      have huv_le := huv.nonce_le
      have hvw_le := hvw.nonce_le
      have ⟨hoperators, hkeys⟩ := huv.content_eq (by omega)
      have ⟨hoperators', hkeys'⟩ := hvw.content_eq (by omega)
      exact ⟨hoperators.trans hoperators', hkeys.trans hkeys'⟩

end NotAfter
end Version

theorem nonceSum.go_eq_ok (modules : List StakingModule) (sum : UInt64)
    (h : sum.toNat + nonceTotal modules < UInt64.size)
    : ∃ total, modules.foldlM (fun sum module => Word.add sum module.nonce) sum = .ok total
        ∧ total.toNat = sum.toNat + nonceTotal modules := by
  induction modules generalizing sum with
  | nil => exact ⟨sum, rfl, rfl⟩
  | cons module rest ih =>
    rw [nonceTotal] at h ⊢
    have hadd : Word.add sum module.nonce = .ok (sum + module.nonce) := by
      unfold Word.add
      rw [if_pos (by omega)]
    have hnat := Word.toNat_of_add hadd
    have ⟨total, hfold, htotal⟩ := ih (sum + module.nonce) (by omega)
    refine ⟨total, ?_, by omega⟩
    rw [List.foldlM_cons, hadd]
    exact hfold

theorem Version.nonceSum_eq_ok (version : Version) :
    ∃ total, nonceSum version.modules = .ok total ∧ total.toNat = version.nonce := by
  have ⟨total, hfold, htotal⟩ :=
    nonceSum.go_eq_ok version.modules 0 (by simpa using version.nonces_lt)
  exact ⟨total, hfold, by unfold Version.nonce; simpa using htotal⟩

/-- What happens before a request is answered: the service moves on, and then it may fail to answer. -/
structure Turn where
  advances : Nat
  failure : Option ProviderError

/-- A service on its way through versions, with the turns of the next requests. -/
structure Timeline where
  current : Version
  upcoming : List Version
  ordered : (current :: upcoming).Pairwise Version.Precedes
  turns : List Turn

namespace Timeline

/-- Move on by some versions, as far as there are any. -/
def advance : Nat → Timeline → Timeline
  | 0, timeline => timeline
  | n + 1, ⟨current, [], ordered, turns⟩ => advance n ⟨current, [], ordered, turns⟩
  | n + 1, ⟨_, next :: rest, ordered, turns⟩ => advance n ⟨next, rest, ordered.of_cons, turns⟩

/-- Answer a request with a part of what is served. -/
def answer (read : Version → α) : Action Timeline ProviderError α where
  run timeline :=
    match timeline.turns with
    | [] => (.ok (read timeline.current), timeline)
    | turn :: turns =>
      let timeline := { timeline with turns }.advance turn.advances
      match turn.failure with
      | some error => (.error error, timeline)
      | none => (.ok (read timeline.current), timeline)

/-- The service that each request finds at its then current version. -/
def service : Service Timeline where
  status := answer (·.status)
  modules := answer (·.modules)
  operators := answer (·.operators)
  usedKeys := answer (·.keys)
  showBlock _ timeline := timeline

/-- No request fails from now on. -/
def IsReliable (timeline : Timeline) : Prop := ∀ turn ∈ timeline.turns, turn.failure = none

theorem turns_advance (n : Nat) (timeline : Timeline) : (timeline.advance n).turns = timeline.turns := by
  fun_induction advance n timeline with
  | case1 => rfl
  | case2 _ _ _ _ ih => exact ih
  | case3 _ _ _ _ _ _ ih => exact ih

theorem notAfter_advance (n : Nat) (timeline : Timeline) :
    timeline.current.NotAfter (timeline.advance n).current := by
  fun_induction advance n timeline with
  | case1 => exact .refl _
  | case2 _ _ _ _ ih => exact ih
  | case3 _ current next rest ordered turns ih =>
    apply Version.NotAfter.trans _ ih
    exact .inr (List.rel_of_pairwise_cons ordered (List.mem_cons_self ..))

theorem answer_cases {read : Version → α} {timeline after : Timeline} {result : Except ProviderError α}
    (h : (answer read).run timeline = (result, after))
    : timeline.current.NotAfter after.current
        ∧ (timeline.IsReliable → after.IsReliable ∧ result = .ok (read after.current))
        ∧ ∀ value, result = .ok value → value = read after.current := by
  unfold answer at h
  dsimp only at h
  split at h
  . cases h
    refine ⟨.refl _, fun hreliable => ⟨hreliable, rfl⟩, ?_⟩
    intro value hvalue
    cases hvalue
    rfl
  . next turn turns hturns =>
    have hlater := notAfter_advance turn.advances { timeline with turns }
    split at h
    . next error hfailure =>
      cases h
      refine ⟨hlater, ?_, ?_⟩
      . intro hreliable
        have := hreliable turn (by rw [hturns]; exact List.mem_cons_self ..)
        rw [hfailure] at this
        cases this
      . intro value hvalue
        cases hvalue
    . cases h
      refine ⟨hlater, ?_, ?_⟩
      . intro hreliable
        refine ⟨?_, rfl⟩
        intro other hother
        rw [turns_advance] at hother
        apply hreliable
        rw [hturns]
        exact List.mem_cons_of_mem _ hother
      . intro value hvalue
        cases hvalue
        rfl

end Timeline
end Keys
end BeaconSentry

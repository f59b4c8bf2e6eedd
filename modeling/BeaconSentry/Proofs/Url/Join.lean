import BeaconSentry.Url.Parser

/-!
This module contains which paths stay at the host that they are joined to.
-/

namespace BeaconSentry
namespace Url

/-- The characters of a path that count when it is joined to a host. -/
def joined (path : String) : List Char := cleaned (String.ofList (path.toList.dropWhile (· == '/')))

/-- Whether a path leads to no other host: it begins neither with a scheme nor with one more slash. -/
def isLocal (path : String) : Bool := (scheme? (joined path)).isNone && !(joined path).head?.any (isSlash true)

/-- Whether a URL has a host with a name. -/
def isNamed (url : Url) : Bool := url.authority.any (!·.host.isEmpty)

/-- Whether a path can be joined to a URL at all. -/
def isBase (url : Url) : Bool :=
  match url.path with
  | .segments _ => true
  | .plain _ => false

theorem isSlash_of_not {c : Char} (h : isSlash true c = false) (web : Bool) : isSlash web c = false := by
  unfold isSlash at *
  cases web <;> simp_all

theorem authority_of_relative? {base url : Url} {cs : List Char} (hhead : cs.head?.any (isSlash true) = false)
    (h : relative? base cs = some url) : url.authority = base.authority := by
  unfold relative? at h
  dsimp only at h
  split at h
  . cases h
    rfl
  . cases h
  . cases h
    rfl
  . cases h
    rfl
  . rw [isSlash_of_not (by simpa using hhead)] at h
    cases h
    rfl

theorem isSome_relative? {base : Url} {cs : List Char} (hbase : base.isBase = true)
    (hhead : cs.head?.any (isSlash true) = false) : (relative? base cs).isSome = true := by
  unfold isBase at hbase
  unfold relative?
  dsimp only
  split
  . rfl
  . next hpath =>
    rw [hpath] at hbase
    cases hbase
  . rfl
  . rfl
  . rw [isSlash_of_not (by simpa using hhead)]
    rfl

theorem scheme?_joined {path : String} (hlocal : isLocal path = true) : scheme? (joined path) = none := by
  unfold isLocal at hlocal
  rw [Bool.and_eq_true, Option.isNone_iff_eq_none] at hlocal
  exact hlocal.1

theorem head?_joined {path : String} (hlocal : isLocal path = true) :
    (joined path).head?.any (isSlash true) = false := by
  unfold isLocal at hlocal
  rw [Bool.and_eq_true, Bool.not_eq_true'] at hlocal
  exact hlocal.2

/-- A path that leads to no other host is read relative to the URL, after a slash has been put to the end of it. -/
theorem exists_join?_eq (base : Url) {path : String} (hlocal : isLocal path = true) :
    ∃ slashed : Url, slashed.authority = base.authority ∧ slashed.isBase = base.isBase
      ∧ join? base path = relative? slashed (joined path) := by
  have hresolve (slashed : Url) :
      resolve? slashed (String.ofList (path.toList.dropWhile (· == '/'))) = relative? slashed (joined path) := by
    have hscheme := scheme?_joined hlocal
    unfold joined at hscheme
    unfold resolve? joined
    dsimp only
    rw [hscheme]
  unfold join?
  refine ⟨_, ?_, ?_, hresolve _⟩
  . split
    . split <;> rfl
    . rfl
  . split
    . next hpath =>
      split
      . rfl
      . simp [isBase, hpath]
    . rfl

theorem authority_of_join? {base url : Url} {path : String} (hlocal : isLocal path = true)
    (h : join? base path = some url) : url.authority = base.authority := by
  have ⟨slashed, hauthority, _, hjoin⟩ := exists_join?_eq base hlocal
  rw [hjoin] at h
  rw [authority_of_relative? (head?_joined hlocal) h, hauthority]

theorem isSome_join? {base : Url} {path : String} (hlocal : isLocal path = true) (hbase : base.isBase = true)
    : (join? base path).isSome = true := by
  have ⟨slashed, _, hslashed, hjoin⟩ := exists_join?_eq base hlocal
  rw [hjoin]
  exact isSome_relative? (hslashed.trans hbase) (head?_joined hlocal)

theorem domain_eq_of_authority_eq {url base : Url} (hnamed : base.isNamed = true)
    (h : url.authority = base.authority) : url.domain = base.domain := by
  unfold isNamed at hnamed
  unfold domain
  rw [h]
  cases hauthority : base.authority with
  | none => simp [hauthority] at hnamed
  | some authority =>
    simp only [hauthority, Option.any_some, Bool.not_eq_true'] at hnamed
    simp [hnamed]

end Url
end BeaconSentry

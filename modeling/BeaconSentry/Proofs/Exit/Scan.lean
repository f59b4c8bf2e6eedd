import BeaconSentry.Exit.Bus
import BeaconSentry.Proofs.Exit.Tiling
import BeaconSentry.Proofs.Exit.Window

/-!
This module contains what a scan for requests to exit finds, and where it stops. Of a node whose answers agree with one
log it finds what is logged in the range, whatever the windows that the range is cut into.
-/

namespace BeaconSentry
namespace Exit

open Beacon

variable {ω : Type}

/-- What a node tells of an event: the block that its log names, if it names one, and the numbers of the event. -/
abbrev ToldLog := Option BlockNumber × UInt64 × UInt64 × UInt64

/-- What is told of the event that announces a request. -/
def ExitRequest.told (request : ExitRequest) : ToldLog :=
  (some request.block, request.moduleIndex, request.operatorIndex, request.validator)

/-- A node that answers for each window with the requests of a log that are in it. -/
def ExitBus.EventQuery.AnswersFrom (query : EventQuery ω) (log : List ExitRequest) : Prop :=
  ∀ window world, ∃ after,
    (query window).run world = (.ok ((log.filter (window.contains ·.block)).map (·.told)), after)

namespace ExitBus

/-- All windows are answered one after the other, each with requests that are in it, and this is what they add up to. -/
inductive Scanned (query : EventQuery ω) : List BlockRange → ω → List ExitRequest → ω → Prop
  | nil (world : ω) : Scanned query [] world [] world
  | cons {window : BlockRange} {rest : List BlockRange} {found requests : List ExitRequest} {world next after : ω}
      (hanswer : (query window).run world = (.ok (found.map (·.told)), next))
      (hwindow : ∀ request ∈ found, window.contains request.block = true)
      (hrest : Scanned query rest next requests after) :
    Scanned query (window :: rest) world (found ++ requests) after

/-- What puts an end to a scan in a window: it is not answered, or a log of the answer is not in it. -/
inductive Stops (query : EventQuery ω) (window : BlockRange) (world : ω) : ScanError → ω → Prop
  | unanswered {error : ScanError} {after : ω} (hanswer : (query window).run world = (.error error, after)) :
    Stops query window world error after
  | outside {found : List ExitRequest} {stray : ToldLog} {later : List ToldLog} {after : ω}
      (hanswer : (query window).run world = (.ok (found.map (·.told) ++ stray :: later), after))
      (hwindow : ∀ request ∈ found, window.contains request.block = true)
      (hstray : ∀ block, stray.1 = some block → window.contains block = false) :
    Stops query window world (.inconsistentEvents stray.1 window.first window.last) after

/-- Some windows are answered, and the one after them puts an end to the scan. -/
inductive Stopped (query : EventQuery ω) : List BlockRange → ω → ScanError → ω → Prop
  | intro {done rest : List BlockRange} {window : BlockRange} {requests : List ExitRequest} {world next after : ω}
      {error : ScanError} (hdone : Scanned query done world requests next)
      (hstops : Stops query window next error after) :
    Stopped query (done ++ window :: rest) world error after

section

variable {window : BlockRange} {stray : ToldLog} {found : List ExitRequest}

/-- A log is told of a request in the window, or it strays. -/
theorem told_or_stray (window : BlockRange) (event : ToldLog)
    : (∃ request : ExitRequest, event = request.told ∧ window.contains request.block = true)
        ∨ ∀ block, event.1 = some block → window.contains block = false := by
  obtain ⟨_ | block, numbers⟩ := event
  . exact .inr nofun
  . cases hcontains : window.contains block with
    | true => exact .inl ⟨⟨block, numbers.1, numbers.2.1, numbers.2.2⟩, rfl, hcontains⟩
    | false =>
      refine .inr fun other hother => ?_
      cases hother
      exact hcontains

/-- The requests that the logs of a window are told of. -/
def readAll (window : BlockRange) (events : List ToldLog) : Except ScanError (List ExitRequest) :=
  events.mapM fun event => request window event.1 event.2

theorem readAll_cons_told {first : ExitRequest} (events : List ToldLog) (h : window.contains first.block = true)
    : readAll window (first.told :: events) = (readAll window events).map (first :: ·) := by
  have hfirst : request window first.told.1 first.told.2 = .ok first := if_pos h
  unfold readAll
  rw [List.mapM_cons, hfirst]
  cases events.mapM fun event => request window event.1 event.2 <;> rfl

theorem readAll_cons_stray (events : List ToldLog) (h : ∀ block, stray.1 = some block → window.contains block = false)
    : readAll window (stray :: events) = .error (.inconsistentEvents stray.1 window.first window.last) := by
  have hstray : request window stray.1 stray.2 = .error (.inconsistentEvents stray.1 window.first window.last) := by
    obtain ⟨_ | block, numbers⟩ := stray
    . rfl
    . exact if_neg (Bool.eq_false_iff.mp (h block rfl))
  unfold readAll
  rw [List.mapM_cons, hstray]
  rfl

theorem readAll_told (h : ∀ request ∈ found, window.contains request.block = true)
    : readAll window (found.map (·.told)) = .ok found := by
  induction found with
  | nil => rfl
  | cons first rest ih =>
    rw [List.forall_mem_cons] at h
    rw [List.map_cons, readAll_cons_told _ h.1, ih h.2]
    rfl

/-- The first log that strays decides. -/
theorem readAll_append_stray (later : List ToldLog) (h : ∀ request ∈ found, window.contains request.block = true)
    (hstray : ∀ block, stray.1 = some block → window.contains block = false)
    : readAll window (found.map (·.told) ++ stray :: later)
        = .error (.inconsistentEvents stray.1 window.first window.last) := by
  induction found with
  | nil => exact readAll_cons_stray later hstray
  | cons first rest ih =>
    rw [List.forall_mem_cons] at h
    rw [List.map_cons, List.cons_append, readAll_cons_told _ h.1, ih h.2]
    rfl

/-- Either all logs are told of requests in the window, or there is a first one that strays. -/
theorem found_or_stray (window : BlockRange) (events : List ToldLog)
    : (∃ found : List ExitRequest, events = found.map (·.told)
          ∧ ∀ request ∈ found, window.contains request.block = true)
        ∨ ∃ (found : List ExitRequest) (stray : ToldLog) (later : List ToldLog),
          events = found.map (·.told) ++ stray :: later
            ∧ (∀ request ∈ found, window.contains request.block = true)
            ∧ ∀ block, stray.1 = some block → window.contains block = false := by
  induction events with
  | nil => exact .inl ⟨[], rfl, List.forall_mem_nil _⟩
  | cons event rest ih =>
    rcases told_or_stray window event with ⟨first, rfl, hcontains⟩ | hstray
    . rcases ih with ⟨found, rfl, h⟩ | ⟨found, stray, later, rfl, h, hstray⟩
      . exact .inl ⟨first :: found, rfl, List.forall_mem_cons.mpr ⟨hcontains, h⟩⟩
      . exact .inr ⟨first :: found, stray, later, rfl, List.forall_mem_cons.mpr ⟨hcontains, h⟩, hstray⟩
    . exact .inr ⟨[], event, rest, rfl, List.forall_mem_nil _, hstray⟩

end

section

variable {query : EventQuery ω} {window : BlockRange} {windows rest : List BlockRange} {requests : List ExitRequest}
  {world after : ω} {error : ScanError}

theorem run_scan_cons (query : EventQuery ω) (window : BlockRange) (rest : List BlockRange) (world : ω) :
    (scan query (window :: rest)).run world =
      match (query window).run world with
      | (.error error, world) => (.error error, world)
      | (.ok events, world) =>
        match readAll window events with
        | .error error => (.error error, world)
        | .ok found =>
          match (scan query rest).run world with
          | (.ok requests, world) => (.ok (found ++ requests), world)
          | (.error error, world) => (.error error, world) := by
  rw [scan, Action.run_bind]
  rcases (query window).run world with ⟨_ | events, world⟩
  . rfl
  . dsimp only
    rw [Action.run_bind, Action.run_ofExcept]
    have hread : (events.mapM fun event => request window event.1 event.2) = readAll window events := rfl
    rw [hread]
    cases readAll window events with
    | error error => rfl
    | ok found =>
      dsimp only
      rw [Action.run_bind]
      rcases (scan query rest).run world with ⟨_ | _, _⟩ <;> rfl

theorem run_scan_of_found {found : List ExitRequest} {next : ω} (rest : List BlockRange)
    (hanswer : (query window).run world = (.ok (found.map (·.told)), next))
    (hwindow : ∀ request ∈ found, window.contains request.block = true)
    : (scan query (window :: rest)).run world =
        match (scan query rest).run next with
        | (.ok requests, world) => (.ok (found ++ requests), world)
        | (.error error, world) => (.error error, world) := by
  rw [run_scan_cons, hanswer]
  dsimp only
  rw [readAll_told hwindow]

theorem Stops.run_scan (h : Stops query window world error after) (rest : List BlockRange)
    : (scan query (window :: rest)).run world = (.error error, after) := by
  rw [run_scan_cons]
  cases h with
  | unanswered hanswer => rw [hanswer]
  | outside hanswer hwindow hstray =>
    rw [hanswer]
    dsimp only
    rw [readAll_append_stray _ hwindow hstray]

theorem Scanned.run_scan (h : Scanned query windows world requests after)
    : (scan query windows).run world = (.ok requests, after) := by
  induction h with
  | nil => rfl
  | cons hanswer hwindow _ ih => rw [run_scan_of_found _ hanswer hwindow, ih]

theorem Scanned.run_scan_append {next : ω} (h : Scanned query windows world requests next)
    (hrest : (scan query rest).run next = (.error error, after))
    : (scan query (windows ++ rest)).run world = (.error error, after) := by
  induction h with
  | nil => exact hrest
  | cons hanswer hwindow _ ih => rw [List.cons_append, run_scan_of_found _ hanswer hwindow, ih hrest]

theorem Stopped.run_scan (h : Stopped query windows world error after)
    : (scan query windows).run world = (.error error, after) := by
  cases h with
  | intro hdone hstops => exact hdone.run_scan_append (hstops.run_scan _)

theorem scanned_or_stopped (query : EventQuery ω) (windows : List BlockRange) (world : ω)
    : (∃ requests after, Scanned query windows world requests after)
        ∨ ∃ error after, Stopped query windows world error after := by
  induction windows generalizing world with
  | nil => exact .inl ⟨[], world, .nil world⟩
  | cons window rest ih =>
    have hstopped {error : ScanError} {after : ω} (h : Stops query window world error after) :
        Stopped query (window :: rest) world error after := .intro (.nil world) h
    rcases hanswer : (query window).run world with ⟨error | events, next⟩
    . exact .inr ⟨error, next, hstopped (.unanswered hanswer)⟩
    . rcases found_or_stray window events with ⟨found, rfl, hwindow⟩ | ⟨found, stray, later, rfl, hwindow, hstray⟩
      . rcases ih next with ⟨requests, after, hrest⟩ | ⟨error, after, ⟨hdone, hstops⟩⟩
        . exact .inl ⟨found ++ requests, after, .cons hanswer hwindow hrest⟩
        . exact .inr ⟨error, after, .intro (.cons hanswer hwindow hdone) hstops⟩
      . exact .inr ⟨_, next, hstopped (.outside hanswer hwindow hstray)⟩

theorem run_scan_eq_ok_iff
    : (scan query windows).run world = (.ok requests, after) ↔ Scanned query windows world requests after := by
  refine ⟨fun h => ?_, Scanned.run_scan⟩
  rcases scanned_or_stopped query windows world with ⟨_, _, hscanned⟩ | ⟨_, _, hstopped⟩
  . cases hscanned.run_scan.symm.trans h
    exact hscanned
  . cases hstopped.run_scan.symm.trans h

theorem run_scan_eq_error_iff
    : (scan query windows).run world = (.error error, after) ↔ Stopped query windows world error after := by
  refine ⟨fun h => ?_, Stopped.run_scan⟩
  rcases scanned_or_stopped query windows world with ⟨_, _, hscanned⟩ | ⟨_, _, hstopped⟩
  . cases hscanned.run_scan.symm.trans h
  . cases hstopped.run_scan.symm.trans h
    exact hstopped

end

/-- In a log that ascends, what is in a range is what is in its lower part and then what is in its upper part. -/
theorem filter_contains_append {log : List ExitRequest} (hlog : log.Pairwise (·.block ≤ ·.block))
    {first middle last : BlockNumber} (hfirst : first ≤ middle) (hmiddle : middle < last)
    : log.filter (BlockRange.contains ⟨first, last⟩ ·.block)
        = log.filter (BlockRange.contains ⟨first, middle⟩ ·.block)
          ++ log.filter (BlockRange.contains ⟨middle + 1, last⟩ ·.block) := by
  have hnext := Word.toNat_succ_of_lt hmiddle
  rw [UInt64.le_iff_toNat_le] at hfirst
  rw [UInt64.lt_iff_toNat_lt] at hmiddle
  induction log with
  | nil => rfl
  | cons request log ih =>
    by_cases hle : request.block.toNat ≤ middle.toNat
    . have hupper : BlockRange.contains ⟨middle + 1, last⟩ request.block = false := by
        rw [← Bool.not_eq_true, BlockRange.contains_iff]
        dsimp only
        omega
      have hlower : BlockRange.contains ⟨first, last⟩ request.block
          = BlockRange.contains ⟨first, middle⟩ request.block := by
        rw [Bool.eq_iff_iff, BlockRange.contains_iff, BlockRange.contains_iff]
        dsimp only
        omega
      rw [List.filter_cons, List.filter_cons, List.filter_cons, hupper, hlower, ih (List.pairwise_cons.mp hlog).2]
      cases BlockRange.contains ⟨first, middle⟩ request.block <;> rfl
    . -- The log ascends, so nothing of it is in the lower part any more.
      have habove : ∀ other ∈ request :: log, middle.toNat < other.block.toNat := by
        rw [List.forall_mem_cons]
        refine ⟨by omega, fun other hother => ?_⟩
        have := UInt64.le_iff_toNat_le.mp ((List.pairwise_cons.mp hlog).1 other hother)
        omega
      have hlower : (request :: log).filter (BlockRange.contains ⟨first, middle⟩ ·.block) = [] := by
        rw [List.filter_eq_nil_iff]
        intro other hother
        have := habove other hother
        rw [BlockRange.contains_iff]
        dsimp only
        omega
      rw [hlower, List.nil_append]
      apply List.filter_congr
      intro other hother
      have := habove other hother
      rw [Bool.eq_iff_iff, BlockRange.contains_iff, BlockRange.contains_iff]
      dsimp only
      omega

/-- The windows of a range are answered with what is logged in the range. -/
theorem exists_scanned_windows {query : EventQuery ω} {log : List ExitRequest} (hquery : query.AnswersFrom log)
    (hlog : log.Pairwise (·.block ≤ ·.block)) (step : UInt64) (range : BlockRange) (world : ω)
    : ∃ after, Scanned query (range.windows step) world (log.filter (range.contains ·.block)) after := by
  fun_induction BlockRange.windows step range generalizing world with
  | case1 range hlt =>
    rw [filter_contains_of_lt range hlt]
    exact ⟨world, .nil world⟩
  | case2 range hle last hlast ih =>
    have hfirst : range.first ≤ last := BlockRange.first_le_firstEnd (UInt64.not_lt.mp hle)
    obtain ⟨next, hanswer⟩ := hquery ⟨range.first, last⟩ world
    obtain ⟨after, hrest⟩ := ih next
    rw [filter_contains_append hlog hfirst hlast]
    exact ⟨after, .cons hanswer (fun request hrequest => (List.mem_filter.mp hrequest).2) hrest⟩
  | case3 range hle last hlast =>
    have heq : last = range.last := BlockRange.firstEnd_eq_last hlast
    obtain ⟨after, hanswer⟩ := hquery ⟨range.first, last⟩ world
    rw [heq] at hanswer
    have hscanned := Scanned.cons hanswer (fun request hrequest => (List.mem_filter.mp hrequest).2) (.nil after)
    rw [List.append_nil] at hscanned
    rw [heq]
    exact ⟨after, hscanned⟩

/--
A scan ends with requests just when the windows are answered one after the other with logs that are in them, and these
are what the logs are told of. It ends with an error in the first window that is not answered so: with the error of the
node, or with the block of the first log that is not in the window. If the node answers from one log that ascends, the
requests are those of the log that are in the range, whatever the step.
-/
theorem run_scanRange (query : EventQuery ω) (step : UInt64) {range : BlockRange} (hrange : range.first ≤ range.last)
    (world : ω) :
    let ended := (scanRange query step range).run world
    (∀ requests after, ended = (.ok requests, after) ↔ Scanned query (range.windows step) world requests after)
      ∧ (∀ error after, ended = (.error error, after) ↔ Stopped query (range.windows step) world error after)
      ∧ ∀ log, query.AnswersFrom log → log.Pairwise (·.block ≤ ·.block) →
        ended.1 = .ok (log.filter (range.contains ·.block)) := by
  intro ended
  have hended : ended = (scan query (range.windows step)).run world := by
    show (scanRange query step range).run world = _
    rw [scanRange, if_neg (UInt64.not_lt.mpr hrange)]
  rw [hended]
  refine ⟨fun _ _ => run_scan_eq_ok_iff, fun _ _ => run_scan_eq_error_iff, fun log hquery hlog => ?_⟩
  obtain ⟨after, hscanned⟩ := exists_scanned_windows hquery hlog step range world
  rw [hscanned.run_scan]

namespace Counted

/-- Two requests of one block, between requests of others. -/
def log : List ExitRequest := [⟨3, 1, 0, 7⟩, ⟨5, 1, 0, 8⟩, ⟨5, 2, 4, 9⟩, ⟨9, 1, 1, 1⟩]

/-- A node that counts how often it is asked. -/
def query : EventQuery Nat := fun window =>
  ⟨fun asked => (.ok ((log.filter (window.contains ·.block)).map (·.told)), asked + 1)⟩

/-- A node that forgets the block of the last log of each answer. -/
def forgetful : EventQuery Nat := fun window =>
  ⟨fun asked =>
    let found := log.filter (window.contains ·.block)
    (.ok (found.dropLast.map (·.told) ++ found.getLast?.toList.map fun request => (none, request.told.2)), asked + 1)⟩

theorem windows_eq : BlockRange.windows 3 ⟨2, 8⟩ = [⟨2, 5⟩, ⟨6, 8⟩] := by
  cbv

theorem run_scanRange_counted :
    (∀ step, ((scanRange query step ⟨2, 8⟩).run 0).1 = .ok (log.take 3))
      ∧ (scanRange forgetful 3 ⟨2, 8⟩).run 0 = (.error (.inconsistentEvents none 2 5), 1) := by
  have hquery : query.AnswersFrom log := fun _ asked => ⟨asked + 1, rfl⟩
  refine ⟨fun step => (run_scanRange query step (by decide) 0).2.2 log hquery (by decide), ?_⟩
  refine ((run_scanRange forgetful 3 (by decide) 0).2.1 _ _).mpr ?_
  have hanswer : (forgetful ⟨2, 5⟩).run 0 = (.ok ((log.take 2).map (·.told) ++ (none, 2, 4, 9) :: []), 1) := rfl
  rw [windows_eq]
  exact .intro (.nil 0) (.outside hanswer (by decide) nofun)

end Counted
end ExitBus
end Exit
end BeaconSentry

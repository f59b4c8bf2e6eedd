import BeaconSentry.Beacon.Basic
import BeaconSentry.Net.Error

/-!
This module contains reports: failures as the watcher tells them, with the contexts in which they arose.
-/

namespace BeaconSentry

open Beacon

inductive ScanError where
  /-- A log is not in the range that was asked for. -/
  | inconsistentEvents (block : Option BlockNumber) (first last : BlockNumber)
  /-- The range ends before it begins. -/
  | invertedRange (first last : BlockNumber)
  /-- The node gave no usable answer. -/
  | unanswered
  deriving Repr, DecidableEq

def ScanError.message : ScanError → String
  | .inconsistentEvents block first last =>
    let block :=
      match block with
      | some n => s!"Some({n})"
      | none => "None"
    s!"event at block {block} outside of requested range [{first}:{last}]"
  | .invertedRange first last => s!"invalid block range: {first} > {last}"
  | .unanswered => "rpc"

inductive Report where
  | provider (error : Net.ProviderError)
  | scan (error : ScanError)
  | plain (text : String)
  | context (text : String) (inner : Report)
  deriving Repr, DecidableEq

namespace Report

def root : Report → Report
  | context _ inner => inner.root
  | report => report

def message : Report → String
  | provider error => error.message
  | scan error => error.message
  | plain text => text
  | context text _ => text

def context? : Report → Option String
  | context text _ => some text
  | _ => none

def cause? (report : Report) : Option String := report.context?.map fun _ => report.root.message

def isMissingSlot (report : Report) : Bool :=
  match report.root with
  | provider error => error.isNotFound
  | _ => false

end Report

inductive Failure where
  /-- The work failed, and the watcher can go on. -/
  | report (report : Report)
  /-- A number left its range, which ends the watcher. -/
  | overflow (overflow : Overflow)
  deriving Repr, DecidableEq

end BeaconSentry

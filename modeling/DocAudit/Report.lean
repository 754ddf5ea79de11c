import DocAudit.Json.Decode
import DocAudit.Json.Reader
import DocAudit.Registry
import DocAudit.Validator.Result

/-!
# Reports

A report merges the offenses of all validators and says whether the check has failed: because an
offense is at least as strict as the threshold, or because too few objects are documented.
-/

namespace DocAudit

/-- How many of the objects are documented. -/
structure Coverage where
  total : Nat
  documented : Nat
  deriving DecidableEq, Repr

namespace Coverage

def ofObjects (objects : List CodeObject) : Coverage :=
  ⟨objects.length, (objects.filter (·.isDocumented)).length⟩

/-- The coverage of the objects that a look-up has. -/
def ofRegistry (registry : Lookup) (visibility : Visibility) (excludes : List String)
    (selection : Option (List String)) : Coverage :=
  ofObjects (registry.objectsFor visibility excludes selection)

/-- The share of documented objects in percent; nothing to document counts as all. -/
def percentage (c : Coverage) : Float :=
  if c.total = 0 then 100.0 else Float.ofNat c.documented * 100.0 / Float.ofNat c.total

end Coverage

/-- The merged results of a run. -/
structure Report where
  offenses : List Offense
  /-- The threshold as it is written in the configuration. -/
  failOn : String
  minCoverage : Option Float
  coverage : Option Coverage
  deriving Repr

namespace Report

/-- The report on the results of validators. -/
def ofResults (results : List ValidatorResult) (config : Config) : Report :=
  { offenses := results.flatMap (·.offenses)
    failOn := config.failOn
    minCoverage := config.minCoverage
    coverage := none }

def statistics (r : Report) : Statistics := .ofOffenses r.offenses

def count (r : Report) : Nat := r.offenses.length

def isClean (r : Report) : Bool := r.count = 0

/-- Whether the coverage is high enough; it is if none is required or none is known. -/
def coveragePassed (r : Report) : Bool :=
  match r.minCoverage, r.coverage with
  | some least, some c => c.percentage ≥ least
  | _, _ => true

/-- Whether an offense is at least as strict as the threshold. -/
def exceedsThreshold (r : Report) : Bool :=
  match Severity.ofText? r.failOn with
  | some threshold => r.offenses.any fun o => threshold ≤ o.severity
  | none => false

/-- The exit code of a program that shows the report. -/
def exitCode (r : Report) : Int := if r.exceedsThreshold || !r.coveragePassed then 1 else 0

end Report

/-! ## JSON -/

open Json

def Offense.ofJson? (v : Json) : Option Offense := do
  match ← fields? ["severity", "type", "name", "message", "location", "location_line"] v with
  | (_, [severity, kind, name, message, location, line]) =>
    some
      { severity := ← required (fun v => (text? v).bind Severity.ofText?) severity
        kind := ← required text? kind
        name := ← required text? name
        message := ← required text? message
        location := ← required text? location
        line := ← required count? line }
  | _ => none

def Offense.toJson (o : Offense) : Json :=
  .obj [(some "severity", .ofText o.severity.name), (some "type", .ofText o.kind),
    (some "name", .ofText o.name), (some "message", .ofText o.message),
    (some "location", .ofText o.location), (some "location_line", .ofNat o.line)]

/-- Reads a list of offenses, if the text holds one. -/
def Offense.listOfText? (text : String) : Option (List Offense) :=
  (Json.parse text).bind (list? Offense.ofJson?)

def Coverage.ofJson? (v : Json) : Option Coverage := do
  match ← fields? ["total", "documented"] v with
  | (_, [total, documented]) => some ⟨← required count? total, ← required count? documented⟩
  | _ => none

def Report.ofJson? (v : Json) : Option Report := do
  match ← fields? ["offenses", "fail_on_severity", "min_coverage", "coverage"] v with
  | (form, [offenses, failOn, minCoverage, coverage]) =>
    some
      { offenses := ← required (list? Offense.ofJson?) offenses
        failOn := ← required text? failOn
        minCoverage := ← nullWhenMissing form float? minCoverage
        coverage := ← nullWhenMissing form Coverage.ofJson? coverage }
  | _ => none

/-- Reads a report, if the text holds one. -/
def Report.ofText? (text : String) : Option Report := (Json.parse text).bind Report.ofJson?

end DocAudit

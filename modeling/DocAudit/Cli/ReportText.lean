import DocAudit.Cli.Arguments
import DocAudit.Json.Writer
import DocAudit.Number.Fixed
import DocAudit.Number.Shortest
import DocAudit.Registry.Codec
import DocAudit.Report

/-!
# Showing reports

A report is shown as coloured text with a summary, as a JSON document, or as one line for each
offense.
-/

namespace DocAudit.Cli

/-! ## Coloured text -/

inductive Colour where
  | red
  | green
  | yellow
  | blue
  deriving DecidableEq, Repr

/-- The number that terminals know a colour by. -/
def Colour.code : Colour → Nat
  | .red => 31
  | .green => 32
  | .yellow => 33
  | .blue => 34

def coloured (colour : Colour) (text : String) : String := s!"\x1b[{colour.code}m{text}\x1b[0m"

def severityColour : Severity → Colour
  | .error => .red
  | .warning => .yellow
  | .convention => .blue

/-- The colour of a summary: that of the strictest severity among the offenses. -/
def summaryColour (s : Statistics) : Colour :=
  match Severity.all.find? fun severity => s.get severity > 0 with
  | some severity => severityColour severity
  | none => .green

/-- The paragraph on an offense. -/
def offenseText (o : Offense) : String :=
  let severity := coloured (severityColour o.severity) o.severity.name
  s!"{o.location}:{o.line}: {severity} [{o.name}]\n  {o.message}\n\n"

/-- The line that counts the offenses. -/
def summaryLine (r : Report) : String :=
  let s := r.statistics
  coloured (summaryColour s)
    s!"Found {r.count} offense(s): {s.error} error(s), {s.warning} warning(s), {s.convention} convention(s)"

def coverageLine (c : Coverage) (least : Option Float) : String :=
  let share := Number.fixed 2 c.percentage
  let minimum := match least with
    | some x => ", minimum " ++ Number.fixed 2 x ++ "%"
    | none => ""
  s!"Documentation coverage: {share}% ({c.documented}/{c.total})" ++ minimum

/-- A report as coloured text. -/
def reportText (r : Report) : String :=
  let coverage := match r.coverage with
    | some c => coverageLine c r.minCoverage ++ "\n"
    | none => ""
  String.join (r.offenses.map offenseText) ++ summaryLine r ++ "\n" ++ coverage

/-! ## JSON -/

/-- A number as a JSON value; what is not finite is no number there. -/
def floatJson (x : Float) : Json := ((Number.display? x).bind Json.parse).getD .null

def intJson (n : Int) : Json := .number { Json.Number.ofNat n.natAbs with negative := n < 0 }

def statisticsJson (s : Statistics) : Json :=
  .obj [(some "error", .ofNat s.error), (some "warning", .ofNat s.warning),
    (some "convention", .ofNat s.convention)]

def coverageJson (c : Coverage) (least : Option Float) : Json :=
  .obj ([(some "total", .ofNat c.total), (some "documented", .ofNat c.documented),
    (some "percentage", floatJson c.percentage)] ++
    least.toList.map fun x => (some "minimum", floatJson x))

def reportJson (r : Report) : Json :=
  .obj ([(some "offenses", .arr (r.offenses.map Offense.toJson)),
    (some "statistics", statisticsJson r.statistics), (some "count", .ofNat r.count)] ++
    (r.coverage.toList.map fun c => (some "coverage", coverageJson c r.minCoverage)) ++
    [(some "exit_code", intJson r.exitCode)])

/-! ## Forms -/

/-- A report with one line for each offense. -/
def reportLines (r : Report) : String := String.join (r.offenses.map fun o => o.display ++ "\n")

def showReport (r : Report) : Format → String
  | .text => reportText r
  | .json => (reportJson r).pretty ++ "\n"
  | .compact => reportLines r

end DocAudit.Cli

import DocAudit.Command.Cache
import DocAudit.Report
import DocAudit.Validator.InProcess
import DocAudit.Validator.Set

/-!
# Runs

A runner holds everything that a check needs.  `Runner.run` goes through the enabled validators in
the order of their registration, has each produce its output, turns the output into offenses and
merges them into a report.  The first error that is a defect of a validator ends the run.
-/

namespace DocAudit

/-- The set-up of a check. -/
structure Runner where
  config : Config := {}
  validators : ValidatorSet := {}
  registry : Lookup := Registry.lookup {}
  /-- The selected files; without a selection all files count. -/
  files : Option (List String) := none
  /-- The names of the only validators to run. -/
  only : Option (List String) := none

namespace Runner

/-- The runner with one more validator, or with another one under its name. -/
def register (r : Runner) (v : Validator) : Runner :=
  { r with validators := r.validators.register v }

/-- The runner with a whole set in place of its validators. -/
def withValidators (r : Runner) (s : ValidatorSet) : Runner := { r with validators := s }

/-- The log entries for names of validators that are not registered. -/
def buildLog (r : Runner) : Log :=
  (r.only.getD []).filterMap fun name =>
    if (r.validators.get? name).isNone then some (.warn s!"Unknown validator: {name}") else none

def isSelected (r : Runner) (name : String) : Bool := r.only.all (·.contains name)

def isActive (r : Runner) (v : Validator) : Bool := r.config.isEnabled v.name && r.isSelected v.name

def activeValidators (r : Runner) : List Validator := r.validators.validators.filter r.isActive

def disabledEntry (name : String) : LogEntry := .debug s!"Skipping disabled validator: {name}"

def disabledLog (r : Runner) : Log :=
  (r.validators.validators.filter fun v => !r.config.isEnabled v.name).map fun v =>
    disabledEntry v.name

/-- The visibility of the objects that the coverage counts. -/
def coverageVisibility (r : Runner) : Visibility :=
  .resolve .publicOnly none r.config.allValidators.toolOptions

/-- The coverage of the objects that are visible by the global options, not excluded globally,
and selected. -/
def coverage (r : Runner) : Coverage :=
  .ofRegistry r.registry r.coverageVisibility r.config.allValidators.exclude r.files

/-- What the validators of a run share. -/
structure Session (σ : Type) where
  cache : Cache
  spawner : σ
  inquiry : Inquiry := {}

/-- The outcome of a part of a run. -/
structure Step (σ α : Type) where
  outcome : Except EngineError α
  session : Session σ
  log : Log

/-- Runs the command of a shell validator.  A command that cannot be built counts as a failed
one, unless the validator is defective. -/
def executeShell {σ : Type} (r : Runner) (spawn : Spawner σ) (v : Validator) (s : Session σ) :
    Step σ Execution :=
  match v.command ⟨r.files, r.config.toolOptionsFor v.name⟩ with
  | .error e =>
    if e.isFatal then ⟨.error (.query v.name e), s, []⟩
    else ⟨.ok (.failure e.message 1), s, []⟩
  | .ok command =>
    let x := s.cache.execute spawn command s.spawner
    { outcome := .ok x.execution
      session := { s with cache := x.cache, spawner := x.state }
      log := .debug s!"{v.name}: {command.display}" :: x.log }

/-- Has a validator produce its output. -/
def executeValidator {σ : Type} (r : Runner) (spawn : Spawner σ) (v : Validator) (s : Session σ) :
    Step σ Execution :=
  match v.strategy with
  | .shell => r.executeShell spawn v s
  | .inProcess =>
    let x := s.inquiry.execute r.registry r.config r.files v
    ⟨x.outcome, { s with inquiry := x.inquiry }, x.log⟩

/-- The log entries for a command that has not succeeded. -/
def exitLog (v : Validator) (e : Execution) : Log :=
  if e.isSuccess then []
  else [.warn s!"{v.name} exited with status {e.exitCode}: {Text.trim e.stderr}"]

def runValidator {σ : Type} (r : Runner) (spawn : Spawner σ) (v : Validator) (s : Session σ) :
    Step σ ValidatorResult :=
  let x := r.executeValidator spawn v s
  match x.outcome with
  | .error e => ⟨.error e, x.session, x.log⟩
  | .ok execution =>
    let log := x.log ++ exitLog v execution
    match ValidatorResult.ofRecords v.kind (v.parse execution.stdout) (some r.config) with
    | .error e => ⟨.error e, x.session, log⟩
    | .ok result =>
      ⟨.ok result, x.session,
        log ++ [.debug s!"{v.name}: {result.offenses.length} offense(s)"]⟩

/-- Runs the active ones of the given validators in turn, up to the first error. -/
def runValidators {σ : Type} (r : Runner) (spawn : Spawner σ) :
    List Validator → Session σ → Step σ (List ValidatorResult)
  | [], s => ⟨.ok [], s, []⟩
  | v :: vs, s =>
    if !r.config.isEnabled v.name then
      let rest := r.runValidators spawn vs s
      { rest with log := disabledEntry v.name :: rest.log }
    else if r.isSelected v.name then
      let x := r.runValidator spawn v s
      match x.outcome with
      | .error e => ⟨.error e, x.session, x.log⟩
      | .ok result =>
        let rest := r.runValidators spawn vs x.session
        ⟨rest.outcome.map (result :: ·), rest.session, x.log ++ rest.log⟩
    else r.runValidators spawn vs s

/-- The report on the results of all validators, with the coverage if one is required. -/
def reportOn (r : Runner) (results : List ValidatorResult) : Report :=
  let report := Report.ofResults results r.config
  if r.config.minCoverage.isSome then { report with coverage := some r.coverage } else report

def coverageLog (r : Runner) : Log :=
  if r.config.minCoverage.isSome then
    r.registry.log r.coverageVisibility r.config.allValidators.exclude r.files
  else []

/-- Runs all validators and merges their results. -/
def run {σ : Type} (r : Runner) (spawn : Spawner σ) (cache : Cache) (spawner : σ) :
    Step σ Report :=
  let opening := r.disabledLog ++
    [.info s!"Running {r.activeValidators.length} validator(s)"]
  let x := r.runValidators spawn r.validators.validators ⟨cache, spawner, {}⟩
  match x.outcome with
  | .error e => ⟨.error e, x.session, opening ++ x.log⟩
  | .ok results =>
    let report := r.reportOn results
    let closing := r.coverageLog ++
      [.info s!"Run complete: {report.count} offense(s), exit code {report.exitCode}"]
    ⟨.ok report, x.session, opening ++ x.log ++ closing⟩

end Runner

end DocAudit

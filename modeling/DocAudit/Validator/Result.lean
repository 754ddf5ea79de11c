import DocAudit.Validator

/-!
# From records to offenses

Each record becomes one offense.  Its severity is the configured one, else the record's own, else
the default of the result kind; a record without any of them makes the whole result fail.
-/

namespace DocAudit

structure ValidatorResult where
  validator : String
  offenses : List Offense := []
  deriving DecidableEq, Repr

namespace ResultKind

/-- The severity of a record. -/
def severity? (k : ResultKind) (configured : Option Severity) (r : Record) : Option Severity :=
  configured.or ((k.recordSeverity r).or k.defaultSeverity)

def offense (k : ResultKind) (configured : Option Severity) (r : Record) :
    Except EngineError Offense :=
  match k.severity? configured r with
  | some severity =>
    .ok
      { severity
        kind := k.offenseKind
        name := k.offenseName
        message := k.message r
        location := r.location.getD ""
        line := r.lineOrZero }
  | none => .error (.missingSeverity k.validatorName)

def offenses (k : ResultKind) (configured : Option Severity) :
    List Record → Except EngineError (List Offense)
  | [] => .ok []
  | r :: rs => do
    let o ← k.offense configured r
    let os ← k.offenses configured rs
    .ok (o :: os)

end ResultKind

/-- The result of a validator whose output holds the given records. -/
def ValidatorResult.ofRecords (k : ResultKind) (records : List Record) (config : Option Config) :
    Except EngineError ValidatorResult := do
  let os ← k.offenses (config.bind (·.severity? k.validatorName)) records
  .ok ⟨k.validatorName, os⟩

end DocAudit

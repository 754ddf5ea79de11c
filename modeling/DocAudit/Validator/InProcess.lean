import DocAudit.Validator

/-!
# Asking validators about code objects

`Inquiry.execute` asks an in-process validator about every object that it looks at and that has a
file and a line.  A fatal error ends the inquiry.  After any other error the object is skipped:
what the validator has written about it is taken back, and the skip is logged, the first one ever
as a warning and the others as details.
-/

namespace DocAudit

/-- What has to be remembered between inquiries. -/
structure Inquiry where
  /-- Whether a warning about a skipped object has been logged. -/
  warned : Bool := false
  deriving DecidableEq, Repr

namespace Inquiry

def skipEntry (warned : Bool) (validator object : String) (e : QueryError) : LogEntry :=
  if warned then .debug s!"{validator}: skipped {object}: {e.message}"
  else
    .warn <| s!"{validator}: skipped {object} after query error: {e.message} " ++
      "(further skips logged at debug level)"

/-- The outcome of asking about some objects. -/
structure Asked where
  outcome : Except QueryError Collector
  inquiry : Inquiry
  log : Log

/-- Whether the object has a file and a line. -/
def isLocated (o : CodeObject) : Bool := o.file.isSome && o.line.isSome

/-- Asks about the objects in turn; `c` holds the lines written before. -/
def ask (v : Validator) (settings : Settings) : List CodeObject → Collector → Inquiry → Asked
  | [], c, q => ⟨.ok c, q, []⟩
  | o :: os, c, q =>
    if isLocated o then
      let reply := v.query o settings c
      match reply.error with
      | none =>
        let rest := ask v settings os reply.collector q
        { rest with log := reply.log ++ rest.log }
      | some e =>
        if e.isFatal then ⟨.error e, q, reply.log⟩
        else
          let rest := ask v settings os (reply.collector.truncate c.size) { q with warned := true }
          { rest with log := reply.log ++ skipEntry q.warned v.name o.path e :: rest.log }
    else ask v settings os c q

structure Executed where
  outcome : Except EngineError Execution
  inquiry : Inquiry
  log : Log

def objectsOf (registry : Lookup) (config : Config) (selection : Option (List String))
    (v : Validator) : List CodeObject :=
  registry.objectsFor (config.visibilityFor v.name v.defaultVisibility)
    (config.excludesFor v.name) selection

/-- Asks a validator about all objects that it looks at. -/
def execute (registry : Lookup) (config : Config) (selection : Option (List String))
    (v : Validator) (q : Inquiry) : Executed :=
  let visibility := config.visibilityFor v.name v.defaultVisibility
  let objects := objectsOf registry config selection v
  let opening := registry.log visibility (config.excludesFor v.name) selection ++
    [.debug s!"{v.name}: querying {objects.length} object(s) at {visibility.name} visibility"]
  let asked := ask v ⟨config, v.name⟩ objects {} q
  { outcome := match asked.outcome with
      | .ok c => .ok (.success c.text)
      | .error e => .error (.query v.name e)
    inquiry := asked.inquiry
    log := opening ++ asked.log }

end Inquiry

end DocAudit

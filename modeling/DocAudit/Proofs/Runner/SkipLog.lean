import DocAudit.Proofs.Runner.Course

/-!
# Skipped objects in the log

After an error that is not fatal an object is skipped, and the skip is logged: the first one with a
warning, the later ones as details.  What has been logged is remembered in the `Inquiry` that all
inquiries of a run share, also across those that a fatal error ends.

* An `Event` is what gives rise to one log entry: a `Skip`, or an entry from elsewhere.
* `write` turns events into a log; `Tells` says what such a log looks like, and is shown of every
  written log in `tells_write`.
* `log_executeInTurn` is for inquiries one after the other, `log_run` for a whole run: their logs
  are the written events.  The skips among them are the errors that were met (`skips_callEvents`,
  `skips_events`).
-/

namespace DocAudit

namespace Inquiry

/-! ## Events -/

/-- An object that has been skipped, by which validator and after which error. -/
structure Skip where
  validator : String
  object : String
  error : QueryError
  deriving DecidableEq, Repr

/-- The entry for the first skip. -/
def Skip.warning (s : Skip) : LogEntry :=
  ⟨.warn, s!"{s.validator}: skipped {s.object} after query error: {s.error.message} " ++
    "(further skips logged at debug level)"⟩

/-- The entry for a later skip. -/
def Skip.detail (s : Skip) : LogEntry :=
  ⟨.debug, s!"{s.validator}: skipped {s.object}: {s.error.message}"⟩

/-- The entries for skips: a warning of the first one, and details of the others. -/
def skipLog : List Skip → Log
  | [] => []
  | s :: ss => s.warning :: ss.map Skip.detail

/-- What gives rise to one log entry. -/
inductive Event where
  /-- Something else than a skip, with its entry. -/
  | other (e : LogEntry)
  | skip (s : Skip)
  deriving DecidableEq, Repr

/-- The skip that an event is. -/
def Event.skip? : Event → Option Skip
  | .other _ => none
  | .skip s => some s

/-- The skips among events. -/
def skips (events : List Event) : List Skip := events.filterMap Event.skip?

/-- The entries of a log that are there for skips. -/
def skipEntries (events : List Event) (log : Log) : Log :=
  (events.zip log).filterMap fun p => p.1.skip?.map fun _ => p.2

/-- The log has one entry for each event, in order.  What is no skip has its own entry; the first
skip has a warning, and the others have details. -/
structure Tells (events : List Event) (log : Log) : Prop where
  length_eq : log.length = events.length
  others : ∀ (i : Nat) (e : LogEntry), events[i]? = some (.other e) → log[i]? = some e
  skipped : skipEntries events log = skipLog (skips events)

/-- The log of events, if a skip has been logged before or not. -/
def write : Bool → List Event → Log
  | _, [] => []
  | warned, .other e :: events => e :: write warned events
  | warned, .skip s :: events => skipEntry warned s.validator s.object s.error :: write true events

theorem skips_append (es fs : List Event) : skips (es ++ fs) = skips es ++ skips fs :=
  List.filterMap_append

@[simp] theorem skips_map_other (log : Log) : skips (log.map .other) = [] := by
  unfold skips
  rw [List.filterMap_map]
  exact List.filterMap_eq_nil_iff.2 fun _ _ => rfl

/-- Whether a skip has been logged when some more events have been. -/
def warnedAfter (warned : Bool) (events : List Event) : Bool := warned || !(skips events).isEmpty

@[simp] theorem warnedAfter_map_other (warned : Bool) (log : Log) :
    warnedAfter warned (log.map .other) = warned := by
  simp [warnedAfter]

theorem warnedAfter_append (warned : Bool) (es fs : List Event) :
    warnedAfter warned (es ++ fs) = warnedAfter (warnedAfter warned es) fs := by
  unfold warnedAfter
  rw [skips_append]
  cases skips es <;> simp

theorem write_append : ∀ (warned : Bool) (es fs : List Event),
    write warned (es ++ fs) = write warned es ++ write (warnedAfter warned es) fs
  | warned, [], fs => by simp [write, warnedAfter, skips]
  | warned, .other e :: es, fs => by
    rw [List.cons_append, write, write_append warned es fs, write]
    rfl
  | warned, .skip s :: es, fs => by
    have hafter : warnedAfter warned (.skip s :: es) = warnedAfter true es := by
      simp [warnedAfter, skips, Event.skip?]
    rw [List.cons_append, write, write_append true es fs, write, hafter]
    rfl

@[simp] theorem write_map_other (warned : Bool) (log : Log) :
    write warned (log.map .other) = log := by
  induction log with
  | nil => rfl
  | cons e log ih => rw [List.map_cons, write, ih]

/-! ### What a written log tells -/

theorem length_write : ∀ (warned : Bool) (events : List Event),
    (write warned events).length = events.length
  | _, [] => rfl
  | warned, .other e :: events => by
    rw [write, List.length_cons, List.length_cons, length_write warned events]
  | warned, .skip s :: events => by
    rw [write, List.length_cons, List.length_cons, length_write true events]

theorem getElem?_write_other {e : LogEntry} : ∀ {events : List Event} (warned : Bool) {i : Nat},
    events[i]? = some (.other e) → (write warned events)[i]? = some e
  | .other _ :: _, _, 0, h => by
    cases h
    rfl
  | .skip _ :: _, _, 0, h => by cases h
  | .other _ :: _, warned, i + 1, h => getElem?_write_other warned (i := i) h
  | .skip _ :: _, _, i + 1, h => getElem?_write_other true (i := i) h

theorem skipEntries_write_true (events : List Event) :
    skipEntries events (write true events) = (skips events).map Skip.detail := by
  induction events with
  | nil => rfl
  | cons event events ih =>
    cases event with
    | other e => exact ih
    | skip s => exact congrArg (s.detail :: ·) ih

theorem skipEntries_write_false (events : List Event) :
    skipEntries events (write false events) = skipLog (skips events) := by
  induction events with
  | nil => rfl
  | cons event events ih =>
    cases event with
    | other e => exact ih
    | skip s => exact congrArg (s.warning :: ·) (skipEntries_write_true events)

theorem tells_write (events : List Event) : Tells events (write false events) where
  length_eq := length_write false events
  others _ _ := getElem?_write_other false
  skipped := skipEntries_write_false events

theorem Tells.warnings_eq {events : List Event} {log : Log} (h : Tells events log) :
    (skipEntries events log).filter (·.level = .warn) =
      ((skips events).head?.map Skip.warning).toList := by
  have hdetails : ∀ ss : List Skip, (ss.map Skip.detail).filter (·.level = .warn) = [] := by
    intro ss
    rw [List.filter_eq_nil_iff]
    intro e he
    obtain ⟨s, _, rfl⟩ := List.mem_map.1 he
    simp [Skip.detail]
  rw [h.skipped]
  cases skips events with
  | nil => rfl
  | cons s ss =>
    rw [skipLog, List.filter_cons_of_pos (by simp [Skip.warning]), hdetails]
    rfl

/-! ## Inquiries -/

variable {v : Validator} {settings : Settings}

/-- The events of replies about objects in turn, up to the first fatal one. -/
def replyEvents (v : Validator) : List (CodeObject × Reply) → List Event
  | [] => []
  | (o, reply) :: rest =>
    reply.log.map .other ++
      match reply.error with
      | none => replyEvents v rest
      | some e => if e.isFatal then [] else .skip ⟨v.name, o.path, e⟩ :: replyEvents v rest

theorem ask_log : ∀ (os : List CodeObject) (c : Collector) (q : Inquiry),
    (ask v settings os c q).log =
        write q.warned (replyEvents v (replies v settings (os.filter isLocated) c)) ∧
      (ask v settings os c q).inquiry.warned =
        warnedAfter q.warned (replyEvents v (replies v settings (os.filter isLocated) c))
  | [], c, q => by simp [ask, replies, replyEvents, write, warnedAfter, skips]
  | o :: os, c, q => by
    unfold ask
    by_cases hl : isLocated o = true
    · rw [if_pos hl, List.filter_cons_of_pos hl, replies, replyEvents]
      unfold Reply.kept
      simp only
      rw [write_append, warnedAfter_append, write_map_other, warnedAfter_map_other]
      cases (v.query o settings c).error with
      | none =>
        obtain ⟨hlog, hwarned⟩ := ask_log os (v.query o settings c).collector q
        simp only [Option.isNone_none, if_true]
        exact ⟨by rw [hlog], hwarned⟩
      | some e =>
        simp only [Option.isNone_some, Bool.false_eq_true, if_false]
        by_cases hf : e.isFatal = true
        · rw [if_pos hf, if_pos hf]
          simp [write, warnedAfter, skips]
        · rw [if_neg hf, if_neg hf]
          obtain ⟨hlog, hwarned⟩ := ask_log os ((v.query o settings c).collector.truncate c.size)
            { q with warned := true }
          -- from here on the inquiry has warned, whether it had before or not
          refine ⟨?_, ?_⟩
          · simp only [write]
            rw [hlog]
          · rw [hwarned]
            simp [warnedAfter, skips, Event.skip?]
    · rw [if_neg hl, List.filter_cons_of_neg hl]
      exact ask_log os c q

/-- A use of the inquiry: a validator that is asked, about which files. -/
structure Call where
  validator : Validator
  selection : Option (List String) := none

/-- The skips of a call: the objects that the validator is asked about before a fatal error, as far
as it has ended with an error about them. -/
def met (registry : Lookup) (config : Config) (call : Call) : List Skip :=
  let asked := (repliesOf registry config call.selection call.validator).takeWhile fun p =>
    !p.2.error.any (·.isFatal)
  asked.filterMap fun p => p.2.error.map (⟨call.validator.name, p.1.path, ·⟩)

def callEvents (registry : Lookup) (config : Config) (call : Call) : List Event :=
  let v := call.validator
  let visibility := config.visibilityFor v.name v.defaultVisibility
  let objects := objectsOf registry config call.selection v
  let opening : Log := registry.log visibility (config.excludesFor v.name) call.selection ++
    [.debug s!"{v.name}: querying {objects.length} object(s) at {visibility.name} visibility"]
  opening.map .other ++ replyEvents v (repliesOf registry config call.selection v)

theorem skips_replyEvents (v : Validator) (rs : List (CodeObject × Reply)) :
    skips (replyEvents v rs) =
      (rs.takeWhile fun p => !p.2.error.any (·.isFatal)).filterMap fun p =>
        p.2.error.map (⟨v.name, p.1.path, ·⟩) := by
  induction rs with
  | nil => rfl
  | cons p rs ih =>
    obtain ⟨o, reply⟩ := p
    rw [replyEvents, skips_append, skips_map_other, List.nil_append, List.takeWhile_cons]
    cases he : reply.error with
    | none => simpa [he] using ih
    | some e =>
      by_cases hf : e.isFatal = true
      · simp [hf, skips]
      · simp only [Option.any_some, hf, Bool.not_false, Bool.false_eq_true, if_true, if_false,
          List.filterMap_cons, he, Option.map_some, ← ih]
        rfl

theorem skips_callEvents (registry : Lookup) (config : Config) (call : Call) :
    skips (callEvents registry config call) = met registry config call := by
  unfold callEvents
  simp only
  rw [skips_append, skips_map_other, List.nil_append, skips_replyEvents]
  rfl

theorem execute_log (registry : Lookup) (config : Config) (call : Call) (q : Inquiry) :
    let x := q.execute registry config call.selection call.validator
    x.log = write q.warned (callEvents registry config call) ∧
      x.inquiry.warned = warnedAfter q.warned (callEvents registry config call) := by
  intro x
  obtain ⟨hlog, hwarned⟩ := @ask_log call.validator ⟨config, call.validator.name⟩
    (objectsOf registry config call.selection call.validator) {} q
  unfold callEvents repliesOf eligible
  simp only
  rw [write_append, warnedAfter_append, write_map_other, warnedAfter_map_other]
  exact ⟨by rw [← hlog]; rfl, hwarned⟩

/-- The log of calls one after the other. -/
def executeInTurn (registry : Lookup) (config : Config) : List Call → Inquiry → Log
  | [], _ => []
  | call :: calls, q =>
    let x := q.execute registry config call.selection call.validator
    x.log ++ executeInTurn registry config calls x.inquiry

theorem log_executeInTurn (registry : Lookup) (config : Config) :
    ∀ (calls : List Call) (q : Inquiry),
      executeInTurn registry config calls q =
        write q.warned (calls.flatMap (callEvents registry config))
  | [], q => rfl
  | call :: calls, q => by
    obtain ⟨hlog, hwarned⟩ := execute_log registry config call q
    rw [executeInTurn, log_executeInTurn registry config calls, hlog, hwarned, List.flatMap_cons,
      write_append]

theorem skips_flatMap {α : Type} (f : α → List Event) (xs : List α) :
    skips (xs.flatMap f) = xs.flatMap fun x => skips (f x) :=
  List.filterMap_flatMap ..

end Inquiry

/-! ## Runs -/

namespace Runner

open Inquiry

variable {σ : Type} (r : Runner) (spawn : Spawner σ)

/-- The log entries about a validator once it has been executed. -/
def judgement (v : Validator) : Except EngineError Execution → Log
  | .error _ => []
  | .ok x =>
    exitLog v x ++
      match ValidatorResult.ofRecords v.kind (v.parse x.stdout) (some r.config) with
      | .error _ => []
      | .ok result => [.debug s!"{v.name}: {result.offenses.length} offense(s)"]

/-- The events while a validator is executed. -/
def executionEvents (v : Validator) (s : Session σ) : List Event :=
  match v.strategy with
  | .shell => (r.executeShell spawn v s).log.map .other
  | .inProcess => callEvents r.registry r.config ⟨v, r.files⟩

/-- The events while a validator is run. -/
def validatorEvents (v : Validator) (s : Session σ) : List Event :=
  r.executionEvents spawn v s ++
    (r.judgement v (r.executeValidator spawn v s).outcome).map .other

/-- The events while the active ones of some validators are run in turn, up to the first error. -/
def turnEvents : List Validator → Session σ → List Event
  | [], _ => []
  | v :: vs, s =>
    if !r.config.isEnabled v.name then .other (disabledEntry v.name) :: turnEvents vs s
    else if r.isSelected v.name then
      r.validatorEvents spawn v s ++
        match (r.runValidator spawn v s).outcome with
        | .error _ => []
        | .ok _ => turnEvents vs (r.executeValidator spawn v s).session
    else turnEvents vs s

def events (cache : Cache) (st : σ) : List Event :=
  let opening := r.disabledLog ++ [.info s!"Running {r.activeValidators.length} validator(s)"]
  let closing : Log := match (r.run spawn cache st).outcome with
    | .error _ => []
    | .ok report => r.coverageLog ++
      [.info s!"Run complete: {report.count} offense(s), exit code {report.exitCode}"]
  opening.map .other ++ r.turnEvents spawn r.validators.validators ⟨cache, st, {}⟩ ++
    closing.map .other

theorem executeValidator_log (v : Validator) (s : Session σ) :
    (r.executeValidator spawn v s).log =
        write s.inquiry.warned (r.executionEvents spawn v s) ∧
      (r.executeValidator spawn v s).session.inquiry.warned =
        warnedAfter s.inquiry.warned (r.executionEvents spawn v s) := by
  unfold executeValidator executionEvents
  cases v.strategy with
  | inProcess => exact execute_log r.registry r.config ⟨v, r.files⟩ s.inquiry
  | shell =>
    simp only [write_map_other, warnedAfter_map_other, true_and]
    unfold executeShell
    split
    · split <;> rfl
    · rfl

theorem runValidator_log (v : Validator) (s : Session σ) :
    (r.runValidator spawn v s).log =
        write s.inquiry.warned (r.validatorEvents spawn v s) ∧
      (r.executeValidator spawn v s).session.inquiry.warned =
        warnedAfter s.inquiry.warned (r.validatorEvents spawn v s) := by
  obtain ⟨hlog, hwarned⟩ := r.executeValidator_log spawn v s
  unfold validatorEvents
  rw [write_append, warnedAfter_append, write_map_other, warnedAfter_map_other, ← hlog, ← hwarned]
  refine ⟨?_, rfl⟩
  unfold runValidator judgement
  simp only
  cases (r.executeValidator spawn v s).outcome with
  | error e => simp
  | ok x =>
    simp only
    cases ValidatorResult.ofRecords v.kind (v.parse x.stdout) (some r.config) with
    | error e => simp
    | ok result => simp

theorem runValidators_log : ∀ (vs : List Validator) (s : Session σ),
    (r.runValidators spawn vs s).log = write s.inquiry.warned (r.turnEvents spawn vs s)
  | [], s => rfl
  | v :: vs, s => by
    unfold runValidators turnEvents
    by_cases he : r.config.isEnabled v.name = true
    · by_cases hsel : r.isSelected v.name = true
      · obtain ⟨hlog, hwarned⟩ := r.runValidator_log spawn v s
        simp only [he, hsel, Bool.not_true, Bool.false_eq_true, if_false, if_true]
        rw [write_append, ← hlog]
        cases (r.runValidator spawn v s).outcome with
        | error e => simp [write]
        | ok result =>
          -- the next validators find the inquiry as this one has left it
          simp only
          rw [runValidators_log vs, runValidator_session, hwarned]
      · simp only [he, hsel, Bool.not_true, Bool.false_eq_true, if_false]
        exact runValidators_log vs s
    · simp only [he, Bool.not_false, if_true]
      rw [write, runValidators_log vs s]

theorem log_run (cache : Cache) (st : σ) :
    (r.run spawn cache st).log = write false (r.events spawn cache st) := by
  have hturn := r.runValidators_log spawn r.validators.validators ⟨cache, st, {}⟩
  unfold events
  simp only
  rw [write_append, write_append, write_map_other, warnedAfter_map_other, write_map_other]
  unfold run
  simp only
  cases (r.runValidators spawn r.validators.validators ⟨cache, st, {}⟩).outcome with
  | error e => simp only [hturn, List.append_nil]
  | ok results => simp only [hturn]

/-- The skips of a run: those of the in-process validators that it gets to. -/
def metInRun (cache : Cache) (st : σ) : List Skip :=
  ((r.reached spawn ⟨cache, st, {}⟩ r.activeValidators).filter (·.strategy = .inProcess)).flatMap
    fun v => met r.registry r.config ⟨v, r.files⟩

theorem skips_validatorEvents (v : Validator) (s : Session σ) :
    skips (r.validatorEvents spawn v s) =
      ([v].filter (·.strategy = .inProcess)).flatMap fun v =>
        met r.registry r.config ⟨v, r.files⟩ := by
  unfold validatorEvents executionEvents
  rw [skips_append, skips_map_other, List.append_nil]
  cases hs : v.strategy with
  | shell => simp [hs]
  | inProcess => simp [hs, skips_callEvents]

theorem skips_turnEvents : ∀ (vs : List Validator) (s : Session σ),
    skips (r.turnEvents spawn vs s) =
      ((r.reached spawn s (vs.filter r.isActive)).filter (·.strategy = .inProcess)).flatMap
        fun v => met r.registry r.config ⟨v, r.files⟩
  | [], s => rfl
  | v :: vs, s => by
    unfold turnEvents
    by_cases he : r.config.isEnabled v.name = true
    · by_cases hsel : r.isSelected v.name = true
      · rw [List.filter_cons_of_pos (by simp [isActive, he, hsel])]
        simp only [he, hsel, Bool.not_true, Bool.false_eq_true, if_false, if_true]
        unfold reached
        rw [skips_append, skips_validatorEvents]
        cases (r.runValidator spawn v s).outcome with
        | error e => exact List.append_nil _
        | ok result =>
          simp only
          rw [skips_turnEvents vs, ← List.flatMap_append, ← List.filter_append,
            List.singleton_append]
      · rw [List.filter_cons_of_neg (by simp [isActive, hsel])]
        simp only [he, hsel, Bool.not_true, Bool.false_eq_true, if_false]
        exact skips_turnEvents vs s
    · rw [List.filter_cons_of_neg (by simp [isActive, he])]
      simp only [he, Bool.not_false, if_true]
      exact skips_turnEvents vs s

theorem skips_events (cache : Cache) (st : σ) :
    skips (r.events spawn cache st) = r.metInRun spawn cache st := by
  unfold events
  simp only
  rw [skips_append, skips_append, skips_map_other, skips_map_other, List.nil_append,
    List.append_nil, skips_turnEvents]
  rfl

end Runner

/-- **The first skip is warned of, and every later one is in the log.**  The log of any inquiries
    one after the other, also of those that a fatal error ends, has one entry for each error that
    was met and was not fatal, in order, with the names of validator and object and the error: a
    warning for the first one, and details for all others.  The same is true of a whole run, whose
    errors are those of the in-process validators that it gets to.  So among the entries of a run
    for skips there is at most one warning, and there is one exactly if there was a skip. -/
theorem Runner.first_skip_is_warned_of {σ : Type} (registry : Lookup) (config : Config)
    (calls : List Inquiry.Call) (r : Runner) (spawn : Spawner σ) (cache : Cache) (st : σ) :
    (let events := calls.flatMap (Inquiry.callEvents registry config)
      let log := Inquiry.executeInTurn registry config calls {}
      Inquiry.Tells events log ∧
        Inquiry.skipEntries events log =
          Inquiry.skipLog (calls.flatMap (Inquiry.met registry config))) ∧
    (let events := r.events spawn cache st
      let log := (r.run spawn cache st).log
      let warnings := (Inquiry.skipEntries events log).filter (·.level = .warn)
      Inquiry.Tells events log ∧
        Inquiry.skipEntries events log = Inquiry.skipLog (r.metInRun spawn cache st) ∧
        warnings.length ≤ 1 ∧
        (warnings.length = 1 ↔ r.metInRun spawn cache st ≠ [])) := by
  constructor
  · intro events log
    have htells : Inquiry.Tells events log := by
      show Inquiry.Tells events (Inquiry.executeInTurn registry config calls {})
      rw [Inquiry.log_executeInTurn]
      exact Inquiry.tells_write events
    refine ⟨htells, ?_⟩
    rw [htells.skipped, Inquiry.skips_flatMap]
    simp only [Inquiry.skips_callEvents]
  · intro events log warnings
    have htells : Inquiry.Tells events log := by
      show Inquiry.Tells events (r.run spawn cache st).log
      rw [log_run]
      exact Inquiry.tells_write events
    have hskips : Inquiry.skips events = r.metInRun spawn cache st :=
      r.skips_events spawn cache st
    have hwarnings : warnings =
        ((r.metInRun spawn cache st).head?.map Inquiry.Skip.warning).toList := by
      rw [← hskips]
      exact htells.warnings_eq
    refine ⟨htells, by rw [htells.skipped, hskips], ?_, ?_⟩
    · rw [hwarnings]
      cases (r.metInRun spawn cache st).head? <;> simp
    · rw [hwarnings]
      cases r.metInRun spawn cache st <;> simp

/-- A validator that cannot answer about modules, and that is defective for constants. -/
def Inquiry.faltering : Validator where
  name := "Faltering"
  strategy := .inProcess
  query := fun o _ c =>
    match o.kind with
    | .moduleDef => { collector := c, error := some (.runtime "no answer") }
    | .constantDef => { collector := c, error := some (.noSuchAccessor "Faltering" "value" o.path) }
    | _ => { collector := c }
  parse := fun _ => []
  kind := { validatorName := "Faltering", message := fun _ => "" }

/-- The first inquiry is ended by a constant before it comes to the second module; in the next one
that module is skipped, and the warning of the first one counts.  A run of the validator has the
first skip only. -/
theorem Runner.first_skip_is_warned_of_faltering :
    let placed (kind : ObjectKind) (path file : String) : CodeObject :=
      { path, kind, file := some file, line := some 1 }
    let registry : Registry :=
      ⟨[placed .moduleDef "A" "a.rb", placed .constantDef "B" "b.rb",
        placed .moduleDef "C" "c.rb"]⟩
    let calls : List Inquiry.Call :=
      [⟨Inquiry.faltering, none⟩, ⟨Inquiry.faltering, some ["c.rb"]⟩]
    let skip (object : String) : Inquiry.Skip := ⟨"Faltering", object, .runtime "no answer"⟩
    let r : Runner := { validators := .ofList [Inquiry.faltering], registry }
    let spawn : Spawner Unit := fun _ _ => ⟨.success "", [], ()⟩
    Inquiry.skipEntries (calls.flatMap (Inquiry.callEvents registry {}))
        (Inquiry.executeInTurn registry {} calls {}) = [(skip "A").warning, (skip "C").detail] ∧
      Inquiry.skipEntries (r.events spawn {} ()) (r.run spawn {} ()).log =
        [(skip "A").warning] := by
  intro placed registry calls skip r spawn
  obtain ⟨⟨_, hcalls⟩, _, hrun, _⟩ := first_skip_is_warned_of registry {} calls r spawn {} ()
  rw [hcalls, hrun]
  exact ⟨by decide, by decide⟩

end DocAudit

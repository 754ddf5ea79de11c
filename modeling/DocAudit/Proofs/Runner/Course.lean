import DocAudit.Proofs.Command.Cache
import DocAudit.Proofs.Validator.InProcess
import DocAudit.Proofs.Validator.Result
import DocAudit.Runner

/-!
# The course of a run

A run goes through its active validators.  What one of them contributes depends on the others only
through the answers that the session has for its command:

* `verdict` is the outcome of one validator as a function of these answers, `runValidator_outcome`
  says that it is;
* `after` is the session when some validators have been executed, `reached` are the validators that
  a run gets to;
* `run_outcome` and `run_session` describe a whole run in these terms.
-/

namespace DocAudit.Runner

variable {σ : Type}

/-- What the session answers to a command: the stored result, else that of spawning it. -/
def Session.answer (spawn : Spawner σ) (s : Session σ) (c : Command) : Execution :=
  (s.cache.execute spawn c s.spawner).execution

/-- What the command builder of a validator gives. -/
def commandOf (r : Runner) (v : Validator) : Except QueryError Command :=
  v.command ⟨r.files, r.config.toolOptionsFor v.name⟩

/-- The command that a validator executes, if it executes one. -/
def command? (r : Runner) (v : Validator) : Option Command :=
  match v.strategy with
  | .shell => (r.commandOf v).toOption
  | .inProcess => none

/-- The commands that validators execute, in order. -/
def commands (r : Runner) (vs : List Validator) : List Command := vs.filterMap r.command?

theorem commands_cons (r : Runner) (v : Validator) (vs : List Validator) :
    r.commands (v :: vs) = (r.command? v).toList ++ r.commands vs := by
  unfold commands
  cases hc : r.command? v <;> simp [hc]

/-! ## One validator -/

/-- The output of a validator, if commands have the given results. -/
def produce (r : Runner) (answer : Command → Execution) (v : Validator) :
    Except EngineError Execution :=
  match v.strategy with
  | .shell =>
    match r.commandOf v with
    | .error e => if e.isFatal then .error (.query v.name e) else .ok (.failure e.message 1)
    | .ok c => .ok (answer c)
  | .inProcess =>
    match Inquiry.firstFatal? r.registry r.config r.files v with
    | some e => .error (.query v.name e)
    | none => .ok (.success (Inquiry.written r.registry r.config r.files v).text)

/-- The outcome of a validator, if commands have the given results. -/
def verdict (r : Runner) (answer : Command → Execution) (v : Validator) :
    Except EngineError ValidatorResult :=
  (r.produce answer v).bind fun x =>
    ValidatorResult.ofRecords v.kind (v.parse x.stdout) (some r.config)

theorem produce_congr (r : Runner) {a b : Command → Execution} {v : Validator}
    (h : ∀ c, r.command? v = some c → a c = b c) : r.produce a v = r.produce b v := by
  unfold produce
  cases hs : v.strategy with
  | inProcess => rfl
  | shell =>
    cases hc : r.commandOf v with
    | error e => rfl
    | ok c =>
      simp only
      rw [h c (by simp [command?, hs, hc, Except.toOption])]

theorem verdict_congr (r : Runner) {a b : Command → Execution} {v : Validator}
    (h : ∀ c, r.command? v = some c → a c = b c) : r.verdict a v = r.verdict b v := by
  unfold verdict
  rw [r.produce_congr h]

theorem executeValidator_outcome (r : Runner) (spawn : Spawner σ) (v : Validator)
    (s : Session σ) :
    (r.executeValidator spawn v s).outcome = r.produce (s.answer spawn) v := by
  unfold executeValidator produce
  cases hs : v.strategy with
  | inProcess => exact Inquiry.execute_outcome r.registry r.config r.files v s.inquiry
  | shell =>
    unfold executeShell commandOf Session.answer
    simp only
    cases v.command ⟨r.files, r.config.toolOptionsFor v.name⟩ with
    | error e =>
      simp only
      split <;> rfl
    | ok c => rfl

/-- **The outcome of a validator depends on the session through its answers only.** -/
theorem runValidator_outcome (r : Runner) (spawn : Spawner σ) (v : Validator) (s : Session σ) :
    (r.runValidator spawn v s).outcome = r.verdict (s.answer spawn) v := by
  unfold runValidator verdict
  rw [← executeValidator_outcome]
  simp only
  cases (r.executeValidator spawn v s).outcome with
  | error e => rfl
  | ok x =>
    simp only [Except.bind]
    cases ValidatorResult.ofRecords v.kind (v.parse x.stdout) (some r.config) <;> rfl

theorem runValidator_session (r : Runner) (spawn : Spawner σ) (v : Validator) (s : Session σ) :
    (r.runValidator spawn v s).session = (r.executeValidator spawn v s).session := by
  unfold runValidator
  simp only
  split
  · rfl
  · split <;> rfl

theorem executeValidator_of_command?_none {r : Runner} {v : Validator}
    (h : r.command? v = none) (spawn : Spawner σ) (s : Session σ) :
    (r.executeValidator spawn v s).session.cache = s.cache ∧
      (r.executeValidator spawn v s).session.spawner = s.spawner := by
  unfold executeValidator
  cases hs : v.strategy with
  | inProcess => exact ⟨rfl, rfl⟩
  | shell =>
    simp only [command?, hs, commandOf] at h
    unfold executeShell
    cases hc : v.command ⟨r.files, r.config.toolOptionsFor v.name⟩ with
    | ok c => rw [hc] at h; cases h
    | error e =>
      simp only
      split <;> exact ⟨rfl, rfl⟩

theorem executeValidator_of_command?_some {r : Runner} {v : Validator} {c : Command}
    (h : r.command? v = some c) (spawn : Spawner σ) (s : Session σ) :
    (r.executeValidator spawn v s).session.cache = (s.cache.execute spawn c s.spawner).cache ∧
      (r.executeValidator spawn v s).session.spawner =
        (s.cache.execute spawn c s.spawner).state := by
  unfold executeValidator
  cases hs : v.strategy with
  | inProcess => simp [command?, hs] at h
  | shell =>
    simp only [command?, hs, commandOf] at h
    unfold executeShell
    cases hc : v.command ⟨r.files, r.config.toolOptionsFor v.name⟩ with
    | error e => rw [hc] at h; cases h
    | ok d =>
      rw [hc] at h
      cases h
      exact ⟨rfl, rfl⟩

/-! ## Validators in turn -/

/-- The session after some validators have been executed. -/
def after (r : Runner) (spawn : Spawner σ) (s : Session σ) (vs : List Validator) : Session σ :=
  vs.foldl (fun s v => (r.executeValidator spawn v s).session) s

/-- The validators that are run if all of `vs` are to be: those up to the first error. -/
def reached (r : Runner) (spawn : Spawner σ) : Session σ → List Validator → List Validator
  | _, [] => []
  | s, v :: vs =>
    match (r.runValidator spawn v s).outcome with
    | .error _ => [v]
    | .ok _ => v :: r.reached spawn (r.executeValidator spawn v s).session vs

/-- The results of validators that are run in turn. -/
def results (r : Runner) (spawn : Spawner σ) :
    Session σ → List Validator → Except EngineError (List ValidatorResult)
  | _, [] => .ok []
  | s, v :: vs =>
    (r.verdict (s.answer spawn) v).bind fun result =>
      (r.results spawn (r.executeValidator spawn v s).session vs).map (result :: ·)

/-- A run of validators is one of the active ones among them. -/
theorem runValidators_eq (r : Runner) (spawn : Spawner σ) :
    ∀ (vs : List Validator) (s : Session σ),
      (r.runValidators spawn vs s).outcome = r.results spawn s (vs.filter r.isActive) ∧
        (r.runValidators spawn vs s).session =
          r.after spawn s (r.reached spawn s (vs.filter r.isActive))
  | [], s => ⟨rfl, rfl⟩
  | v :: vs, s => by
    unfold runValidators
    by_cases he : r.config.isEnabled v.name = true
    · by_cases hsel : r.isSelected v.name = true
      · rw [List.filter_cons_of_pos (by simp [isActive, he, hsel])]
        simp only [he, hsel, Bool.not_true, Bool.false_eq_true, if_false, if_true]
        unfold results reached
        rw [runValidator_outcome]
        cases hv : r.verdict (s.answer spawn) v with
        | error e => exact ⟨rfl, runValidator_session r spawn v s⟩
        | ok result =>
          simp only
          obtain ⟨ho, hs⟩ := runValidators_eq r spawn vs (r.runValidator spawn v s).session
          rw [ho, hs, runValidator_session]
          exact ⟨rfl, rfl⟩
      · rw [List.filter_cons_of_neg (by simp [isActive, hsel])]
        simp only [he, hsel, Bool.not_true, Bool.false_eq_true, if_false]
        exact runValidators_eq r spawn vs s
    · rw [List.filter_cons_of_neg (by simp [isActive, he])]
      simp only [he, Bool.not_false, if_true]
      exact runValidators_eq r spawn vs s

/-- **The outcome of a run**, from those of its validators. -/
theorem run_outcome (r : Runner) (spawn : Spawner σ) (cache : Cache) (st : σ) :
    (r.run spawn cache st).outcome =
      (r.results spawn ⟨cache, st, {}⟩ r.activeValidators).map r.reportOn := by
  unfold run activeValidators
  rw [← (r.runValidators_eq spawn r.validators.validators ⟨cache, st, {}⟩).1]
  simp only
  cases (r.runValidators spawn r.validators.validators ⟨cache, st, {}⟩).outcome <;> rfl

/-- **The session after a run** is the one after the validators that it gets to. -/
theorem run_session (r : Runner) (spawn : Spawner σ) (cache : Cache) (st : σ) :
    (r.run spawn cache st).session =
      r.after spawn ⟨cache, st, {}⟩
        (r.reached spawn ⟨cache, st, {}⟩ r.activeValidators) := by
  unfold run activeValidators
  rw [← (r.runValidators_eq spawn r.validators.validators ⟨cache, st, {}⟩).2]
  simp only
  cases (r.runValidators spawn r.validators.validators ⟨cache, st, {}⟩).outcome <;> rfl

end DocAudit.Runner

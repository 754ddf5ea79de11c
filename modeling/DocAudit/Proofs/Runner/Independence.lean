import DocAudit.Proofs.Lists
import DocAudit.Proofs.Runner.Course
import DocAudit.Proofs.Validator.Set
import DocAudit.Text.Lines

/-!
# Validators of one run do not influence each other

The validators of a run share the command cache, the spawner and the memory of logged warnings.
With a spawner that answers by the command alone, and fingerprints that tell the commands of the
run apart, none of this shows: `run_eq_runEach` says that a run gives what its validators give when
each is run alone with a fresh cache, and that what a validator contributes stays the same when
others are left out under the same configuration.

A query sees the whole configuration, the switches of other validators among it.  So when others are
switched off, contributions stay the same only if queries reply alike (`RepliesAlike`);
`contribution_depends_on_switches` shows what happens without that.

The invariant is `Cache.Agrees`: every stored result is the one that spawning would give.  With it
the outcome of a validator is a function of the validator, `verdict result`, and a run is a `mapM`
of that function (`results_eq_mapM`).
-/

namespace DocAudit

/-! ## Switching validators off -/

namespace Config

/-- The settings of a validator apart from its switch. -/
def block (c : Config) (name : String) : ValidatorConfig :=
  { (c.validator? name).getD {} with enabled := none }

/-- Configurations that treat validators alike, apart from which of them are switched on. -/
structure SameButSwitches (c c' : Config) : Prop where
  allValidators : c'.allValidators = c.allValidators
  block : ∀ name, c'.block name = c.block name

theorem ownToolOptions?_eq (c : Config) (name : String) :
    c.ownToolOptions? name = (c.block name).toolOptions := by
  unfold ownToolOptions? block
  cases c.validator? name <;> rfl

theorem severity?_eq (c : Config) (name : String) :
    c.severity? name = (c.block name).severity := by
  unfold severity? block
  cases c.validator? name <;> rfl

theorem excludesFor_eq (c : Config) (name : String) :
    c.excludesFor name = c.allValidators.exclude ++ (c.block name).exclude := by
  unfold excludesFor block
  cases c.validator? name <;> rfl

namespace SameButSwitches

variable {c c' : Config}

theorem toolOptionsFor (h : c.SameButSwitches c') (name : String) :
    c'.toolOptionsFor name = c.toolOptionsFor name := by
  unfold Config.toolOptionsFor
  rw [ownToolOptions?_eq, ownToolOptions?_eq, h.block, h.allValidators]

theorem severity? (h : c.SameButSwitches c') (name : String) :
    c'.severity? name = c.severity? name := by
  rw [severity?_eq, severity?_eq, h.block]

theorem objectsOf (h : c.SameButSwitches c') (registry : Lookup)
    (selection : Option (List String)) (v : Validator) :
    Inquiry.objectsOf registry c' selection v = Inquiry.objectsOf registry c selection v := by
  unfold Inquiry.objectsOf visibilityFor
  rw [excludesFor_eq, excludesFor_eq, ownToolOptions?_eq, ownToolOptions?_eq, h.block,
    h.allValidators]

end SameButSwitches

end Config

/-! ## One validator after the other -/

namespace Runner

variable {σ : Type} {r : Runner} {spawn : Spawner σ} {result : Command → Execution}

/-- The commands that are built in a run. -/
def builtCommands (r : Runner) (spawn : Spawner σ) (cache : Cache) (st : σ) : List Command :=
  r.commands (r.reached spawn ⟨cache, st, {}⟩ r.activeValidators)

theorem mem_commands_reached {v : Validator} {c : Command} (hc : r.command? v = some c)
    (s : Session σ) (vs : List Validator) : c ∈ r.commands (r.reached spawn s (v :: vs)) := by
  unfold reached
  split <;> simp [commands_cons, hc]

theorem Session.answer_eq {s : Session σ} {cs : List Command} (h : s.cache.Agrees result cs)
    (hspawn : ∀ c st, (spawn c st).execution = result c) {c : Command} (hc : c ∈ cs) :
    s.answer spawn c = result c :=
  h.execution_eq hspawn hc s.spawner

theorem agrees_executeValidator {s : Session σ} {cs : List Command} {v : Validator}
    (hspawn : ∀ c st, (spawn c st).execution = result c) (hsep : Cache.FingerprintsSeparate cs)
    (h : s.cache.Agrees result cs) (hv : ∀ c, r.command? v = some c → c ∈ cs) :
    (r.executeValidator spawn v s).session.cache.Agrees result cs := by
  cases hc : r.command? v with
  | none =>
    rw [(executeValidator_of_command?_none hc spawn s).1]
    exact h
  | some c =>
    rw [(executeValidator_of_command?_some hc spawn s).1]
    exact h.execute hspawn hsep (hv c hc) s.spawner

/-- **With an agreeing cache the validators of a run are independent.** -/
theorem results_eq_mapM (hspawn : ∀ c st, (spawn c st).execution = result c) :
    ∀ (vs : List Validator) (s : Session σ),
      Cache.FingerprintsSeparate (r.commands (r.reached spawn s vs)) →
      s.cache.Agrees result (r.commands (r.reached spawn s vs)) →
      r.results spawn s vs = vs.mapM (r.verdict result)
  | [], _, _, _ => rfl
  | v :: vs, s, hsep, hagree => by
    have hv : r.verdict (s.answer spawn) v = r.verdict result v :=
      r.verdict_congr fun c hc => Session.answer_eq hagree hspawn (mem_commands_reached hc s vs)
    have hnext := agrees_executeValidator hspawn hsep hagree
      fun c hc => mem_commands_reached hc s vs
    unfold results
    rw [List.mapM_cons, hv]
    cases hok : r.verdict result v with
    | error e => rfl
    | ok result' =>
      -- the run goes on, so the commands built from here on are among those built in all
      have hreached : r.commands (r.reached spawn s (v :: vs)) =
          (r.command? v).toList ++
            r.commands (r.reached spawn (r.executeValidator spawn v s).session vs) := by
        rw [reached, runValidator_outcome, hv, hok]
        exact r.commands_cons v _
      rw [hreached] at hsep hnext
      have ih := results_eq_mapM hspawn vs (r.executeValidator spawn v s).session
        (fun c hc d hd => hsep c (List.mem_append_right _ hc) d (List.mem_append_right _ hd))
        (hnext.mono fun c hc => List.mem_append_right _ hc)
      simp only [Except.bind]
      rw [ih]
      cases vs.mapM (r.verdict result) <;> rfl

/-! ## Validators alone -/

/-- The runner that runs one validator only. -/
def alone (r : Runner) (v : Validator) : Runner := { r with only := some [v.name] }

/-- The reports on validators that are run alone, one after the other and each with a fresh
cache, up to the first error. -/
def runEach (r : Runner) (spawn : Spawner σ) :
    σ → List Validator → Except EngineError (List Report)
  | _, [] => .ok []
  | st, v :: vs =>
    let x := (r.alone v).run spawn {} st
    x.outcome.bind fun report => (r.runEach spawn x.session.spawner vs).map (report :: ·)

/-- The report on a run that has the offenses of the given reports. -/
def merge (r : Runner) (reports : List Report) : Report :=
  { r.reportOn [] with offenses := reports.flatMap (·.offenses) }

theorem offenses_reportOn (r : Runner) (results : List ValidatorResult) :
    (r.reportOn results).offenses = results.flatMap (·.offenses) := by
  unfold reportOn
  simp only
  split <;> rfl

theorem merge_map_reportOn (r : Runner) (results : List ValidatorResult) :
    r.merge (results.map fun result => r.reportOn [result]) = r.reportOn results := by
  unfold merge
  rw [List.flatMap_map]
  simp only [offenses_reportOn, List.flatMap_singleton]
  unfold reportOn
  simp only
  split <;> rfl

theorem activeValidators_alone {v : Validator} (hv : v ∈ r.activeValidators) :
    (r.alone v).activeValidators = [v] := by
  obtain ⟨hm, ha⟩ := List.mem_filter.1 hv
  unfold isActive at ha
  rw [Bool.and_eq_true] at ha
  refine r.validators.filter_eq_singleton hm ?_ ?_
  · simp [isActive, isSelected, alone, ha.1]
  · intro u hu
    simp only [isActive, isSelected, alone, Option.all_some, Bool.and_eq_true] at hu
    simpa using hu.2

theorem run_alone_outcome (hspawn : ∀ c st, (spawn c st).execution = result c) {v : Validator}
    (hv : v ∈ r.activeValidators) (st : σ) :
    ((r.alone v).run spawn {} st).outcome =
      (r.verdict result v).map fun result => r.reportOn [result] := by
  have hverdict : (r.alone v).verdict (Session.answer spawn ⟨{}, st, {}⟩) v =
      r.verdict result v :=
    r.verdict_congr fun c _ => Session.answer_eq (Cache.Agrees.empty result [c]) hspawn (by simp)
  rw [run_outcome, activeValidators_alone hv]
  unfold results
  rw [hverdict]
  cases r.verdict result v <;> rfl

theorem runEach_eq (hspawn : ∀ c st, (spawn c st).execution = result c) :
    ∀ (vs : List Validator) (st : σ), (∀ v ∈ vs, v ∈ r.activeValidators) →
      r.runEach spawn st vs =
        (vs.mapM (r.verdict result)).map (List.map fun result => r.reportOn [result])
  | [], _, _ => rfl
  | v :: vs, st, h => by
    unfold runEach
    simp only
    rw [run_alone_outcome hspawn (h v List.mem_cons_self),
      runEach_eq hspawn vs _ fun u hu => h u (List.mem_cons_of_mem v hu), List.mapM_cons]
    cases r.verdict result v with
    | error e => rfl
    | ok result' => cases vs.mapM (r.verdict result) <;> rfl

/-! ## What a validator contributes -/

/-- The offenses that the validator of a name contributes to a run, if the run gives a report. -/
def contribution? (r : Runner) (spawn : Spawner σ) (cache : Cache) (st : σ) (name : String) :
    Option (List Offense) :=
  match (r.runValidators spawn r.validators.validators ⟨cache, st, {}⟩).outcome with
  | .error _ => none
  | .ok results =>
    Assoc.get? name ((r.activeValidators.map (·.name)).zip (results.map (·.offenses)))

theorem get?_zip_of_map_eq {f : Validator → Except EngineError ValidatorResult} :
    ∀ {vs : List Validator} {results : List ValidatorResult},
      vs.map f = results.map .ok → (vs.map (·.name)).Nodup →
      ∀ v ∈ vs, ∃ result, f v = .ok result ∧
        Assoc.get? v.name ((vs.map (·.name)).zip (results.map (·.offenses))) =
          some result.offenses
  | [], _, _, _, v, hv => by cases hv
  | u :: vs, [], h, _, _, _ => by cases h
  | u :: vs, result :: results, h, hnodup, v, hv => by
    simp only [List.map_cons, List.nodup_cons] at hnodup
    simp only [List.map_cons, List.zip_cons_cons, Assoc.get?_cons]
    rcases List.mem_cons.1 hv with rfl | hv
    · exact ⟨result, List.head_eq_of_cons_eq h, by rw [if_pos rfl]⟩
    · have hne : u.name ≠ v.name := fun e =>
        hnodup.1 (by rw [e]; exact List.mem_map_of_mem hv)
      rw [if_neg hne]
      exact get?_zip_of_map_eq (List.tail_eq_of_cons_eq h) hnodup.2 v hv

theorem nodup_names_activeValidators (r : Runner) :
    (r.activeValidators.map (·.name)).Nodup :=
  r.validators.nodup_names.sublist (List.filter_sublist.map _)

/-- A contribution is what the validator gives by itself, once all validators give something. -/
theorem contribution?_eq {cache : Cache} {st : σ} {v : Validator} {os : List Offense}
    (hresults : r.results spawn ⟨cache, st, {}⟩ r.activeValidators =
      r.activeValidators.mapM (r.verdict result)) (hv : v ∈ r.activeValidators) :
    r.contribution? spawn cache st v.name = some os ↔
      (∃ rs, r.activeValidators.mapM (r.verdict result) = .ok rs) ∧
        (r.verdict result v).map (·.offenses) = .ok os := by
  unfold contribution?
  rw [(r.runValidators_eq spawn r.validators.validators ⟨cache, st, {}⟩).1]
  change (match r.results spawn ⟨cache, st, {}⟩ r.activeValidators with
    | .error _ => none
    | .ok results =>
      Assoc.get? v.name ((r.activeValidators.map (·.name)).zip (results.map (·.offenses)))) =
    some os ↔ _
  rw [hresults]
  cases hm : r.activeValidators.mapM (r.verdict result) with
  | error e =>
    refine ⟨fun h => (by cases h), ?_⟩
    rintro ⟨⟨rs, hrs⟩, _⟩
    cases hrs
  | ok rs =>
    obtain ⟨result', hok, hget⟩ :=
      get?_zip_of_map_eq (mapM_eq_ok_iff.1 hm) r.nodup_names_activeValidators v hv
    simp only [hget, hok]
    constructor
    · intro h
      cases h
      exact ⟨⟨rs, rfl⟩, rfl⟩
    · rintro ⟨_, h⟩
      cases h
      rfl

/-- A runner that leaves out some of the active validators of another, be it that they are not
registered, that they are switched off, or that they are not among the names to run. -/
structure Narrows (r r' : Runner) : Prop where
  files : r'.files = r.files
  registry : r'.registry = r.registry
  config : r.config.SameButSwitches r'.config
  active : ∀ v ∈ r'.activeValidators, v ∈ r.activeValidators

/-- Under both configurations the queries of a validator give the same replies.  They get to see the
whole configuration, and with it which other validators are switched on. -/
def RepliesAlike (r r' : Runner) (v : Validator) : Prop :=
  v.strategy = .inProcess → ∀ o ∈ Inquiry.eligible r.registry r.config r.files v, ∀ c,
    v.query o ⟨r'.config, v.name⟩ c = v.query o ⟨r.config, v.name⟩ c

namespace Narrows

variable {r' : Runner} {v : Validator}

theorem commandOf (h : r.Narrows r') : r'.commandOf v = r.commandOf v := by
  unfold Runner.commandOf
  rw [h.files, h.config.toolOptionsFor]

theorem command? (h : r.Narrows r') : r'.command? v = r.command? v := by
  unfold Runner.command?
  rw [h.commandOf]

theorem eligible (h : r.Narrows r') :
    Inquiry.eligible r'.registry r'.config r'.files v =
      Inquiry.eligible r.registry r.config r.files v := by
  unfold Inquiry.eligible
  rw [h.files, h.registry, h.config.objectsOf]

theorem produce (h : r.Narrows r') (hv : r.RepliesAlike r' v) (answer : Command → Execution) :
    r'.produce answer v = r.produce answer v := by
  unfold Runner.produce
  cases hs : v.strategy with
  | shell =>
    simp only
    rw [h.commandOf]
  | inProcess =>
    have hquery := hv hs
    unfold Inquiry.firstFatal? Inquiry.repliesOf Inquiry.written
    simp only
    rw [h.eligible, Inquiry.replies_congr hquery, Inquiry.collected_congr hquery]

theorem verdict (h : r.Narrows r') (hv : r.RepliesAlike r' v) (answer : Command → Execution) :
    r'.verdict answer v = r.verdict answer v := by
  unfold Runner.verdict ValidatorResult.ofRecords
  simp only [Option.bind_some]
  rw [h.produce hv, h.config.severity?]

end Narrows

/-! ## Whole runs -/

theorem mem_of_mem_reached : ∀ {vs : List Validator} {s : Session σ} {v : Validator},
    v ∈ r.reached spawn s vs → v ∈ vs
  | u :: vs, s, v, h => by
    unfold reached at h
    split at h
    · simp only [List.mem_singleton] at h
      rw [h]
      exact List.mem_cons_self
    · rcases List.mem_cons.1 h with rfl | h
      · exact List.mem_cons_self
      · exact List.mem_cons_of_mem u (mem_of_mem_reached h)

theorem reached_eq_self : ∀ {vs : List Validator} {s : Session σ},
    (∃ rs, r.results spawn s vs = .ok rs) → r.reached spawn s vs = vs
  | [], _, _ => rfl
  | v :: vs, s, ⟨rs, h⟩ => by
    unfold reached
    rw [runValidator_outcome]
    unfold results at h
    cases hv : r.verdict (s.answer spawn) v with
    | error e => rw [hv] at h; cases h
    | ok result =>
      rw [hv] at h
      simp only [Except.bind] at h
      cases ht : r.results spawn (r.executeValidator spawn v s).session vs with
      | error e => rw [ht] at h; cases h
      | ok ts => rw [reached_eq_self ⟨ts, ht⟩]

theorem results_eq (hspawn : ∀ c st, (spawn c st).execution = result c) {st : σ}
    (hsep : Cache.FingerprintsSeparate (r.builtCommands spawn {} st)) :
    r.results spawn ⟨{}, st, {}⟩ r.activeValidators =
      r.activeValidators.mapM (r.verdict result) :=
  results_eq_mapM hspawn r.activeValidators ⟨{}, st, {}⟩ hsep (Cache.Agrees.empty result _)

/-- Commands of a run that leaves out validators are among those of the whole run. -/
theorem Narrows.separate {r' : Runner} (h : r.Narrows r') {st st' : σ}
    (hok : ∃ rs, r.results spawn ⟨{}, st, {}⟩ r.activeValidators = .ok rs)
    (hsep : Cache.FingerprintsSeparate (r.builtCommands spawn {} st)) :
    Cache.FingerprintsSeparate (r'.builtCommands spawn {} st') := by
  have hsub : ∀ c ∈ r'.builtCommands spawn {} st', c ∈ r.builtCommands spawn {} st := by
    intro c hc
    obtain ⟨v, hv, hcv⟩ := List.mem_filterMap.1 hc
    rw [h.command?] at hcv
    unfold builtCommands
    rw [reached_eq_self hok]
    exact List.mem_filterMap.2 ⟨v, h.active v (mem_of_mem_reached hv), hcv⟩
  exact fun c hc d hd => hsep c (hsub c hc) d (hsub d hd)

/-- Where a validator contributes to a run, all validators have a result, and a run that leaves out
some of them is a `mapM` too. -/
theorem Narrows.of_contribution? {r' : Runner} (h : r.Narrows r')
    (hspawn : ∀ c st, (spawn c st).execution = result c) {st st' : σ}
    (hsep : Cache.FingerprintsSeparate (r.builtCommands spawn {} st)) {v : Validator}
    (hv : v ∈ r'.activeValidators) {os : List Offense}
    (hos : r.contribution? spawn {} st v.name = some os) :
    (∃ rs, r.activeValidators.mapM (r.verdict result) = .ok rs) ∧
      (r.verdict result v).map (·.offenses) = .ok os ∧
      r'.results spawn ⟨{}, st', {}⟩ r'.activeValidators =
        r'.activeValidators.mapM (r'.verdict result) := by
  have hr := results_eq hspawn hsep
  obtain ⟨⟨rs, hrs⟩, hvos⟩ := (contribution?_eq hr (h.active v hv)).1 hos
  exact ⟨⟨rs, hrs⟩, hvos, results_eq hspawn (h.separate ⟨rs, hr.trans hrs⟩ hsep)⟩

/-- Two runs that both give a report have the same offenses from a validator that replies alike. -/
theorem Narrows.offenses_eq {r' : Runner} (h : r.Narrows r')
    (hspawn : ∀ c st, (spawn c st).execution = result c) {st st' : σ}
    (hsep : Cache.FingerprintsSeparate (r.builtCommands spawn {} st)) {v : Validator}
    (hv : v ∈ r'.activeValidators) (halike : r.RepliesAlike r' v) {os os' : List Offense}
    (hos : r.contribution? spawn {} st v.name = some os)
    (hos' : r'.contribution? spawn {} st' v.name = some os') : os' = os := by
  obtain ⟨_, hvos, hr'⟩ := h.of_contribution? hspawn hsep hv hos
  obtain ⟨_, hvos'⟩ := (contribution?_eq hr' hv).1 hos'
  rw [h.verdict halike, hvos] at hvos'
  exact (Except.ok.inj hvos').symm

/-- Where all remaining validators reply alike, the run still gives a report. -/
theorem Narrows.contribution? {r' : Runner} (h : r.Narrows r')
    (hspawn : ∀ c st, (spawn c st).execution = result c) {st st' : σ}
    (hsep : Cache.FingerprintsSeparate (r.builtCommands spawn {} st))
    (halike : ∀ v ∈ r'.activeValidators, r.RepliesAlike r' v) {v : Validator}
    (hv : v ∈ r'.activeValidators) {os : List Offense}
    (hos : r.contribution? spawn {} st v.name = some os) :
    r'.contribution? spawn {} st' v.name = some os := by
  obtain ⟨hok, hvos, hr'⟩ := h.of_contribution? hspawn hsep hv hos
  refine (contribution?_eq hr' hv).2 ⟨?_, ?_⟩
  · rw [exists_mapM_eq_ok_iff]
    intro u hu
    rw [h.verdict (halike u hu)]
    exact exists_mapM_eq_ok_iff.1 hok u (h.active u hu)
  · rw [h.verdict (halike v hv)]
    exact hvos

theorem results_with_only (o : Option (List String)) :
    ∀ (vs : List Validator) (s : Session σ),
      ({ r with only := o } : Runner).results spawn s vs = r.results spawn s vs
  | [], _ => rfl
  | v :: vs, s => by
    unfold results
    rw [results_with_only o vs]
    rfl

theorem activeValidators_with_only {names names' : List String} (ho : r.only = some names)
    (h : ∀ n, n ∈ names' ↔ n ∈ names) :
    ({ r with only := some names' } : Runner).activeValidators = r.activeValidators := by
  unfold activeValidators
  refine List.filter_congr fun v _ => ?_
  have hc : names'.contains v.name = names.contains v.name := by
    rw [Bool.eq_iff_iff]
    simp [h]
  simp only [isActive, isSelected, ho, Option.all_some, hc]

theorem offenses_eq_flatMap_contribution {st : σ} {report : Report}
    (hspawn : ∀ c st, (spawn c st).execution = result c)
    (hsep : Cache.FingerprintsSeparate (r.builtCommands spawn {} st))
    (h : (r.run spawn {} st).outcome = .ok report) :
    report.offenses =
      r.activeValidators.flatMap fun v => (r.contribution? spawn {} st v.name).getD [] := by
  have hr := results_eq hspawn hsep
  rw [run_outcome, hr] at h
  cases hm : r.activeValidators.mapM (r.verdict result) with
  | error e => rw [hm] at h; cases h
  | ok rs =>
    rw [hm] at h
    cases h
    have hmap := mapM_eq_ok_iff.1 hm
    have hpart : ∀ v ∈ r.activeValidators, (r.contribution? spawn {} st v.name).getD [] =
        ((r.verdict result v).toOption.map (·.offenses)).getD [] := by
      intro v hv
      obtain ⟨y, hy⟩ := exists_mapM_eq_ok_iff.1 ⟨rs, hm⟩ v hv
      rw [(contribution?_eq hr hv).2 ⟨⟨rs, hm⟩, by rw [hy]; rfl⟩, hy]
      rfl
    calc (r.reportOn rs).offenses
        = rs.flatMap (·.offenses) := r.offenses_reportOn rs
      _ = (rs.map .ok).flatMap fun x : Except EngineError ValidatorResult =>
            (x.toOption.map (·.offenses)).getD [] := by rw [List.flatMap_map]; rfl
      _ = r.activeValidators.flatMap fun v =>
            ((r.verdict result v).toOption.map (·.offenses)).getD [] := by
          rw [← hmap, List.flatMap_map]
      _ = r.activeValidators.flatMap fun v =>
            (r.contribution? spawn {} st v.name).getD [] := by
          rw [List.flatMap_def, List.flatMap_def, List.map_congr_left hpart]

/-- **The validators of a run do not influence each other.**  If the spawner answers by the
    command alone and the commands built in the run have different fingerprints, then a run with
    an empty cache gives what its active validators give when each is run alone with a fresh
    cache: the first error, or else the offenses one after the other.  Hence neither order nor
    repetition of the names to run matters.  Where the run gives a report and others are left out
    under the same configuration, a validator contributes the same offenses.  Where others are
    switched off, it does so too if the remaining validators reply alike; and if only this one
    does, then its offenses are the same in any two reports. -/
theorem run_eq_runEach (r : Runner) (spawn : Spawner σ) (st : σ) (result : Command → Execution)
    (hspawn : ∀ c st, (spawn c st).execution = result c)
    (hsep : Cache.FingerprintsSeparate (r.builtCommands spawn {} st)) :
    (r.run spawn {} st).outcome = (r.runEach spawn st r.activeValidators).map r.merge ∧
    (∀ report, (r.run spawn {} st).outcome = .ok report → report.offenses =
      r.activeValidators.flatMap fun v => (r.contribution? spawn {} st v.name).getD []) ∧
    (∀ names names', r.only = some names → (∀ n, n ∈ names' ↔ n ∈ names) →
      (({ r with only := some names' } : Runner).run spawn {} st).outcome =
        (r.run spawn {} st).outcome) ∧
    ∀ r' st', r.Narrows r' →
      (r'.config = r.config → ∀ v ∈ r'.activeValidators, ∀ os,
        r.contribution? spawn {} st v.name = some os →
          r'.contribution? spawn {} st' v.name = some os) ∧
      ((∀ v ∈ r'.activeValidators, r.RepliesAlike r' v) → ∀ v ∈ r'.activeValidators, ∀ os,
        r.contribution? spawn {} st v.name = some os →
          r'.contribution? spawn {} st' v.name = some os) ∧
      (∀ v ∈ r'.activeValidators, r.RepliesAlike r' v → ∀ os os',
        r.contribution? spawn {} st v.name = some os →
          r'.contribution? spawn {} st' v.name = some os' → os' = os) := by
  refine ⟨?_, ?_, ?_, fun r' st' hn => ⟨?_, ?_, ?_⟩⟩
  · rw [run_outcome, results_eq hspawn hsep,
      runEach_eq hspawn r.activeValidators st fun v hv => hv]
    cases r.activeValidators.mapM (r.verdict result) with
    | error e => rfl
    | ok rs => exact congrArg Except.ok (r.merge_map_reportOn rs).symm
  · intro report h
    exact offenses_eq_flatMap_contribution hspawn hsep h
  · intro names names' ho h
    rw [run_outcome, run_outcome, activeValidators_with_only ho h, results_with_only]
    rfl
  · intro hconfig v hv os hos
    have halike : ∀ u ∈ r'.activeValidators, r.RepliesAlike r' u := fun u _ _ o _ c => by
      rw [hconfig]
    exact hn.contribution? hspawn hsep halike hv hos
  · intro halike v hv os hos
    exact hn.contribution? hspawn hsep halike hv hos
  · intro v hv halike os os' hos hos'
    exact hn.offenses_eq hspawn hsep hv halike hos hos'

/-- A validator that runs a fixed command and reports the whole output. -/
def echoing (name : String) : Validator where
  name := name
  strategy := .shell
  command := fun _ => .ok ⟨"yard", ["stats"]⟩
  parse := fun output => [{ message := some output }]
  kind :=
    { validatorName := name
      defaultSeverity := some .warning
      message := fun record => record.message.getD "" }

/-- A validator that reports every object, as long as the configuration is to its liking. -/
def listing (name : String) (likes : Config → Bool) : Validator where
  name := name
  strategy := .inProcess
  query := fun o s c => { collector := if likes s.config then c.puts o.path else c }
  parse := fun output => (Text.lines output).map fun l => { message := some l }
  kind :=
    { validatorName := name
      defaultSeverity := some .warning
      message := fun record => record.message.getD "" }

/-- A validator that asks objects for what they do not have. -/
def defective (name : String) : Validator where
  name := name
  strategy := .inProcess
  query := fun o _ c => { collector := c, error := some (.noSuchAccessor name "value" o.path) }
  parse := fun _ => []
  kind := { validatorName := name, message := fun _ => "" }

/-- The configuration that switches off one validator. -/
def switchedOff (name : String) : Config := { validators := [(name, { enabled := some false })] }

theorem sameButSwitches_switchedOff (name : String) :
    Config.SameButSwitches {} (switchedOff name) := by
  refine ⟨rfl, fun n => ?_⟩
  unfold Config.block Config.validator? switchedOff
  simp only [Assoc.get?_cons]
  split <;> rfl

/-- Two validators share a command, of which the second gets its result from the cache, and a third
one is asked about an object.  They give what each gives alone; and the last two report the same
when the first is switched off, as does the second when it is the only one to run. -/
theorem run_eq_runEach_of_shared_command :
    let r : Runner :=
      { validators := .ofList [echoing "First", echoing "Second", listing "Third" fun _ => true]
        registry := Registry.lookup
          ⟨[{ path := "A", kind := .classDef, file := some "a.rb", line := some 1 }]⟩ }
    let r' : Runner := { r with config := switchedOff "First" }
    let spawn : Spawner Nat := fun _ n => ⟨.success "output", [], n + 1⟩
    (r.run spawn {} 0).outcome = (r.runEach spawn 0 r.activeValidators).map r.merge ∧
      ∃ second third, second.map (·.message) = ["output"] ∧ third.map (·.message) = ["A"] ∧
        r.contribution? spawn {} 0 "Second" = some second ∧
        r.contribution? spawn {} 0 "Third" = some third ∧
        r'.contribution? spawn {} 0 "Second" = some second ∧
        r'.contribution? spawn {} 0 "Third" = some third ∧
        (r.alone (echoing "Second")).contribution? spawn {} 0 "Second" = some second := by
  intro r r' spawn
  have hspawn : ∀ c st, (spawn c st).execution = .success "output" := fun _ _ => rfl
  have hactive : r.activeValidators =
      [echoing "First", echoing "Second", listing "Third" fun _ => true] := rfl
  have hactive' : r'.activeValidators = [echoing "Second", listing "Third" fun _ => true] := rfl
  have hsecond : echoing "Second" ∈ r.activeValidators := by simp [hactive]
  have hcommand : ∀ c ∈ r.builtCommands spawn {} 0, c = ⟨"yard", ["stats"]⟩ := by
    intro c hc
    obtain ⟨v, hv, hcv⟩ := List.mem_filterMap.1 hc
    have hv := mem_of_mem_reached hv
    simp only [hactive, List.mem_cons, List.not_mem_nil, or_false] at hv
    rcases hv with rfl | rfl | rfl
    · exact (Option.some.inj hcv).symm
    · exact (Option.some.inj hcv).symm
    · cases hcv
  have hsep : Cache.FingerprintsSeparate (r.builtCommands spawn {} 0) :=
    fun c hc d hd _ => (hcommand c hc).trans (hcommand d hd).symm
  have hoff : r.Narrows r' :=
    { files := rfl
      registry := rfl
      config := sameButSwitches_switchedOff "First"
      active := fun v hv => by
        rw [hactive'] at hv
        rw [hactive]
        exact List.mem_cons_of_mem _ hv }
  have halike : ∀ v ∈ r'.activeValidators, r.RepliesAlike r' v := by
    intro v hv hs
    simp only [hactive', List.mem_cons, List.not_mem_nil, or_false] at hv
    rcases hv with rfl | rfl
    · cases hs
    · exact fun o _ c => rfl
  have halone : r.Narrows (r.alone (echoing "Second")) :=
    { files := rfl
      registry := rfl
      config := ⟨rfl, fun _ => rfl⟩
      active := fun v hv => by
        rw [activeValidators_alone hsecond, List.mem_singleton] at hv
        rw [hv]
        exact hsecond }
  have hmessages (name : String) (ms : List String)
      (h : (r.contribution? spawn {} 0 name).map (fun os => os.map (·.message)) = some ms) :
      ∃ os, os.map (·.message) = ms ∧ r.contribution? spawn {} 0 name = some os := by
    obtain ⟨os, hos, hms⟩ := Option.map_eq_some_iff.1 h
    exact ⟨os, hms, hos⟩
  obtain ⟨second, houtput, hos⟩ := hmessages "Second" ["output"] (by decide +kernel)
  obtain ⟨third, hpath, hos'⟩ := hmessages "Third" ["A"] (by decide +kernel)
  obtain ⟨heach, _, _, hothers⟩ :=
    run_eq_runEach r spawn 0 (fun _ => .success "output") hspawn hsep
  obtain ⟨_, hswitched, _⟩ := hothers r' 0 hoff
  obtain ⟨hleft, _, _⟩ := hothers (r.alone (echoing "Second")) 0 halone
  refine ⟨heach, second, third, houtput, hpath, hos, hos', ?_, ?_, ?_⟩
  · exact hswitched halike (echoing "Second") (by simp [hactive']) second hos
  · exact hswitched halike (listing "Third" fun _ => true) (by simp [hactive']) third hos'
  · exact hleft rfl (echoing "Second")
      (by rw [activeValidators_alone hsecond]; exact List.mem_singleton_self _) second hos

/-- **Switching off another validator may change what a validator contributes.**  A query that looks
    at the switches reports an object while another validator is on and nothing while it is off;
    and in a run that a defective validator ends no other one contributes anything.  No command is
    built in any of the runs. -/
theorem contribution_depends_on_switches :
    let registry : Lookup := Registry.lookup
      ⟨[{ path := "A", kind := .classDef, file := some "a.rb", line := some 1 }]⟩
    let spawn : Spawner Unit := fun _ _ => ⟨.success "", [], ()⟩
    let messages (r : Runner) (name : String) : Option (List String) :=
      (r.contribution? spawn {} () name).map fun os => os.map (·.message)
    let watched : Runner :=
      { validators := .ofList [listing "Watching" (·.isEnabled "Other"),
          listing "Other" fun _ => true]
        registry }
    let broken : Runner :=
      { validators := .ofList [defective "Broken", listing "Sound" fun _ => true]
        registry }
    (∀ c st, (spawn c st).execution = .success "") ∧
      (watched.builtCommands spawn {} () = [] ∧
        watched.Narrows { watched with config := switchedOff "Other" } ∧
        messages watched "Watching" = some ["A"] ∧
        messages { watched with config := switchedOff "Other" } "Watching" = some []) ∧
      (broken.builtCommands spawn {} () = [] ∧
        broken.Narrows { broken with config := switchedOff "Broken" } ∧
        messages broken "Sound" = none ∧
        messages { broken with config := switchedOff "Broken" } "Sound" = some ["A"]) := by
  intro registry spawn messages watched broken
  have hnarrows : ∀ (vs : List Validator) (name : String),
      ({ validators := .ofList vs, registry } : Runner).Narrows
        { validators := .ofList vs, registry, config := switchedOff name } := by
    intro vs name
    refine ⟨rfl, rfl, sameButSwitches_switchedOff name, fun v hv => ?_⟩
    obtain ⟨hmem, _⟩ := List.mem_filter.1 hv
    exact List.mem_filter.2 ⟨hmem, rfl⟩
  refine ⟨fun _ _ => rfl, ⟨?_, hnarrows _ _, ?_, ?_⟩, ?_, hnarrows _ _, ?_, ?_⟩
  all_goals decide

end Runner

end DocAudit

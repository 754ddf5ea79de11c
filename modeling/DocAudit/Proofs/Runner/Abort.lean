import DocAudit.Proofs.Runner.Course

/-!
# What ends a run

A run ends early for a defect of a validator and for nothing else: a command builder or a query
that fails fatally, or a record without a severity (`Defect`).  It ends at the first defective
validator, with the error of its defect, and no later validator is executed
(`run_aborts_at_first_defect`).  How commands end plays no part in it.
-/

namespace DocAudit.Runner

variable {σ : Type}

/-- Why a run that has come to the session `s` ends with the validator `v`, and with which error. -/
inductive Defect (r : Runner) (spawn : Spawner σ) (s : Session σ) (v : Validator) :
    EngineError → Prop where
  /-- The command of a shell validator cannot be built. -/
  | command {e : QueryError} :
      v.strategy = .shell → r.commandOf v = .error e → e.isFatal = true →
      Defect r spawn s v (.query v.name e)
  /-- The query of an in-process validator fails fatally, about the object `o` first. -/
  | query {before rest : List (CodeObject × Reply)} {o : CodeObject} {reply : Reply}
      {e : QueryError} :
      v.strategy = .inProcess →
      Inquiry.repliesOf r.registry r.config r.files v = before ++ (o, reply) :: rest →
      (∀ p ∈ before, ∀ e', p.2.error = some e' → e'.isFatal = false) →
      reply.error = some e → e.isFatal = true →
      Defect r spawn s v (.query v.name e)
  /-- A record in the output has no severity from any source. -/
  | severity {x : Execution} {record : Record} :
      (r.executeValidator spawn v s).outcome = .ok x → record ∈ v.parse x.stdout →
      r.config.severity? v.kind.validatorName = none → v.kind.recordSeverity record = none →
      v.kind.defaultSeverity = none →
      Defect r spawn s v (.missingSeverity v.kind.validatorName)

theorem Defect.verdict_eq {r : Runner} {spawn : Spawner σ} {s : Session σ} {v : Validator}
    {e : EngineError} (h : r.Defect spawn s v e) : r.verdict (s.answer spawn) v = .error e := by
  unfold verdict
  cases h with
  | command hs hc hf => simp [produce, hs, hc, hf, Except.bind]
  | query hs hsplit hbefore ho hf =>
    have hff := Inquiry.firstFatal?_eq_some_iff.2 ⟨_, _, _, _, hsplit, hbefore, ho, hf⟩
    simp [produce, hs, hff, Except.bind]
  | severity hx hr h₁ h₂ h₃ =>
    rw [executeValidator_outcome] at hx
    rw [hx]
    exact ValidatorResult.ofRecords_eq_error_iff.2
      ⟨⟨_, hr, ResultKind.severity?_eq_none_iff.2 ⟨h₁, h₂, h₃⟩⟩, rfl⟩

theorem defect_of_produce_eq {r : Runner} {spawn : Spawner σ} {s : Session σ} {v : Validator}
    {e : EngineError} (h : r.produce (s.answer spawn) v = .error e) : r.Defect spawn s v e := by
  unfold produce at h
  cases hs : v.strategy with
  | shell =>
    simp only [hs] at h
    cases hc : r.commandOf v with
    | ok c => rw [hc] at h; cases h
    | error q =>
      simp only [hc] at h
      split at h
      · rename_i hf
        cases h
        exact .command hs hc hf
      · cases h
  | inProcess =>
    simp only [hs] at h
    cases hff : Inquiry.firstFatal? r.registry r.config r.files v with
    | none => rw [hff] at h; cases h
    | some q =>
      rw [hff] at h
      cases h
      obtain ⟨before, o, reply, rest, hsplit, hbefore, ho, hf⟩ :=
        Inquiry.firstFatal?_eq_some_iff.1 hff
      exact .query hs hsplit hbefore ho hf

/-- **A validator fails exactly if it is defective.** -/
theorem verdict_eq_error_iff {r : Runner} {spawn : Spawner σ} {s : Session σ} {v : Validator}
    {e : EngineError} : r.verdict (s.answer spawn) v = .error e ↔ r.Defect spawn s v e := by
  refine ⟨fun h => ?_, Defect.verdict_eq⟩
  unfold verdict at h
  cases hp : r.produce (s.answer spawn) v with
  | error e' =>
    rw [hp] at h
    cases h
    exact defect_of_produce_eq hp
  | ok x =>
    rw [hp] at h
    obtain ⟨⟨record, hr, hsev⟩, rfl⟩ := ValidatorResult.ofRecords_eq_error_iff.1 h
    obtain ⟨h₁, h₂, h₃⟩ := ResultKind.severity?_eq_none_iff.1 hsev
    rw [← executeValidator_outcome] at hp
    exact .severity hp hr h₁ h₂ h₃

/-- None of the validators is defective when its turn comes. -/
def Healthy (r : Runner) (spawn : Spawner σ) (s : Session σ) (vs : List Validator) : Prop :=
  ∀ before v rest, vs = before ++ v :: rest →
    ∀ e, ¬ r.Defect spawn (r.after spawn s before) v e

theorem healthy_nil (r : Runner) (spawn : Spawner σ) (s : Session σ) : r.Healthy spawn s [] := by
  intro before v rest h
  simp at h

theorem healthy_cons_iff {r : Runner} {spawn : Spawner σ} {s : Session σ} {v : Validator}
    {vs : List Validator} :
    r.Healthy spawn s (v :: vs) ↔
      (∀ e, ¬ r.Defect spawn s v e) ∧
        r.Healthy spawn (r.executeValidator spawn v s).session vs := by
  constructor
  · intro h
    refine ⟨h [] v vs rfl, ?_⟩
    rintro before u rest rfl
    exact h (v :: before) u rest rfl
  · rintro ⟨hv, hvs⟩ before u rest hsplit
    cases before with
    | nil =>
      cases hsplit
      exact hv
    | cons w before =>
      cases hsplit
      exact hvs before u rest rfl

/-- The verdict on the first of some validators decides whether the others are looked at. -/
theorem results_cons_of_ok {r : Runner} {spawn : Spawner σ} {s : Session σ} {v : Validator}
    {vs : List Validator} {result : ValidatorResult}
    (h : r.verdict (s.answer spawn) v = .ok result) :
    r.results spawn s (v :: vs) =
      (r.results spawn (r.executeValidator spawn v s).session vs).map (result :: ·) := by
  rw [results, h]
  rfl

theorem not_defect_of_ok {r : Runner} {spawn : Spawner σ} {s : Session σ} {v : Validator}
    {result : ValidatorResult} (h : r.verdict (s.answer spawn) v = .ok result) (e : EngineError) :
    ¬ r.Defect spawn s v e := by
  intro hd
  rw [hd.verdict_eq] at h
  cases h

theorem results_eq_ok_iff {r : Runner} {spawn : Spawner σ} :
    ∀ {vs : List Validator} {s : Session σ},
      (∃ rs, r.results spawn s vs = .ok rs) ↔ r.Healthy spawn s vs
  | [], s => ⟨fun _ => r.healthy_nil spawn s, fun _ => ⟨[], rfl⟩⟩
  | v :: vs, s => by
    rw [healthy_cons_iff]
    cases hv : r.verdict (s.answer spawn) v with
    | error e =>
      constructor
      · rintro ⟨rs, h⟩
        simp [results, hv, Except.bind] at h
      · rintro ⟨h, _⟩
        exact absurd (verdict_eq_error_iff.1 hv) (h e)
    | ok result =>
      rw [results_cons_of_ok hv, ← @results_eq_ok_iff _ _ vs]
      constructor
      · rintro ⟨rs, h⟩
        refine ⟨not_defect_of_ok hv, ?_⟩
        cases ht : r.results spawn (r.executeValidator spawn v s).session vs with
        | error e => rw [ht] at h; cases h
        | ok ts => exact ⟨ts, rfl⟩
      · rintro ⟨_, ts, ht⟩
        exact ⟨result :: ts, by rw [ht]; rfl⟩

/-- Up to its first defective validator a run gets, and no further. -/
theorem reached_of_defect {r : Runner} {spawn : Spawner σ} {v : Validator} {e : EngineError}
    (rest : List Validator) :
    ∀ {before : List Validator} {s : Session σ}, r.Healthy spawn s before →
      r.Defect spawn (r.after spawn s before) v e →
      r.results spawn s (before ++ v :: rest) = .error e ∧
        r.reached spawn s (before ++ v :: rest) = before ++ [v]
  | [], s, _, hd => by
    have hv : r.verdict (s.answer spawn) v = .error e := hd.verdict_eq
    simp only [List.nil_append]
    unfold results reached
    rw [runValidator_outcome, hv]
    exact ⟨rfl, rfl⟩
  | u :: before, s, hh, hd => by
    obtain ⟨hu, hb⟩ := healthy_cons_iff.1 hh
    obtain ⟨ho, hr⟩ := reached_of_defect rest hb hd
    cases hv : r.verdict (s.answer spawn) u with
    | error e' => exact absurd (verdict_eq_error_iff.1 hv) (hu e')
    | ok result =>
      rw [List.cons_append, results_cons_of_ok hv, ho]
      refine ⟨rfl, ?_⟩
      unfold reached
      rw [runValidator_outcome, hv, hr]
      rfl

theorem results_eq_error_iff {r : Runner} {spawn : Spawner σ} {s : Session σ}
    {vs : List Validator} {e : EngineError} :
    r.results spawn s vs = .error e ↔
      ∃ before v rest, vs = before ++ v :: rest ∧ r.Healthy spawn s before ∧
        r.Defect spawn (r.after spawn s before) v e := by
  constructor
  · intro h
    induction vs generalizing s with
    | nil => cases h
    | cons v vs ih =>
      cases hv : r.verdict (s.answer spawn) v with
      | error e' =>
        simp only [results, hv, Except.bind, Except.error.injEq] at h
        subst h
        exact ⟨[], v, vs, rfl, r.healthy_nil spawn s, verdict_eq_error_iff.1 hv⟩
      | ok result =>
        rw [results_cons_of_ok hv] at h
        cases ht : r.results spawn (r.executeValidator spawn v s).session vs with
        | ok ts => rw [ht] at h; cases h
        | error e' =>
          rw [ht] at h
          cases h
          obtain ⟨before, u, rest, rfl, hh, hd⟩ := ih ht
          exact ⟨v :: before, u, rest, rfl, healthy_cons_iff.2 ⟨not_defect_of_ok hv, hh⟩, hd⟩
  · rintro ⟨before, v, rest, rfl, hh, hd⟩
    exact (reached_of_defect rest hh hd).1

/-! ## Spawned commands -/

/-- The state of a spawner that has been asked for some commands. -/
def spawnedState (spawn : Spawner σ) (st : σ) (cs : List Command) : σ :=
  cs.foldl (fun st c => (spawn c st).state) st

/-- A validator has nothing spawned but its own command. -/
theorem executeValidator_spawner (r : Runner) (spawn : Spawner σ) (v : Validator)
    (s : Session σ) :
    ∃ cs, cs.Sublist (r.command? v).toList ∧
      (r.executeValidator spawn v s).session.spawner = spawnedState spawn s.spawner cs := by
  cases hc : r.command? v with
  | none => exact ⟨[], List.Sublist.refl _, (executeValidator_of_command?_none hc spawn s).2⟩
  | some c =>
    rw [(executeValidator_of_command?_some hc spawn s).2]
    cases hg : s.cache.get? c.fingerprint with
    | some x => exact ⟨[], List.nil_sublist _, by rw [Cache.execute_of_hit hg]; rfl⟩
    | none => exact ⟨[c], List.Sublist.refl _, by rw [Cache.execute_of_miss hg]; rfl⟩

theorem after_spawner (r : Runner) (spawn : Spawner σ) :
    ∀ (vs : List Validator) (s : Session σ),
      ∃ cs, cs.Sublist (r.commands vs) ∧
        (r.after spawn s vs).spawner = spawnedState spawn s.spawner cs
  | [], s => ⟨[], List.Sublist.refl _, rfl⟩
  | v :: vs, s => by
    obtain ⟨cs, hcs, hs⟩ := executeValidator_spawner r spawn v s
    obtain ⟨ds, hds, ht⟩ := after_spawner r spawn vs (r.executeValidator spawn v s).session
    refine ⟨cs ++ ds, ?_, ?_⟩
    · rw [commands_cons]
      exact hcs.append hds
    · unfold spawnedState at *
      rw [List.foldl_append, ← hs, ← ht]
      rfl

/-! ## Whole runs -/

/-- A validator that reports no fatal error, neither on its command nor on an object. -/
def NeverFatal (r : Runner) (v : Validator) : Prop :=
  match v.strategy with
  | .shell => ∀ e, r.commandOf v = .error e → e.isFatal = false
  | .inProcess => ∀ p ∈ Inquiry.repliesOf r.registry r.config r.files v,
      ∀ e, p.2.error = some e → e.isFatal = false

theorem neverFatal_of_query {r : Runner} {v : Validator} (hs : v.strategy = .inProcess)
    (h : ∀ o c e, (v.query o ⟨r.config, v.name⟩ c).error = some e → e.isFatal = false) :
    r.NeverFatal v := by
  unfold NeverFatal
  simp only [hs]
  intro p hp e he
  obtain ⟨_, c, hreply⟩ := Inquiry.of_mem_replies hp
  rw [hreply] at he
  exact h p.1 c e he

/-- What is left to go wrong is a record without a severity. -/
theorem NeverFatal.record_of_defect {r : Runner} {v : Validator} (h : r.NeverFatal v)
    {spawn : Spawner σ} {s : Session σ} {e : EngineError} (hd : r.Defect spawn s v e) :
    (∃ x : Execution, v.parse x.stdout ≠ []) ∧ v.kind.defaultSeverity = none := by
  unfold NeverFatal at h
  cases hd with
  | command hs hc hf =>
    simp only [hs] at h
    rw [h _ hc] at hf
    cases hf
  | @query before rest o reply e hs hsplit _ ho hf =>
    simp only [hs] at h
    have hmem : (o, reply) ∈ Inquiry.repliesOf r.registry r.config r.files v := by
      rw [hsplit]
      simp
    rw [h (o, reply) hmem e ho] at hf
    cases hf
  | @severity x record _ hr _ _ hn => exact ⟨⟨x, List.ne_nil_of_mem hr⟩, hn⟩

theorem NeverFatal.not_defect {r : Runner} {v : Validator} (h : r.NeverFatal v)
    (hsev : v.kind.defaultSeverity ≠ none) (spawn : Spawner σ) (s : Session σ) (e : EngineError) :
    ¬ r.Defect spawn s v e :=
  fun hd => hsev (h.record_of_defect hd).2

/-- **A run ends at its first defective validator, and only there.**  The error is that of the
    defect.  The session is left as it is after that validator, so that nothing of a later one
    has been executed; in particular the spawner has been asked for commands of the validators
    up to there only.  Where no validator can fail fatally and each has a default severity, the
    run gives a report whatever the commands do. -/
theorem run_aborts_at_first_defect (r : Runner) (spawn : Spawner σ) (cache : Cache) (st : σ) :
    (∀ e, (r.run spawn cache st).outcome = .error e ↔
      ∃ before v rest, r.activeValidators = before ++ v :: rest ∧
        r.Healthy spawn ⟨cache, st, {}⟩ before ∧
        r.Defect spawn (r.after spawn ⟨cache, st, {}⟩ before) v e) ∧
    (∀ before v rest e, r.activeValidators = before ++ v :: rest →
      r.Healthy spawn ⟨cache, st, {}⟩ before →
      r.Defect spawn (r.after spawn ⟨cache, st, {}⟩ before) v e →
        (r.run spawn cache st).session = r.after spawn ⟨cache, st, {}⟩ (before ++ [v]) ∧
        ∃ cs, cs.Sublist (r.commands (before ++ [v])) ∧
          (r.run spawn cache st).session.spawner = spawnedState spawn st cs) ∧
    ((∀ v ∈ r.activeValidators, r.NeverFatal v ∧ v.kind.defaultSeverity ≠ none) →
      ∃ report, (r.run spawn cache st).outcome = .ok report) := by
  refine ⟨fun e => ?_, ?_, fun h => ?_⟩
  · rw [← results_eq_error_iff, run_outcome]
    cases r.results spawn ⟨cache, st, {}⟩ r.activeValidators with
    | error e' =>
      exact ⟨fun h => congrArg _ (Except.error.inj h), fun h => congrArg _ (Except.error.inj h)⟩
    | ok rs => exact ⟨fun h => (by cases h), fun h => (by cases h)⟩
  · intro before v rest e hsplit hh hd
    have hsession : (r.run spawn cache st).session =
        r.after spawn ⟨cache, st, {}⟩ (before ++ [v]) := by
      rw [run_session, hsplit, (reached_of_defect rest hh hd).2]
    refine ⟨hsession, ?_⟩
    rw [hsession]
    exact r.after_spawner spawn (before ++ [v]) ⟨cache, st, {}⟩
  · have hh : r.Healthy spawn ⟨cache, st, {}⟩ r.activeValidators := by
      intro before v rest hsplit e
      obtain ⟨hf, hsev⟩ := h v (by rw [hsplit]; simp)
      exact hf.not_defect hsev spawn _ e
    obtain ⟨rs, hrs⟩ := results_eq_ok_iff.2 hh
    exact ⟨r.reportOn rs, by rw [run_outcome, hrs]; rfl⟩

/-- A validator that cannot answer about any object. -/
def skipping : Validator where
  name := "Skipping"
  strategy := .inProcess
  query := fun _ _ => { lines := ["lost"], error := some (.runtime "no answer") : Answer }.write
  parse := fun _ => []
  kind := { validatorName := "Skipping", message := fun _ => "" }

/-- A validator that lacks a command. -/
def commandless : Validator where
  name := "Commandless"
  strategy := .shell
  parse := fun _ => []
  kind := { validatorName := "Commandless", message := fun _ => "" }

/-- A validator with a command. -/
def commanding : Validator :=
  { commandless with name := "Commanding", command := fun _ => .ok ⟨"yard", ["stats"]⟩ }

/-- A validator that finds something, whatever its command says, and does not say how bad it is. -/
def unrated : Validator where
  name := "Unrated"
  strategy := .shell
  command := fun _ => .ok ⟨"yard", ["doc"]⟩
  parse := fun _ => [{ message := some "found" }]
  kind := { validatorName := "Unrated", message := fun _ => "" }

/-- Object by object the first validator fails, but it is a later one that ends the run: one that
lacks a command, or one whose record has no severity, after its own command and the one before it
have been spawned. -/
theorem run_aborts_at_commandless_or_unrated :
    let registry : Lookup := Registry.lookup
      ⟨[{ path := "A", kind := .classDef, file := some "a.rb", line := some 1 }]⟩
    let recorder : Spawner (List Command) := fun c calls => ⟨.success "", [], calls ++ [c]⟩
    let r : Runner := { validators := .ofList [skipping, commandless, commanding], registry }
    let r' : Runner :=
      { validators := .ofList [skipping, commanding, unrated, commandless], registry }
    ((r.run recorder {} []).outcome =
        .error (.query "Commandless" (.unimplemented "Commandless" "command")) ∧
      ∃ cs, cs.Sublist (r.commands [skipping, commandless]) ∧
        (r.run recorder {} []).session.spawner = spawnedState recorder [] cs) ∧
    (r'.run recorder {} []).outcome = .error (.missingSeverity "Unrated") ∧
      (r'.run recorder {} []).session.spawner = [⟨"yard", ["stats"]⟩, ⟨"yard", ["doc"]⟩] := by
  intro registry recorder r r'
  have hskipping : ∀ (r : Runner) (s : Session (List Command)) (e : EngineError),
      ¬r.Defect recorder s skipping e := by
    intro r s e hd
    have hnever : r.NeverFatal skipping := neverFatal_of_query rfl fun o c e he => by
      cases he
      rfl
    obtain ⟨x, hx⟩ := (hnever.record_of_defect hd).1
    exact hx rfl
  have hcommanding : ∀ (s : Session (List Command)) (e : EngineError),
      ¬r'.Defect recorder s commanding e := by
    intro s e hd
    have hnever : r'.NeverFatal commanding := fun e he => by cases he
    obtain ⟨x, hx⟩ := (hnever.record_of_defect hd).1
    exact hx rfl
  constructor
  · have hactive : r.activeValidators = [skipping] ++ commandless :: [commanding] := rfl
    have hhealthy : r.Healthy recorder ⟨{}, [], {}⟩ [skipping] :=
      healthy_cons_iff.2 ⟨hskipping r _, r.healthy_nil recorder _⟩
    have hdefect : r.Defect recorder (r.after recorder ⟨{}, [], {}⟩ [skipping]) commandless
        (.query "Commandless" (.unimplemented "Commandless" "command")) := .command rfl rfl rfl
    obtain ⟨herror, hsession, _⟩ := run_aborts_at_first_defect r recorder {} []
    exact ⟨(herror _).2 ⟨_, _, _, hactive, hhealthy, hdefect⟩,
      (hsession _ _ _ _ hactive hhealthy hdefect).2⟩
  · have hactive : r'.activeValidators = [skipping, commanding] ++ unrated :: [commandless] := rfl
    have hhealthy : r'.Healthy recorder ⟨{}, [], {}⟩ [skipping, commanding] :=
      healthy_cons_iff.2 ⟨hskipping r' _, healthy_cons_iff.2
        ⟨hcommanding _, r'.healthy_nil recorder _⟩⟩
    have hdefect : r'.Defect recorder (r'.after recorder ⟨{}, [], {}⟩ [skipping, commanding])
        unrated (.missingSeverity "Unrated") :=
      .severity rfl (List.mem_singleton_self _) rfl rfl rfl
    obtain ⟨herror, hsession, _⟩ := run_aborts_at_first_defect r' recorder {} []
    refine ⟨(herror _).2 ⟨_, _, _, hactive, hhealthy, hdefect⟩, ?_⟩
    rw [(hsession _ _ _ _ hactive hhealthy hdefect).1]
    decide +kernel

end DocAudit.Runner

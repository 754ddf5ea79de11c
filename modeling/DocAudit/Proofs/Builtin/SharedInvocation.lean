import DocAudit.Builtin.Preset
import DocAudit.Proofs.Builtin.Undocumented
import DocAudit.Proofs.Command.HashInput
import DocAudit.Proofs.Runner.Abort
import DocAudit.Proofs.Runner.Repeat

/-!
# When two validators share an invocation of the documentation tool

The two validators for warnings of the documentation tool build the same command, but for the tool
options that apply to each.  Options and files are arguments one after the other, with nothing
between them; still the command tells the options, since the files behind them are the same
(`invocation_inj`).  So a run with an empty cache spawns the tool once if the options are the same
for both, and twice if they are not (`spawns_follow_options`), unless digests collide.
-/

namespace DocAudit

/-! ## Tool options -/

/-- The tool options that apply to a validator: its own, be they empty, else the global ones, else
none. -/
inductive Config.OptionsApply (c : Config) (name : String) : List String → Prop where
  | own {block : ValidatorConfig} {options : List String} :
      c.validator? name = some block → block.toolOptions = some options →
      OptionsApply c name options
  | shared {options : List String} :
      (∀ block, c.validator? name = some block → block.toolOptions = none) →
      c.allValidators.toolOptions = some options → OptionsApply c name options
  | absent :
      (∀ block, c.validator? name = some block → block.toolOptions = none) →
      c.allValidators.toolOptions = none → OptionsApply c name []

theorem Config.ownToolOptions?_eq_none_iff {c : Config} {name : String} :
    c.ownToolOptions? name = none ↔
      ∀ block, c.validator? name = some block → block.toolOptions = none :=
  Option.bind_eq_none_iff

theorem Config.optionsApply_iff {c : Config} {name : String} {options : List String} :
    c.OptionsApply name options ↔ c.toolOptionsFor name = options := by
  unfold Config.toolOptionsFor
  constructor
  · intro h
    cases h with
    | own hblock hoptions =>
      have hown : c.ownToolOptions? name = some options :=
        Option.bind_eq_some_iff.2 ⟨_, hblock, hoptions⟩
      rw [hown]
      rfl
    | shared hnone hglobal =>
      rw [ownToolOptions?_eq_none_iff.2 hnone, hglobal]
      rfl
    | absent hnone hglobal =>
      rw [ownToolOptions?_eq_none_iff.2 hnone, hglobal]
      rfl
  · rintro rfl
    cases hown : c.ownToolOptions? name with
    | some own =>
      obtain ⟨block, hblock, hoptions⟩ := Option.bind_eq_some_iff.1 hown
      exact .own hblock hoptions
    | none =>
      have hnone := ownToolOptions?_eq_none_iff.1 hown
      cases hglobal : c.allValidators.toolOptions with
      | some options => exact .shared hnone hglobal
      | none => exact .absent hnone hglobal

/-! ## Commands that are spawned -/

/-- The commands have different bytes with the same digest. -/
def Command.Collide (c d : Command) : Prop :=
  c.hashInput ≠ d.hashInput ∧ Digest.sha256 c.hashInput = Digest.sha256 d.hashInput

instance (c d : Command) : Decidable (c.Collide d) :=
  inferInstanceAs (Decidable (c.hashInput ≠ d.hashInput ∧ _))

namespace Cache.Service

variable {σ : Type} {spawn : Spawner σ}

/-- Commands with different fingerprints, none of them stored, are all spawned. -/
theorem spawned_of_nodup : ∀ {cs : List Command} {s : Service (σ × List Command)},
    (cs.map (·.fingerprint)).Nodup → (∀ c ∈ cs, c.fingerprint ∉ s.cache.keys) →
      (s.executeAll spawn.recording cs).spawner.2 = s.spawner.2 ++ cs
  | [], s, _, _ => (List.append_nil _).symm
  | c :: cs, s, hnodup, hfresh => by
    rw [List.map_cons, List.nodup_cons] at hnodup
    have hmiss : c.fingerprint ∉ s.cache.keys := hfresh c List.mem_cons_self
    have hnext : (s.next spawn.recording (.execute c)).spawner.2 = s.spawner.2 ++ [c] := by
      show (s.cache.execute spawn.recording c s.spawner).state.2 = _
      rw [spawned_execute, if_neg hmiss]
    rw [executeAll_cons, spawned_of_nodup hnodup.2, hnext, List.append_assoc,
      List.singleton_append]
    intro d hd hmem
    rcases mem_keys_execute.1 hmem with hstored | hsame
    · exact hfresh d (List.mem_cons_of_mem c hd) hstored
    · exact hnodup.1 (hsame ▸ List.mem_map_of_mem hd)

/-- A command that is asked for twice is spawned once. -/
theorem spawned_twice (st : σ) (c : Command) :
    ((⟨{}, (st, [])⟩ : Service (σ × List Command)).executeAll spawn.recording [c, c]).spawner.2 =
      [c] := by
  rw [executeAll_cons, executeAll_eq_self]
  · rfl
  · intro d hd
    rw [List.mem_singleton.1 hd]
    exact mem_keys_execute.2 (.inr rfl)

end Cache.Service

namespace YardWarning

open Runner

/-- The invocation of the documentation tool with some options, for some files. -/
def invocation (options files : List String) : Command :=
  ⟨"yard", "stats" :: "--no-save" :: "--no-progress" :: (options ++ files)⟩

theorem command_eq (files : Option (List String)) (options : List String) :
    command ⟨files, options⟩ = invocation options (files.getD []) := by
  simp [command, invocation]

theorem invocation_inj {options options' files : List String} :
    invocation options files = invocation options' files ↔ options = options' := by
  unfold invocation
  simp

theorem nulFree_invocation {options files : List String}
    (h : ∀ s ∈ options ++ files, '\x00' ∉ s.toList) : (invocation options files).NulFree := by
  intro s hs
  unfold invocation Command.components at hs
  simp only [List.mem_cons] at hs
  rcases hs with rfl | rfl | rfl | rfl | hs
  · decide
  · decide
  · decide
  · decide
  · exact h s hs

/-- **Options show in the fingerprint.** -/
theorem fingerprint_invocation_iff {options options' files : List String}
    (h : ∀ s ∈ options ++ files, '\x00' ∉ s.toList)
    (h' : ∀ s ∈ options' ++ files, '\x00' ∉ s.toList)
    (hcollide : ¬(invocation options files).Collide (invocation options' files)) :
    (invocation options files).fingerprint = (invocation options' files).fingerprint ↔
      options = options' := by
  constructor
  · intro hf
    by_contra hne
    have hcommands : invocation options files ≠ invocation options' files :=
      mt invocation_inj.1 hne
    rcases Command.confused_cases hcommands hf with hnul | hnul | hcollision
    · exact hnul (nulFree_invocation h)
    · exact hnul (nulFree_invocation h')
    · exact hcollide hcollision
  · intro heq
    rw [heq]

/-! ## Runs -/

/-- The validators that have a command. -/
def shells (r : Runner) : List Validator := r.activeValidators.filter fun v => v.strategy = .shell

theorem nodup_shells (r : Runner) : (shells r).Nodup :=
  (r.nodup_names_activeValidators.of_map _).filter _

theorem commands_eq (r : Runner) :
    r.commands r.activeValidators = (shells r).filterMap r.command? := by
  unfold commands shells
  rw [List.filterMap_filter]
  refine List.filterMap_congr fun v _ => ?_
  unfold command?
  cases v.strategy <;> simp

theorem command?_tag (r : Runner) : r.command? UnknownTag.validator =
    some (invocation (r.config.toolOptionsFor UnknownTag.name) (r.files.getD [])) :=
  congrArg some (command_eq r.files _)

theorem command?_parameter (r : Runner) : r.command? UnknownParameter.validator =
    some (invocation (r.config.toolOptionsFor UnknownParameter.name) (r.files.getD [])) :=
  congrArg some (command_eq r.files _)

/-- The runner runs both validators for warnings.  Other validators that it runs spawn nothing and
cannot end the run. -/
structure RunsBoth (r : Runner) : Prop where
  tag_mem : UnknownTag.validator ∈ r.validators.validators
  parameter_mem : UnknownParameter.validator ∈ r.validators.validators
  enabled : r.config.isEnabled UnknownTag.name = true ∧
    r.config.isEnabled UnknownParameter.name = true
  selected : r.isSelected UnknownTag.name = true ∧ r.isSelected UnknownParameter.name = true
  others : ∀ v ∈ r.activeValidators, v = UnknownTag.validator ∨ v = UnknownParameter.validator ∨
    v.strategy = .inProcess ∧ r.NeverFatal v ∧ v.kind.defaultSeverity ≠ none

namespace RunsBoth

variable {σ : Type} {r : Runner}

theorem tag_active (h : RunsBoth r) : UnknownTag.validator ∈ r.activeValidators :=
  List.mem_filter.2 ⟨h.tag_mem, (Bool.and_eq_true _ _).mpr ⟨h.enabled.1, h.selected.1⟩⟩

theorem parameter_active (h : RunsBoth r) : UnknownParameter.validator ∈ r.activeValidators :=
  List.mem_filter.2 ⟨h.parameter_mem, (Bool.and_eq_true _ _).mpr ⟨h.enabled.2, h.selected.2⟩⟩

theorem neverFatal (h : RunsBoth r) {v : Validator} (hv : v ∈ r.activeValidators) :
    r.NeverFatal v ∧ v.kind.defaultSeverity ≠ none := by
  rcases h.others v hv with rfl | rfl | ⟨_, hfatal⟩
  · refine ⟨fun e he => ?_, fun hn => ?_⟩
    · cases he
    · cases hn
  · refine ⟨fun e he => ?_, fun hn => ?_⟩
    · cases he
    · cases hn
  · exact hfatal

theorem mem_shells_iff (h : RunsBoth r) {v : Validator} :
    v ∈ shells r ↔ v = UnknownTag.validator ∨ v = UnknownParameter.validator := by
  unfold shells
  rw [List.mem_filter, decide_eq_true_eq]
  constructor
  · rintro ⟨hv, hshell⟩
    rcases h.others v hv with rfl | rfl | ⟨hin, _⟩
    · exact .inl rfl
    · exact .inr rfl
    · rw [hshell] at hin
      cases hin
  · rintro (rfl | rfl)
    · exact ⟨h.tag_active, rfl⟩
    · exact ⟨h.parameter_active, rfl⟩

/-- The validators that have a command are the two, in the order in which they are registered. -/
theorem shells_eq (h : RunsBoth r) :
    shells r = [UnknownTag.validator, UnknownParameter.validator] ∨
      shells r = [UnknownParameter.validator, UnknownTag.validator] := by
  have hne : UnknownTag.validator ≠ UnknownParameter.validator := fun he =>
    absurd (congrArg Validator.name he) (by decide)
  have hperm : (shells r).Perm [UnknownTag.validator, UnknownParameter.validator] :=
    (List.perm_ext_iff_of_nodup (nodup_shells r) (by simp [hne])).2 fun v => by
      rw [h.mem_shells_iff]
      simp
  obtain ⟨u, w, huw⟩ := List.length_eq_two.1 hperm.length_eq
  have hu := h.mem_shells_iff.1 (huw ▸ List.mem_cons_self : u ∈ shells r)
  have hw := h.mem_shells_iff.1 (huw ▸ List.mem_cons_of_mem u List.mem_cons_self : w ∈ shells r)
  have hdistinct : u ≠ w := by
    have hnodup := nodup_shells r
    rw [huw] at hnodup
    simpa using hnodup
  rw [huw]
  rcases hu with rfl | rfl <;> rcases hw with rfl | rfl
  · exact absurd rfl hdistinct
  · exact .inl rfl
  · exact .inr rfl
  · exact absurd rfl hdistinct

/-- The commands of the run are the two invocations, in the order in which their validators are
registered. -/
theorem commands_cases (h : RunsBoth r) :
    let c := invocation (r.config.toolOptionsFor UnknownTag.name) (r.files.getD [])
    let c' := invocation (r.config.toolOptionsFor UnknownParameter.name) (r.files.getD [])
    [UnknownTag.validator, UnknownParameter.validator].Sublist r.validators.validators ∧
        r.commands r.activeValidators = [c, c'] ∨
      [UnknownParameter.validator, UnknownTag.validator].Sublist r.validators.validators ∧
        r.commands r.activeValidators = [c', c] := by
  have hsublist : (shells r).Sublist r.validators.validators :=
    List.filter_sublist.trans List.filter_sublist
  rw [commands_eq]
  rcases h.shells_eq with hshells | hshells
  · refine .inl ⟨hshells ▸ hsublist, ?_⟩
    simp only [hshells, List.filterMap_cons, command?_tag, command?_parameter, List.filterMap_nil]
  · refine .inr ⟨hshells ▸ hsublist, ?_⟩
    simp only [hshells, List.filterMap_cons, command?_tag, command?_parameter, List.filterMap_nil]

/-- The run goes through all of its validators. -/
theorem results_ok (h : RunsBoth r) (spawn : Spawner σ) (st : σ) :
    ∃ rs, r.results spawn ⟨{}, st, {}⟩ r.activeValidators = .ok rs := by
  refine results_eq_ok_iff.2 ?_
  intro before v rest hsplit e
  obtain ⟨hfatal, hsev⟩ := h.neverFatal (v := v) (by rw [hsplit]; simp)
  exact hfatal.not_defect hsev spawn _ e

theorem spawned_eq (h : RunsBoth r) (spawn : Spawner σ) (st : σ) :
    (r.run spawn.recording {} (st, [])).session.spawner.2 =
      ((⟨{}, (st, [])⟩ : Cache.Service (σ × List Command)).executeAll spawn.recording
        (r.commands r.activeValidators)).spawner.2 := by
  have hservice := r.service_run spawn.recording {} (st, [])
  unfold builtCommands at hservice
  rw [reached_eq_self (h.results_ok spawn.recording (st, []))] at hservice
  exact congrArg (·.spawner.2) hservice

/-- Of the built-in validators no other one spawns a command or ends a run. -/
theorem of_builtins (hbuiltin : ∀ v ∈ r.validators.validators, v ∈ Preset.builtins)
    (htag : UnknownTag.validator ∈ r.validators.validators)
    (hparameter : UnknownParameter.validator ∈ r.validators.validators)
    (henabled : r.config.isEnabled UnknownTag.name = true ∧
      r.config.isEnabled UnknownParameter.name = true)
    (hselected : r.isSelected UnknownTag.name = true ∧
      r.isSelected UnknownParameter.name = true) : RunsBoth r := by
  refine ⟨htag, hparameter, henabled, hselected, fun v hv => ?_⟩
  have hv := hbuiltin v (List.mem_filter.1 hv).1
  simp only [Preset.builtins, List.mem_cons, List.not_mem_nil, or_false] at hv
  rcases hv with rfl | rfl | rfl | rfl
  · refine .inr (.inr ⟨rfl, ?_, fun hn => by cases hn⟩)
    exact neverFatal_of_query rfl fun o c e he => Undocumented.isFatal_of_query he
  · refine .inr (.inr ⟨rfl, ?_, fun hn => by cases hn⟩)
    refine neverFatal_of_query rfl fun o c e he => ?_
    change (TagOrder.query o ⟨r.config, TagOrder.name⟩).error = some e at he
    unfold TagOrder.query at he
    simp only at he
    split at he <;> cases he
  · exact .inl rfl
  · exact .inr (.inl rfl)

end RunsBoth

/-- **The documentation tool is invoked once for the same options and twice for different ones.**
    The runner runs both validators for warnings, with an empty cache and whatever spawner.  No
    option and no file has a null character in it, and the two invocations do not collide.  Then
    the run gives a report, and the commands that it spawns are one invocation if the options that
    apply to the validators are the same, and else one for each of them, in the order in which the
    validators are registered. -/
theorem spawns_follow_options {σ : Type} (r : Runner) (spawn : Spawner σ) (st : σ)
    (hboth : RunsBoth r)
    (hnul : ∀ s ∈ r.config.toolOptionsFor UnknownTag.name ++
      r.config.toolOptionsFor UnknownParameter.name ++ r.files.getD [], '\x00' ∉ s.toList)
    (hcollide : ¬(invocation (r.config.toolOptionsFor UnknownTag.name) (r.files.getD [])).Collide
      (invocation (r.config.toolOptionsFor UnknownParameter.name) (r.files.getD []))) :
    let options := r.config.toolOptionsFor UnknownTag.name
    let options' := r.config.toolOptionsFor UnknownParameter.name
    let files := r.files.getD []
    let run := r.run spawn.recording {} (st, [])
    let registered := r.validators.validators
    (∀ own, r.config.OptionsApply UnknownTag.name own ↔ options = own) ∧
      (∀ own, r.config.OptionsApply UnknownParameter.name own ↔ options' = own) ∧
      (∃ report, run.outcome = .ok report) ∧
      (options = options' → run.session.spawner.2 = [invocation options files]) ∧
      (options ≠ options' →
        [UnknownTag.validator, UnknownParameter.validator].Sublist registered ∧
            run.session.spawner.2 = [invocation options files, invocation options' files] ∨
          [UnknownParameter.validator, UnknownTag.validator].Sublist registered ∧
            run.session.spawner.2 = [invocation options' files, invocation options files]) := by
  intro options options' files run registered
  have hfingerprint : (invocation options files).fingerprint =
      (invocation options' files).fingerprint ↔ options = options' := by
    refine fingerprint_invocation_iff (fun s hs => hnul s ?_) (fun s hs => hnul s ?_) hcollide
    · rcases List.mem_append.1 hs with hs | hs
      · exact List.mem_append_left _ (List.mem_append_left _ hs)
      · exact List.mem_append_right _ hs
    · rcases List.mem_append.1 hs with hs | hs
      · exact List.mem_append_left _ (List.mem_append_right _ hs)
      · exact List.mem_append_right _ hs
  have hspawned : run.session.spawner.2 = _ := hboth.spawned_eq spawn st
  refine ⟨fun own => Config.optionsApply_iff, fun own => Config.optionsApply_iff, ?_, ?_, ?_⟩
  · obtain ⟨rs, hrs⟩ := hboth.results_ok spawn.recording (st, [])
    exact ⟨r.reportOn rs, by rw [run_outcome, hrs]; rfl⟩
  · intro heq
    -- whichever of the two comes first, it is the same command twice
    have hcommands : r.commands r.activeValidators =
        [invocation options files, invocation options files] := by
      have hsame : invocation options' files = invocation options files := by rw [heq]
      rcases hboth.commands_cases with ⟨_, hc⟩ | ⟨_, hc⟩
      · exact hc.trans (congrArg (fun c => [invocation options files, c]) hsame)
      · exact hc.trans (congrArg (fun c => [c, invocation options files]) hsame)
    rw [hspawned, hcommands]
    exact Cache.Service.spawned_twice st _
  · intro hne
    have hdistinct : (invocation options files).fingerprint ≠
        (invocation options' files).fingerprint := mt hfingerprint.1 hne
    rcases hboth.commands_cases with ⟨hsublist, hcommands⟩ | ⟨hsublist, hcommands⟩
    · refine .inl ⟨hsublist, ?_⟩
      rw [hspawned, hcommands]
      exact Cache.Service.spawned_of_nodup (by simpa using hdistinct) fun c _ hmem => by cases hmem
    · refine .inr ⟨hsublist, ?_⟩
      rw [hspawned, hcommands]
      exact Cache.Service.spawned_of_nodup (by simpa using hdistinct.symm)
        fun c _ hmem => by cases hmem

/-- Options of one validator that are spelled out like the global ones are the same options, while
an empty list of its own is not the global list.  Then the commands come in the order of the
validators, not in that of the names to run. -/
theorem spawns_follow_options_own :
    let r (own : List String) : Runner :=
      { config :=
          { allValidators := { toolOptions := some ["--private"] }
            validators := [(UnknownTag.name, { toolOptions := some own })] }
        validators := Preset.standard.validators
        files := some ["lib/a.rb"]
        only := some [UnknownParameter.name, UnknownTag.name] }
    let spawn : Spawner Unit := fun _ _ => ⟨.success "", [], ()⟩
    let spawned (own : List String) : List Command :=
      ((r own).run spawn.recording {} ((), [])).session.spawner.2
    spawned ["--private"] = [invocation ["--private"] ["lib/a.rb"]] ∧
      spawned [] = [invocation [] ["lib/a.rb"], invocation ["--private"] ["lib/a.rb"]] := by
  intro r spawn spawned
  have hset : ∀ own, (r own).validators.validators = Preset.builtins := fun own => rfl
  have hboth : ∀ own, RunsBoth (r own) := fun own => by
    refine .of_builtins (fun v hv => hset own ▸ hv) ?_ ?_ ?_ ?_
    · simp [hset, Preset.builtins]
    · simp [hset, Preset.builtins]
    · exact ⟨rfl, rfl⟩
    · exact ⟨rfl, rfl⟩
  obtain ⟨_, _, _, hsame, _⟩ := spawns_follow_options (r ["--private"]) spawn () (hboth _)
    (by decide) (by decide +kernel)
  obtain ⟨_, _, _, _, hother⟩ := spawns_follow_options (r []) spawn () (hboth _)
    (by decide) (by decide +kernel)
  refine ⟨hsame rfl, ?_⟩
  rcases hother (by decide) with ⟨_, hspawned⟩ | ⟨hsublist, _⟩
  · exact hspawned
  · exact absurd (hsublist.map Validator.name) (by decide)

end YardWarning

end DocAudit

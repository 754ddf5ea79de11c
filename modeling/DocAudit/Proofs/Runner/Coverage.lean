import DocAudit.Proofs.Builtin.Undocumented
import DocAudit.Proofs.Runner.Abort
import DocAudit.Proofs.Runner.Independence

/-!
# Coverage and the reports on undocumented objects

The coverage of a runner counts objects of the registry directly.  The validator for undocumented
objects comes to its offenses on another way: it selects objects by its own settings, asks about
those that have a place, writes a line for each and parses the lines.  `coverage_gap_eq` says that
the two agree on what is undocumented, up to the objects without a place and the methods that are
let off.
-/

namespace DocAudit.Runner

variable {σ : Type} {r : Runner} {spawn : Spawner σ}

/-! ## Contributions -/

/-- A contribution is part of the report, and comes from the output that the validator has had for
some results of commands. -/
theorem get?_zip_of_results : ∀ {vs : List Validator} {s : Session σ} {rs : List ValidatorResult},
    r.results spawn s vs = .ok rs → (vs.map (·.name)).Nodup → ∀ v ∈ vs,
      ∃ answer, ∃ result ∈ rs, r.verdict answer v = .ok result ∧
        Assoc.get? v.name ((vs.map (·.name)).zip (rs.map (·.offenses))) = some result.offenses
  | u :: vs, s, rs, h, hnodup, v, hv => by
    rw [List.map_cons, List.nodup_cons] at hnodup
    unfold results at h
    cases hu : r.verdict (s.answer spawn) u with
    | error e => rw [hu] at h; cases h
    | ok first =>
      cases hrest : r.results spawn (r.executeValidator spawn u s).session vs with
      | error e => rw [hu, hrest] at h; cases h
      | ok rest =>
        rw [hu, hrest] at h
        cases h
        rcases List.mem_cons.1 hv with rfl | hv
        · refine ⟨_, first, List.mem_cons_self, hu, ?_⟩
          simp [Assoc.get?_cons]
        · obtain ⟨answer, result, hmem, hok, hget⟩ := get?_zip_of_results hrest hnodup.2 v hv
          have hne : u.name ≠ v.name := fun e => hnodup.1 (e ▸ List.mem_map_of_mem hv)
          refine ⟨answer, result, List.mem_cons_of_mem first hmem, hok, ?_⟩
          rw [List.map_cons, List.map_cons, List.zip_cons_cons, Assoc.get?_cons, if_neg hne, hget]

theorem contribution?_of_ok {cache : Cache} {st : σ} {report : Report}
    (hok : (r.run spawn cache st).outcome = .ok report) {v : Validator}
    (hv : v ∈ r.activeValidators) :
    ∃ answer result, r.verdict answer v = .ok result ∧
      r.contribution? spawn cache st v.name = some result.offenses ∧
      result.offenses <:+: report.offenses := by
  rw [run_outcome] at hok
  cases hrs : r.results spawn ⟨cache, st, {}⟩ r.activeValidators with
  | error e => rw [hrs] at hok; cases hok
  | ok rs =>
    rw [hrs] at hok
    cases hok
    obtain ⟨answer, result, hmem, hverdict, hget⟩ :=
      get?_zip_of_results hrs r.nodup_names_activeValidators v hv
    refine ⟨answer, result, hverdict, ?_, ?_⟩
    · have hrun : (r.runValidators spawn r.validators.validators ⟨cache, st, {}⟩).outcome =
          .ok rs := (r.runValidators_eq spawn r.validators.validators ⟨cache, st, {}⟩).1.trans hrs
      unfold contribution?
      rw [hrun]
      exact hget
    · rw [offenses_reportOn, List.flatMap_def]
      exact List.infix_of_mem_flatten (List.mem_map_of_mem hmem)

/-! ## What is counted -/

/-- The objects that the coverage counts. -/
def counted (r : Runner) : List CodeObject :=
  r.registry.objectsFor r.coverageVisibility r.config.allValidators.exclude r.files

theorem coverage_eq (r : Runner) : r.coverage = .ofObjects r.counted := rfl

/-- A validator for public objects without options and excludes of its own looks at what the
coverage counts. -/
theorem objectsOf_eq_counted {v : Validator} (hdefault : v.defaultVisibility = .publicOnly)
    (hoptions : r.config.ownToolOptions? v.name = none)
    (hexclude : ∀ b, r.config.validator? v.name = some b → b.exclude = []) :
    Inquiry.objectsOf r.registry r.config r.files v = r.counted := by
  have hexcludes : r.config.excludesFor v.name = r.config.allValidators.exclude := by
    unfold Config.excludesFor
    cases hb : r.config.validator? v.name with
    | none => exact List.append_nil _
    | some b => simp [hexclude b hb]
  unfold Inquiry.objectsOf Config.visibilityFor counted coverageVisibility
  rw [hoptions, hdefault, hexcludes]

/-- What the validator for undocumented objects contributes is one offense for each object that it
reports. -/
theorem length_offenses_undocumented {answer : Command → Execution} {result : ValidatorResult}
    (hwritable : ∀ o ∈ Inquiry.objectsOf r.registry r.config r.files Undocumented.validator,
      Inquiry.isLocated o = true → Undocumented.Writable o)
    (h : r.verdict answer Undocumented.validator = .ok result) :
    result.offenses.length =
      ((Inquiry.objectsOf r.registry r.config r.files Undocumented.validator).filter
        Inquiry.isLocated).countP (Undocumented.IsReported ⟨r.config, Undocumented.name⟩) := by
  have hlocated : ∀ o ∈ Inquiry.eligible r.registry r.config r.files Undocumented.validator,
      Inquiry.isLocated o = true := fun o ho => (List.mem_filter.1 ho).2
  have hall : ∀ o ∈ Inquiry.eligible r.registry r.config r.files Undocumented.validator,
      Undocumented.Writable o := fun o ho =>
    hwritable o (List.mem_filter.1 ho).1 (hlocated o ho)
  have hproduce : ∃ x, r.produce answer Undocumented.validator = .ok x := by
    cases hp : r.produce answer Undocumented.validator with
    | error e => rw [verdict, hp] at h; cases h
    | ok x => exact ⟨x, rfl⟩
  obtain ⟨x, hx⟩ := hproduce
  have hstdout : x.stdout =
      (Inquiry.written r.registry r.config r.files Undocumented.validator).text := by
    have hstrategy : Undocumented.validator.strategy = .inProcess := rfl
    unfold produce at hx
    rw [hstrategy] at hx
    simp only at hx
    split at hx
    · cases hx
    · cases hx
      rfl
  rw [verdict, hx] at h
  have hlength := ValidatorResult.length_offenses_of_ofRecords h
  have hparse := Undocumented.parse_written ⟨r.config, Undocumented.name⟩ hlocated hall
  have hwritten : Inquiry.written r.registry r.config r.files Undocumented.validator =
      ⟨(Inquiry.eligible r.registry r.config r.files Undocumented.validator).flatMap
        (Inquiry.ownLines Undocumented.validator ⟨r.config, Undocumented.name⟩)⟩ :=
    (Inquiry.collected_eq Undocumented.onlyAppends_validator _ {}).trans
      (congrArg Collector.mk (List.nil_append _))
  change result.offenses.length = (Undocumented.parse x.stdout).length at hlength
  rw [hstdout, hwritten] at hlength
  rw [hlength, List.countP_eq_length_filter]
  exact (congrArg List.length hparse).trans (List.length_map _)

/-- The objects that the coverage counts as undocumented. -/
def undocumented (r : Runner) : List CodeObject := r.counted.filter fun o => !o.isDocumented

/-- An object that is counted as undocumented has no place, or is let off, or is reported. -/
theorem length_undocumented (r : Runner) (s : Settings) :
    r.undocumented.length =
      (r.counted.filter Inquiry.isLocated).countP (Undocumented.IsReported s) +
        r.undocumented.countP (fun o => !Inquiry.isLocated o) +
        r.undocumented.countP (fun o => Inquiry.isLocated o && Undocumented.IsExempt s o) := by
  have hplace := List.length_eq_countP_add_countP Inquiry.isLocated (l := r.undocumented)
  simp only [Bool.not_eq_true, Bool.decide_eq_false] at hplace
  have hexempt : r.undocumented.countP Inquiry.isLocated =
      r.undocumented.countP (fun o => Inquiry.isLocated o && Undocumented.IsExempt s o) +
        r.undocumented.countP (fun o => Inquiry.isLocated o && !Undocumented.IsExempt s o) := by
    rw [List.countP_eq_countP_filter_add _ _ fun o => decide (Undocumented.IsExempt s o),
      List.countP_filter, List.countP_filter]
  have hreported :
      r.undocumented.countP (fun o => Inquiry.isLocated o && !Undocumented.IsExempt s o) =
        (r.counted.filter Inquiry.isLocated).countP (Undocumented.IsReported s) := by
    unfold undocumented
    rw [List.countP_filter, List.countP_filter]
    refine List.countP_congr fun o _ => ?_
    simp only [Bool.and_eq_true, Bool.not_eq_true', decide_eq_true_eq, decide_eq_false_iff_not]
    constructor
    · rintro ⟨⟨hl, hx⟩, hd⟩
      exact ⟨⟨hd, hx⟩, hl⟩
    · rintro ⟨⟨hd, hx⟩, hl⟩
      exact ⟨⟨hl, hx⟩, hd⟩
  omega

theorem total_eq (r : Runner) :
    r.coverage.total = r.coverage.documented + r.undocumented.length := by
  rw [coverage_eq]
  unfold Coverage.ofObjects undocumented
  have hlength := List.length_eq_countP_add_countP (·.isDocumented) (l := r.counted)
  simp only [Bool.not_eq_true, Bool.decide_eq_false] at hlength
  rw [← List.countP_eq_length_filter, ← List.countP_eq_length_filter]
  exact hlength

/-- **Coverage and validator agree on what is undocumented.**  Where the validator for undocumented
    objects runs with the global options and excludes, and files and paths fit on one line, the
    objects that the coverage misses are those that the validator contributes an offense for, those
    without a file or a line, and the methods that are let off. -/
theorem coverage_gap_eq (r : Runner) (spawn : Spawner σ) (cache : Cache) (st : σ)
    (hregistered : Undocumented.validator ∈ r.validators.validators)
    (henabled : r.config.isEnabled Undocumented.name = true)
    (hselected : r.isSelected Undocumented.name = true)
    (hoptions : r.config.ownToolOptions? Undocumented.name = none)
    (hexclude : ∀ b, r.config.validator? Undocumented.name = some b → b.exclude = [])
    (hwritable : ∀ o ∈ r.counted, Inquiry.isLocated o = true → Undocumented.Writable o)
    (report : Report) (hok : (r.run spawn cache st).outcome = .ok report) :
    ∃ os, r.contribution? spawn cache st Undocumented.name = some os ∧
      os <:+: report.offenses ∧ r.coverage.documented ≤ r.coverage.total ∧
      r.coverage.total - r.coverage.documented =
        os.length + r.undocumented.countP (fun o => !Inquiry.isLocated o) +
          r.undocumented.countP (fun o => Inquiry.isLocated o &&
            Undocumented.IsExempt ⟨r.config, Undocumented.name⟩ o) := by
  have hactive : Undocumented.validator ∈ r.activeValidators := by
    refine List.mem_filter.2 ⟨hregistered, ?_⟩
    unfold isActive
    rw [Bool.and_eq_true]
    exact ⟨henabled, hselected⟩
  obtain ⟨answer, result, hverdict, hcontribution, hinfix⟩ := contribution?_of_ok hok hactive
  have hobjects := objectsOf_eq_counted (r := r) (v := Undocumented.validator) rfl hoptions hexclude
  have hlength := length_offenses_undocumented (hobjects ▸ hwritable) hverdict
  have hgap := r.length_undocumented ⟨r.config, Undocumented.name⟩
  have htotal := r.total_eq
  rw [hobjects] at hlength
  refine ⟨result.offenses, hcontribution, hinfix, ?_, ?_⟩
  · omega
  · omega

/-- A class that is reported, a constructor that is let off, and a module without a place are what
is missing besides the one documented class. -/
theorem coverage_gap_eq_of_four :
    let r : Runner :=
      { validators := .ofList [Undocumented.validator]
        registry := Registry.lookup
          ⟨[{ path := "A", kind := .classDef, file := some "a.rb", line := some 1 },
            { path := "A#initialize", kind := .methodDef, file := some "a.rb", line := some 2 },
            { path := "M", kind := .moduleDef },
            { path := "B", kind := .classDef, file := some "b.rb", line := some 1,
              docstring := "B." }]⟩ }
    let spawn : Spawner Unit := fun _ st => ⟨.success "", [], st⟩
    ∃ os, r.contribution? spawn {} () Undocumented.name = some os ∧
      r.coverage = ⟨4, 1⟩ ∧ 4 - 1 = os.length + 1 + 1 := by
  intro r spawn
  have hactive : r.activeValidators = [Undocumented.validator] := rfl
  have hwritable : ∀ o ∈ r.counted, Inquiry.isLocated o = true → Undocumented.Writable o := by
    intro o ho _
    have ho := (List.mem_filter.1 ho).1
    simp only [List.mem_cons, List.not_mem_nil, or_false] at ho
    rcases ho with rfl | rfl | rfl | rfl
    all_goals exact ⟨fun f hf => (by cases hf <;> decide), by decide, by decide, by decide⟩
  have hnever : r.NeverFatal Undocumented.validator :=
    neverFatal_of_query rfl fun o c e he => Undocumented.isFatal_of_query he
  have hhealthy : r.Healthy spawn ⟨{}, (), {}⟩ r.activeValidators := by
    rw [hactive, healthy_cons_iff]
    exact ⟨hnever.not_defect (by decide) spawn _, r.healthy_nil spawn _⟩
  obtain ⟨rs, hrs⟩ := results_eq_ok_iff.2 hhealthy
  have hok : (r.run spawn {} ()).outcome = .ok (r.reportOn rs) := by
    rw [run_outcome, hrs]
    rfl
  have hregistered : Undocumented.validator ∈ r.validators.validators := List.mem_singleton_self _
  obtain ⟨os, hos, _, _, hgap⟩ := coverage_gap_eq r spawn {} () hregistered rfl rfl rfl
    (fun b hb => by cases hb) hwritable (r.reportOn rs) hok
  exact ⟨os, hos, by decide, hgap⟩

end DocAudit.Runner

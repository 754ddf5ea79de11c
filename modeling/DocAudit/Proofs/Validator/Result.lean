import DocAudit.Validator.Result
import Mathlib.Data.List.Forall2

/-!
# When offenses can be built

Building offenses fails exactly if some record has no severity from any source, and the error
names the validator of the result kind.  Otherwise there is one offense for each record.

`Grades` says which severity a record has and `Reports` what its offense looks like, both without
regard to how they are come by.  `ofRecords_eq_ok_iff` is building in these terms, and
`ofRecords_all_or_nothing` adds what follows for records that are put together from two lists.
-/

namespace DocAudit

namespace ResultKind

variable {k : ResultKind} {configured : Option Severity}

theorem severity?_eq_none_iff {record : Record} :
    k.severity? configured record = none ↔
      configured = none ∧ k.recordSeverity record = none ∧ k.defaultSeverity = none := by
  unfold severity?
  rw [Option.or_eq_none_iff, Option.or_eq_none_iff]

theorem offense_eq_error_iff {record : Record} {e : EngineError} :
    k.offense configured record = .error e ↔
      k.severity? configured record = none ∧ e = .missingSeverity k.validatorName := by
  unfold offense
  cases k.severity? configured record with
  | none => exact ⟨fun h => ⟨rfl, (Except.error.inj h).symm⟩, fun h => by rw [h.2]⟩
  | some severity => exact ⟨fun h => (by cases h), fun h => (by cases h.1)⟩

theorem offenses_cons (record : Record) (records : List Record) :
    k.offenses configured (record :: records) =
      (k.offense configured record).bind fun o =>
        (k.offenses configured records).bind fun os => .ok (o :: os) := rfl

theorem offenses_eq_error_iff {records : List Record} {e : EngineError} :
    k.offenses configured records = .error e ↔
      (∃ record ∈ records, k.severity? configured record = none) ∧
        e = .missingSeverity k.validatorName := by
  induction records with
  | nil =>
    refine ⟨fun h => (by cases h), ?_⟩
    rintro ⟨⟨record, hr, _⟩, _⟩
    cases hr
  | cons record records ih =>
    rw [offenses_cons]
    cases ho : k.offense configured record with
    | error e' =>
      obtain ⟨hs, rfl⟩ := offense_eq_error_iff.1 ho
      exact ⟨fun h => ⟨⟨record, List.mem_cons_self, hs⟩, (Except.error.inj h).symm⟩,
        fun h => by rw [h.2]; rfl⟩
    | ok o =>
      have hs : k.severity? configured record ≠ none := fun hn => by
        rw [offense_eq_error_iff.2 ⟨hn, rfl⟩] at ho
        cases ho
      have htail : (Except.ok o : Except EngineError Offense).bind (fun o =>
          (k.offenses configured records).bind fun os => .ok (o :: os)) = .error e ↔
          k.offenses configured records = .error e := by
        cases k.offenses configured records with
        | error e' => exact Iff.rfl
        | ok os => exact ⟨fun h => (by cases h), fun h => (by cases h)⟩
      rw [htail, ih]
      constructor
      · rintro ⟨⟨record', hr, hn⟩, he⟩
        exact ⟨⟨record', List.mem_cons_of_mem _ hr, hn⟩, he⟩
      · rintro ⟨⟨record', hr, hn⟩, he⟩
        rcases List.mem_cons.1 hr with rfl | hr
        · exact absurd hn hs
        · exact ⟨⟨record', hr, hn⟩, he⟩

theorem offenses_eq_ok_iff {records : List Record} {os : List Offense} :
    k.offenses configured records = .ok os ↔
      List.Forall₂ (fun record o => k.offense configured record = .ok o) records os := by
  induction records generalizing os with
  | nil =>
    rw [List.forall₂_nil_left_iff]
    exact ⟨fun h => (Except.ok.inj h).symm, fun h => congrArg Except.ok h.symm⟩
  | cons record records ih =>
    rw [offenses_cons, List.forall₂_cons_left_iff]
    constructor
    · intro h
      cases ho : k.offense configured record with
      | error e => rw [ho] at h; cases h
      | ok o =>
        cases hos : k.offenses configured records with
        | error e => rw [ho, hos] at h; cases h
        | ok rest =>
          rw [ho, hos] at h
          exact ⟨o, rest, rfl, ih.1 hos, (Except.ok.inj h).symm⟩
    · rintro ⟨o, rest, ho, hrest, rfl⟩
      rw [ho, ih.2 hrest]
      rfl

/-- Each record gives one offense. -/
theorem length_offenses {records : List Record} {os : List Offense}
    (h : k.offenses configured records = .ok os) : os.length = records.length :=
  (offenses_eq_ok_iff.1 h).length_eq.symm

/-! ## Severities by rank -/

/-- The configuration, if there is one, sets the severity for the validator of the kind. -/
def IsConfigured (k : ResultKind) (config : Option Config) (s : Severity) : Prop :=
  ∃ c block, config = some c ∧ c.validator? k.validatorName = some block ∧ block.severity = some s

/-- The severity of a record: the configured one, else its own, else the default of the kind. -/
inductive Grades (k : ResultKind) (config : Option Config) (record : Record) : Severity → Prop where
  | configured {s : Severity} : k.IsConfigured config s → Grades k config record s
  | own {s : Severity} :
      (∀ t, ¬k.IsConfigured config t) → k.recordSeverity record = some s →
      Grades k config record s
  | default {s : Severity} :
      (∀ t, ¬k.IsConfigured config t) → k.recordSeverity record = none →
      k.defaultSeverity = some s → Grades k config record s

/-- The offense reports the record. -/
structure Reports (k : ResultKind) (config : Option Config) (record : Record) (o : Offense) :
    Prop where
  severity : k.Grades config record o.severity
  kind : o.kind = k.offenseKind
  name : o.name = k.offenseName
  message : o.message = k.message record
  location : o.location = record.location.getD ""
  line : o.line = record.line.getD 0

/-- Some record has no severity from any source. -/
structure LacksSeverity (k : ResultKind) (config : Option Config) (records : List Record) :
    Prop where
  configured : ∀ s, ¬k.IsConfigured config s
  default : k.defaultSeverity = none
  own : ∃ record ∈ records, k.recordSeverity record = none

variable {config : Option Config}

theorem isConfigured_iff {s : Severity} :
    k.IsConfigured config s ↔ config.bind (·.severity? k.validatorName) = some s := by
  unfold IsConfigured Config.severity?
  simp only [Option.bind_eq_some_iff]
  constructor
  · rintro ⟨c, block, hc, hblock, hs⟩
    exact ⟨c, hc, block, hblock, hs⟩
  · rintro ⟨c, hc, block, hblock, hs⟩
    exact ⟨c, block, hc, hblock, hs⟩

theorem not_isConfigured_iff :
    (∀ s, ¬k.IsConfigured config s) ↔ config.bind (·.severity? k.validatorName) = none := by
  simp only [isConfigured_iff, Option.eq_none_iff_forall_ne_some, ne_eq]

theorem grades_iff {record : Record} {s : Severity} :
    k.Grades config record s ↔
      k.severity? (config.bind (·.severity? k.validatorName)) record = some s := by
  unfold severity?
  constructor
  · intro h
    cases h with
    | configured hs => rw [isConfigured_iff.1 hs, Option.some_or]
    | own hn hs => rw [not_isConfigured_iff.1 hn, hs, Option.none_or, Option.some_or]
    | default hn ho hs =>
      rw [not_isConfigured_iff.1 hn, ho, Option.none_or, Option.none_or, hs]
  · intro h
    cases hc : config.bind (·.severity? k.validatorName) with
    | some t =>
      rw [hc, Option.some_or] at h
      exact .configured (isConfigured_iff.2 (hc.trans h))
    | none =>
      rw [hc, Option.none_or] at h
      cases ho : k.recordSeverity record with
      | some t =>
        rw [ho, Option.some_or] at h
        exact .own (not_isConfigured_iff.2 hc) (ho.trans h)
      | none =>
        rw [ho, Option.none_or] at h
        exact .default (not_isConfigured_iff.2 hc) ho h

theorem offense_eq_ok_iff {record : Record} {o : Offense} :
    k.offense (config.bind (·.severity? k.validatorName)) record = .ok o ↔
      k.Reports config record o := by
  unfold offense
  cases hs : k.severity? (config.bind (·.severity? k.validatorName)) record with
  | none =>
    refine ⟨fun h => (by cases h), fun h => ?_⟩
    rw [grades_iff.1 h.severity] at hs
    cases hs
  | some s =>
    constructor
    · intro h
      cases h
      exact ⟨grades_iff.2 hs, rfl, rfl, rfl, rfl, rfl⟩
    · intro h
      have hgrade : s = o.severity := Option.some.inj (hs.symm.trans (grades_iff.1 h.severity))
      obtain ⟨severity, kind, name, message, location, line⟩ := o
      obtain ⟨_, rfl, rfl, rfl, rfl, rfl⟩ := h
      rw [hgrade]
      rfl

theorem lacksSeverity_iff {records : List Record} :
    k.LacksSeverity config records ↔
      ∃ record ∈ records,
        k.severity? (config.bind (·.severity? k.validatorName)) record = none := by
  simp only [severity?_eq_none_iff]
  constructor
  · rintro ⟨hn, hd, record, hr, ho⟩
    exact ⟨record, hr, not_isConfigured_iff.1 hn, ho, hd⟩
  · rintro ⟨record, hr, hn, ho, hd⟩
    exact ⟨not_isConfigured_iff.2 hn, hd, record, hr, ho⟩

theorem lacksSeverity_append {rs rs' : List Record} :
    k.LacksSeverity config (rs ++ rs') ↔
      k.LacksSeverity config rs ∨ k.LacksSeverity config rs' := by
  simp only [lacksSeverity_iff, List.mem_append, or_and_right, exists_or]

end ResultKind

theorem ValidatorResult.length_offenses_of_ofRecords {k : ResultKind} {records : List Record}
    {config : Option Config} {result : ValidatorResult}
    (h : ofRecords k records config = .ok result) : result.offenses.length = records.length := by
  unfold ofRecords at h
  cases hos : k.offenses (config.bind (·.severity? k.validatorName)) records with
  | error e => rw [hos] at h; cases h
  | ok os =>
    rw [hos] at h
    cases h
    exact ResultKind.length_offenses hos

/-- **A result fails exactly if some record has no severity.** -/
theorem ValidatorResult.ofRecords_eq_error_iff {k : ResultKind} {records : List Record}
    {config : Option Config} {e : EngineError} :
    ofRecords k records config = .error e ↔
      (∃ record ∈ records,
        k.severity? (config.bind (·.severity? k.validatorName)) record = none) ∧
        e = .missingSeverity k.validatorName := by
  rw [← ResultKind.offenses_eq_error_iff]
  unfold ofRecords
  cases k.offenses (config.bind (·.severity? k.validatorName)) records with
  | error e' =>
    exact ⟨fun h => congrArg _ (Except.error.inj h), fun h => congrArg _ (Except.error.inj h)⟩
  | ok os => exact ⟨fun h => (by cases h), fun h => (by cases h)⟩

namespace ValidatorResult

variable {k : ResultKind} {config : Option Config}

/-- **A result holds one offense for each record, in order.** -/
theorem ofRecords_eq_ok_iff {records : List Record} {result : ValidatorResult} :
    ofRecords k records config = .ok result ↔
      result.validator = k.validatorName ∧
        List.Forall₂ (k.Reports config) records result.offenses := by
  have hreports : k.Reports config = fun record o =>
      k.offense (config.bind (·.severity? k.validatorName)) record = .ok o := by
    funext record o
    exact propext ResultKind.offense_eq_ok_iff.symm
  rw [hreports, ← ResultKind.offenses_eq_ok_iff]
  unfold ofRecords
  obtain ⟨validator, os⟩ := result
  cases k.offenses (config.bind (·.severity? k.validatorName)) records with
  | error e =>
    refine ⟨fun h => (by cases h), fun h => ?_⟩
    cases h.2
  | ok built =>
    constructor
    · intro h
      cases h
      exact ⟨rfl, rfl⟩
    · rintro ⟨rfl, h⟩
      cases h
      rfl

theorem exists_ofRecords_eq_ok_iff {records : List Record} :
    (∃ result, ofRecords k records config = .ok result) ↔ ¬k.LacksSeverity config records := by
  rw [ResultKind.lacksSeverity_iff]
  constructor
  · rintro ⟨result, h⟩ hlacks
    rw [ofRecords_eq_error_iff.2 ⟨hlacks, rfl⟩] at h
    cases h
  · intro h
    cases hof : ofRecords k records config with
    | ok result => exact ⟨result, rfl⟩
    | error e => exact absurd (ofRecords_eq_error_iff.1 hof).1 h

/-- **Offenses are built for all records or for none.**  The only error is a missing severity, of
    the validator that the kind names, and it comes exactly if neither the configuration nor the
    kind has a severity and some record has none of its own.  Otherwise there is a result, and a
    result always has one offense for each record, in their order.  Two lists of records can be
    built together exactly if each of them can, and then give their offenses one after the
    other. -/
theorem ofRecords_all_or_nothing (k : ResultKind) (config : Option Config) :
    (∀ records e, ofRecords k records config = .error e ↔
      k.LacksSeverity config records ∧ e = .missingSeverity k.validatorName) ∧
    (∀ records, ¬k.LacksSeverity config records →
      ∃ result, ofRecords k records config = .ok result) ∧
    (∀ records result, ofRecords k records config = .ok result ↔
      result.validator = k.validatorName ∧
        List.Forall₂ (k.Reports config) records result.offenses) ∧
    (∀ rs rs', (∃ result, ofRecords k (rs ++ rs') config = .ok result) ↔
      (∃ a, ofRecords k rs config = .ok a) ∧ ∃ b, ofRecords k rs' config = .ok b) ∧
    (∀ rs rs' a b, ofRecords k rs config = .ok a → ofRecords k rs' config = .ok b →
      ofRecords k (rs ++ rs') config = .ok ⟨k.validatorName, a.offenses ++ b.offenses⟩) := by
  refine ⟨?_, ?_, ?_, ?_, ?_⟩
  · intro records e
    rw [ofRecords_eq_error_iff, ResultKind.lacksSeverity_iff]
  · intro records h
    exact exists_ofRecords_eq_ok_iff.2 h
  · intro records result
    exact ofRecords_eq_ok_iff
  · intro rs rs'
    simp only [exists_ofRecords_eq_ok_iff, ResultKind.lacksSeverity_append, not_or]
  · intro rs rs' a b ha hb
    rw [ofRecords_eq_ok_iff] at ha hb ⊢
    exact ⟨rfl, List.rel_append ha.2 hb.2⟩

/-- A kind without a default, for records of which only those with a line have a severity. -/
def lineGraded : ResultKind where
  validatorName := "Lines"
  recordSeverity := fun record => record.line.map fun _ => .warning
  message := fun record => record.message.getD "?"

/-- One record without a severity spoils the whole result, wherever it stands; with a configured
severity, and without that record, each record is reported. -/
theorem ofRecords_all_or_nothing_lines :
    let placed : Record := { location := some "a.rb", line := some 3 }
    let config : Config := { validators := [("Lines", { severity := some .error })] }
    let offense (s : Severity) : Offense := ⟨s, "line", "Lines", "?", "a.rb", 3⟩
    ofRecords lineGraded [placed, {}, placed] none = .error (.missingSeverity "Lines") ∧
      ofRecords lineGraded [placed, placed] none =
        .ok ⟨"Lines", [offense .warning, offense .warning]⟩ ∧
      ofRecords lineGraded [placed, {}] (some config) =
        .ok ⟨"Lines", [offense .error, ⟨.error, "line", "Lines", "?", "", 0⟩]⟩ := by
  intro placed config offense
  obtain ⟨herror, _, _, _, happend⟩ := ofRecords_all_or_nothing lineGraded none
  obtain ⟨_, _, hok, _, _⟩ := ofRecords_all_or_nothing lineGraded (some config)
  have hunset : ∀ s, ¬lineGraded.IsConfigured none s := by
    rintro s ⟨c, block, hc, _⟩
    cases hc
  have hset : lineGraded.IsConfigured (some config) .error := ⟨config, _, rfl, rfl, rfl⟩
  refine ⟨?_, ?_, ?_⟩
  · exact (herror _ _).2 ⟨⟨hunset, rfl, {}, by decide, rfl⟩, rfl⟩
  · exact happend [placed] [placed] ⟨"Lines", [offense .warning]⟩ ⟨"Lines", [offense .warning]⟩
      rfl rfl
  · exact (hok _ _).2 ⟨rfl, .cons ⟨.configured hset, rfl, rfl, rfl, rfl, rfl⟩
      (.cons ⟨.configured hset, rfl, rfl, rfl, rfl, rfl⟩ .nil)⟩

end ValidatorResult

end DocAudit

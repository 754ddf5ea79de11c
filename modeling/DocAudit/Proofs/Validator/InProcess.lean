import DocAudit.Validator.InProcess

/-!
# What an inquiry gives

An inquiry goes through its objects with one collector, so that a query may see what the earlier
ones have left.  `replies` are the replies to its questions: `ask_outcome` says that it ends with
the first fatal error among them, and otherwise with what they leave in the collector.  The warning
that has or has not been logged before plays no part in it (`execute_outcome`).

Most validators write lines and look at nothing (`Validator.OnlyAppends`).  Then an inquiry is the
sum of what the objects contribute by themselves (`execute_eq_sum_of_answers`).
-/

namespace DocAudit

namespace Collector

theorem foldl_puts (ls : List String) (c : Collector) :
    ls.foldl puts c = ⟨c.lines ++ ls⟩ := by
  induction ls generalizing c with
  | nil => simp
  | cons l ls ih =>
    rw [List.foldl_cons, ih]
    simp [puts]

theorem truncate_append (c : Collector) (ls : List String) :
    truncate ⟨c.lines ++ ls⟩ c.size = c := by
  unfold truncate size
  rw [List.take_left]

theorem text_flatMap {α : Type} (f : α → List String) (xs : List α) :
    text ⟨xs.flatMap f⟩ = String.join (xs.map fun x => text ⟨f x⟩) := by
  rw [← String.toList_inj, String.toList_join]
  simp only [text, String.toList_ofList, List.flatMap_map, List.flatMap_assoc]

end Collector

namespace Reply

/-- The error that makes a reply fatal. -/
def fatal? (r : Reply) : Option QueryError := r.error.filter (·.isFatal)

theorem fatal?_eq_some_iff {r : Reply} {e : QueryError} :
    r.fatal? = some e ↔ r.error = some e ∧ e.isFatal = true := by
  unfold fatal?
  rw [Option.filter_eq_some_iff]

theorem fatal?_eq_none_iff {r : Reply} :
    r.fatal? = none ↔ ∀ e, r.error = some e → e.isFatal = false := by
  unfold fatal?
  rw [Option.filter_eq_none_iff]
  simp only [Bool.not_eq_true]

/-- What a reply leaves in the collector `c` that the query was given: after an error all lines
beyond the size of `c` are taken back. -/
def kept (r : Reply) (c : Collector) : Collector :=
  if r.error.isNone then r.collector else r.collector.truncate c.size

end Reply

namespace Inquiry

variable {v : Validator} {settings : Settings}

/-! ## Replies in turn -/

/-- The replies to questions about objects in turn, each with its object. -/
def replies (v : Validator) (settings : Settings) :
    List CodeObject → Collector → List (CodeObject × Reply)
  | [], _ => []
  | o :: os, c =>
    (o, v.query o settings c) :: replies v settings os ((v.query o settings c).kept c)

/-- What is in the collector when objects have been asked about. -/
def collected (v : Validator) (settings : Settings) (os : List CodeObject) (c : Collector) :
    Collector :=
  os.foldl (fun c o => (v.query o settings c).kept c) c

/-- A reply is that of the query about its object, for something that has been collected. -/
theorem of_mem_replies {p : CodeObject × Reply} : ∀ {os : List CodeObject} {c : Collector},
    p ∈ replies v settings os c → p.1 ∈ os ∧ ∃ c', p.2 = v.query p.1 settings c'
  | o :: os, c, h => by
    rcases List.mem_cons.1 h with rfl | h
    · exact ⟨List.mem_cons_self, c, rfl⟩
    · obtain ⟨hmem, c', hreply⟩ := of_mem_replies h
      exact ⟨List.mem_cons_of_mem o hmem, c', hreply⟩

theorem replies_congr {s t : Settings} : ∀ {os : List CodeObject} {c : Collector},
    (∀ o ∈ os, ∀ c, v.query o s c = v.query o t c) → replies v s os c = replies v t os c
  | [], _, _ => rfl
  | o :: os, c, h => by
    rw [replies, replies, h o List.mem_cons_self,
      replies_congr fun p hp => h p (List.mem_cons_of_mem o hp)]

theorem collected_congr {s t : Settings} : ∀ {os : List CodeObject} {c : Collector},
    (∀ o ∈ os, ∀ c, v.query o s c = v.query o t c) → collected v s os c = collected v t os c
  | [], _, _ => rfl
  | o :: os, c, h => by
    unfold collected
    rw [List.foldl_cons, List.foldl_cons, h o List.mem_cons_self]
    exact collected_congr fun p hp => h p (List.mem_cons_of_mem o hp)

/-- **An inquiry ends with the first fatal reply**, and otherwise with what all replies leave. -/
theorem ask_outcome : ∀ (os : List CodeObject) (c : Collector) (q : Inquiry),
    (ask v settings os c q).outcome =
      match (replies v settings (os.filter isLocated) c).findSome? (·.2.fatal?) with
      | some e => .error e
      | none => .ok (collected v settings (os.filter isLocated) c)
  | [], c, q => rfl
  | o :: os, c, q => by
    unfold ask
    by_cases hl : isLocated o = true
    · rw [if_pos hl, List.filter_cons_of_pos hl, replies, List.findSome?_cons]
      unfold collected
      rw [List.foldl_cons]
      simp only
      cases he : (v.query o settings c).error with
      | none =>
        have hf : (v.query o settings c).fatal? = none := by simp [Reply.fatal?, he]
        have hk : (v.query o settings c).kept c = (v.query o settings c).collector := by
          simp [Reply.kept, he]
        simp only [hf, hk]
        exact ask_outcome os _ q
      | some e =>
        by_cases hfe : e.isFatal = true
        · have hf : (v.query o settings c).fatal? = some e :=
            Reply.fatal?_eq_some_iff.2 ⟨he, hfe⟩
          simp only [hf, if_pos hfe]
        · have hf : (v.query o settings c).fatal? = none := by simp [Reply.fatal?, he, hfe]
          have hk : (v.query o settings c).kept c =
              (v.query o settings c).collector.truncate c.size := by
            simp [Reply.kept, he]
          simp only [hf, hk, if_neg hfe]
          exact ask_outcome os _ { q with warned := true }
    · rw [if_neg hl, List.filter_cons_of_neg hl]
      exact ask_outcome os c q

/-! ## Whole inquiries -/

/-- The objects that a validator is asked about: those it looks at that have a file and a line. -/
def eligible (registry : Lookup) (config : Config) (selection : Option (List String))
    (v : Validator) : List CodeObject :=
  (objectsOf registry config selection v).filter isLocated

/-- The replies of a validator, each with its object. -/
def repliesOf (registry : Lookup) (config : Config) (selection : Option (List String))
    (v : Validator) : List (CodeObject × Reply) :=
  replies v ⟨config, v.name⟩ (eligible registry config selection v) {}

/-- The first fatal error that a validator replies with. -/
def firstFatal? (registry : Lookup) (config : Config) (selection : Option (List String))
    (v : Validator) : Option QueryError :=
  (repliesOf registry config selection v).findSome? (·.2.fatal?)

/-- What a validator has written when all objects have been asked about. -/
def written (registry : Lookup) (config : Config) (selection : Option (List String))
    (v : Validator) : Collector :=
  collected v ⟨config, v.name⟩ (eligible registry config selection v) {}

/-- What an inquiry gives does not depend on the inquiries before it. -/
theorem execute_outcome (registry : Lookup) (config : Config)
    (selection : Option (List String)) (v : Validator) (q : Inquiry) :
    (q.execute registry config selection v).outcome =
      match firstFatal? registry config selection v with
      | some e => .error (.query v.name e)
      | none => .ok (.success (written registry config selection v).text) := by
  unfold execute firstFatal? repliesOf written eligible
  simp only [ask_outcome]
  cases (replies v ⟨config, v.name⟩
      ((objectsOf registry config selection v).filter isLocated) {}).findSome? (·.2.fatal?) <;> rfl

/-- The first fatal error is that of the first fatal reply. -/
theorem firstFatal?_eq_some_iff {registry : Lookup} {config : Config}
    {selection : Option (List String)} {v : Validator} {e : QueryError} :
    firstFatal? registry config selection v = some e ↔
      ∃ before o reply after,
        repliesOf registry config selection v = before ++ (o, reply) :: after ∧
        (∀ p ∈ before, ∀ e', p.2.error = some e' → e'.isFatal = false) ∧
        reply.error = some e ∧ e.isFatal = true := by
  unfold firstFatal?
  rw [List.findSome?_eq_some_iff]
  constructor
  · rintro ⟨before, ⟨o, reply⟩, after, hsplit, ho, hbefore⟩
    exact ⟨before, o, reply, after, hsplit, fun p hp => Reply.fatal?_eq_none_iff.1 (hbefore p hp),
      Reply.fatal?_eq_some_iff.1 ho⟩
  · rintro ⟨before, o, reply, after, hsplit, hbefore, ho⟩
    exact ⟨before, (o, reply), after, hsplit, Reply.fatal?_eq_some_iff.2 ho,
      fun p hp => Reply.fatal?_eq_none_iff.2 (hbefore p hp)⟩

end Inquiry

/-! ## Validators that only add lines -/

/-- The validator only adds lines, and what it says about an object depends on the object and the
settings alone. -/
def Validator.OnlyAppends (v : Validator) : Prop :=
  ∀ o settings, ∃ (lines : List String) (error : Option QueryError), ∀ c,
    (v.query o settings c).collector = lines.foldl Collector.puts c ∧
      (v.query o settings c).error = error

theorem Validator.onlyAppends_of_write {v : Validator} (answer : CodeObject → Settings → Answer)
    (h : ∀ o settings, v.query o settings = (answer o settings).write) : v.OnlyAppends := by
  intro o settings
  refine ⟨(answer o settings).lines, (answer o settings).error, fun c => ?_⟩
  rw [h]
  exact ⟨rfl, rfl⟩

namespace Inquiry

variable {v : Validator} {settings : Settings}

/-- What an object contributes to the output: the lines that the validator writes about it into an
empty collector, or nothing if it then reports an error. -/
def contribution (v : Validator) (settings : Settings) (o : CodeObject) : String :=
  match (v.query o settings {}).error with
  | none => (v.query o settings {}).collector.text
  | some _ => ""

/-- The lines that an object leaves in an empty collector. -/
def ownLines (v : Validator) (settings : Settings) (o : CodeObject) : List String :=
  ((v.query o settings {}).kept {}).lines

theorem text_ownLines (v : Validator) (settings : Settings) (o : CodeObject) :
    Collector.text ⟨ownLines v settings o⟩ = contribution v settings o := by
  unfold ownLines contribution Reply.kept
  cases (v.query o settings {}).error with
  | none => rfl
  | some e => rfl

theorem ownLines_of_write (answer : CodeObject → Settings → Answer)
    (h : ∀ o settings, v.query o settings = (answer o settings).write) (settings : Settings)
    (o : CodeObject) :
    ownLines v settings o =
      if (answer o settings).error.isNone then (answer o settings).lines else [] := by
  unfold ownLines Reply.kept
  rw [h]
  unfold Answer.write
  rw [Collector.foldl_puts]
  cases (answer o settings).error <;> rfl

theorem error_of_onlyAppends (h : v.OnlyAppends) (settings : Settings) (o : CodeObject)
    (c : Collector) : (v.query o settings c).error = (v.query o settings {}).error := by
  obtain ⟨lines, error, hquery⟩ := h o settings
  rw [(hquery c).2, (hquery {}).2]

/-- Whatever has been collected, an object adds its own lines. -/
theorem kept_of_onlyAppends (h : v.OnlyAppends) (settings : Settings) (o : CodeObject)
    (c : Collector) :
    (v.query o settings c).kept c = ⟨c.lines ++ ownLines v settings o⟩ := by
  obtain ⟨lines, error, hquery⟩ := h o settings
  obtain ⟨hcollector, herror⟩ := hquery c
  obtain ⟨hcollector', herror'⟩ := hquery {}
  unfold ownLines Reply.kept
  rw [herror, herror', hcollector, hcollector', Collector.foldl_puts, Collector.foldl_puts]
  cases error with
  | none => rfl
  | some e =>
    rw [Option.isNone_some, if_neg Bool.false_ne_true, if_neg Bool.false_ne_true,
      Collector.truncate_append, Collector.truncate_append, List.append_nil]

theorem findSome?_replies (h : v.OnlyAppends) : ∀ (os : List CodeObject) (c : Collector),
    (replies v settings os c).findSome? (·.2.fatal?) =
      os.findSome? fun o => (v.query o settings {}).fatal?
  | [], c => rfl
  | o :: os, c => by
    rw [replies, List.findSome?_cons, List.findSome?_cons, findSome?_replies h os]
    unfold Reply.fatal?
    simp only
    rw [error_of_onlyAppends h settings o c]

theorem collected_eq (h : v.OnlyAppends) : ∀ (os : List CodeObject) (c : Collector),
    collected v settings os c = ⟨c.lines ++ os.flatMap (ownLines v settings)⟩
  | [], c => by simp [collected]
  | o :: os, c => by
    have hrest := collected_eq h os ((v.query o settings c).kept c)
    unfold collected at *
    rw [List.foldl_cons, hrest, kept_of_onlyAppends h, List.flatMap_cons, List.append_assoc]

theorem text_written (h : v.OnlyAppends) (registry : Lookup) (config : Config)
    (selection : Option (List String)) :
    (written registry config selection v).text =
      String.join ((eligible registry config selection v).map
        (contribution v ⟨config, v.name⟩)) := by
  unfold written
  rw [collected_eq h, List.nil_append, Collector.text_flatMap]
  simp only [text_ownLines]

/-- **An inquiry is the sum of what the objects contribute.**  The objects are those that the
registry has for the validator's visibility, excludes and selection and that have a file and a
line.  The validator is one that only adds lines.  Where no query about the objects is fatal, the
outcome is a success with their contributions one after the other; otherwise it is the first fatal
error. -/
theorem execute_eq_sum_of_answers (registry : Lookup) (config : Config)
    (selection : Option (List String)) (v : Validator) (happends : v.OnlyAppends) (q : Inquiry) :
    let visibility := config.visibilityFor v.name v.defaultVisibility
    let objects := (registry.objectsFor visibility (config.excludesFor v.name) selection).filter
      fun o => o.file.isSome && o.line.isSome
    let settings : Settings := ⟨config, v.name⟩
    let outcome := (q.execute registry config selection v).outcome
    ((∀ o ∈ objects, ∀ e, (v.query o settings {}).error = some e → e.isFatal = false) →
      outcome = .ok
        { stdout := String.join (objects.map (contribution v settings))
          stderr := ""
          exitCode := 0 }) ∧
    ((∃ o ∈ objects, ∃ e, (v.query o settings {}).error = some e ∧ e.isFatal = true) →
      ∃ before o after e, objects = before ++ o :: after ∧
        (∀ p ∈ before, ∀ e', (v.query p settings {}).error = some e' → e'.isFatal = false) ∧
        (v.query o settings {}).error = some e ∧ e.isFatal = true ∧
        outcome = .error (.query v.name e)) := by
  intro visibility objects settings outcome
  have hobjects : eligible registry config selection v = objects := rfl
  have houtcome : outcome = _ := execute_outcome registry config selection v q
  have hfirst : firstFatal? registry config selection v =
      objects.findSome? fun o => (v.query o settings {}).fatal? :=
    findSome?_replies happends objects {}
  rw [houtcome, hfirst]
  constructor
  · intro hnever
    have hnone : (objects.findSome? fun o => (v.query o settings {}).fatal?) = none :=
      List.findSome?_eq_none_iff.2 fun o ho => Reply.fatal?_eq_none_iff.2 (hnever o ho)
    rw [hnone, text_written happends, hobjects]
    rfl
  · rintro ⟨o, ho, e, he, hfatal⟩
    cases hsome : objects.findSome? fun o => (v.query o settings {}).fatal? with
    | none =>
      have hnot := Reply.fatal?_eq_none_iff.1 (List.findSome?_eq_none_iff.1 hsome o ho) e he
      rw [hnot] at hfatal
      cases hfatal
    | some e' =>
      obtain ⟨before, p, after, hsplit, hp, hbefore⟩ := List.findSome?_eq_some_iff.1 hsome
      obtain ⟨herror, hf⟩ := Reply.fatal?_eq_some_iff.1 hp
      exact ⟨before, p, after, e', hsplit,
        fun u hu => Reply.fatal?_eq_none_iff.1 (hbefore u hu), herror, hf, rfl⟩

/-- What to say about an object in two lines.  About a module there is not more to say than the
first of them, and constants are asked for something that they do not have. -/
def haltingAnswer (o : CodeObject) : Answer :=
  match o.kind with
  | .moduleDef => { lines := ["begin " ++ o.path], error := some (.runtime "no end") }
  | .constantDef => { error := some (.noSuchAccessor "Halting" "end" o.path) }
  | _ => { lines := ["begin " ++ o.path, "end " ++ o.path] }

def halting : Validator where
  name := "Halting"
  strategy := .inProcess
  query := fun o _ => (haltingAnswer o).write
  parse := fun _ => []
  kind := { validatorName := "Halting", message := fun _ => "" }

theorem isFatal_of_halting {o : CodeObject} {s : Settings} {e : QueryError}
    (he : (halting.query o s {}).error = some e) (hf : e.isFatal = true) :
    o.kind = .constantDef ∧ e = .noSuchAccessor "Halting" "end" o.path := by
  change (haltingAnswer o).error = some e at he
  unfold haltingAnswer at he
  cases hk : o.kind <;> simp only [hk, Option.some.injEq, reduceCtorEq] at he
  · rw [← he] at hf
    cases hf
  · exact ⟨rfl, he.symm⟩

/-- The line about the module is taken back, the class without a line is not asked about, and a
constant ends the inquiry. -/
theorem execute_eq_sum_of_answers_halting :
    let placed (kind : ObjectKind) (path : String) : CodeObject :=
      { path, kind, file := some "a.rb", line := some 1 }
    let objects := [placed .classDef "A", placed .moduleDef "B",
      { path := "C", kind := .classDef }, placed .methodDef "D"]
    let q : Inquiry := {}
    (q.execute (Registry.lookup ⟨objects⟩) {} none halting).outcome =
        .ok { stdout := "begin A\nend A\nbegin D\nend D\n", stderr := "", exitCode := 0 } ∧
      (q.execute (Registry.lookup ⟨objects ++ [placed .constantDef "E"]⟩) {} none
          halting).outcome =
        .error (.query "Halting" (.noSuchAccessor "Halting" "end" "E")) := by
  intro placed objects q
  have happends : halting.OnlyAppends :=
    Validator.onlyAppends_of_write (fun o _ => haltingAnswer o) fun _ _ => rfl
  constructor
  · have hsum :=
      (execute_eq_sum_of_answers (Registry.lookup ⟨objects⟩) {} none halting happends q).1
    refine (hsum fun o ho e he => ?_).trans (congrArg Except.ok (by decide))
    have hkind : o.kind ≠ .constantDef := by
      clear he
      revert o
      decide
    exact Bool.eq_false_iff.2 fun hf => hkind (isFatal_of_halting he hf).1
  · have hfirst := (execute_eq_sum_of_answers
      (Registry.lookup ⟨objects ++ [placed .constantDef "E"]⟩) {} none halting happends q).2
    obtain ⟨before, o, after, e, hsplit, _, he, hf, houtcome⟩ :=
      hfirst ⟨placed .constantDef "E", by decide, _, rfl, rfl⟩
    obtain ⟨hkind, rfl⟩ := isFatal_of_halting he hf
    have hpath : ∀ p ∈ (objects ++ [placed .constantDef "E"]), p.kind = .constantDef →
        p.path = "E" := by decide
    have hmem : o ∈ objects ++ [placed .constantDef "E"] := by
      have : o ∈ before ++ o :: after := by simp
      rw [← hsplit] at this
      exact (List.mem_filter.1 (List.mem_filter.1 this).1).1
    rw [houtcome, hpath o hmem hkind]
    rfl

end Inquiry

end DocAudit

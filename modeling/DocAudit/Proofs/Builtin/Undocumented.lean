import DocAudit.Proofs.Builtin.ReportLine
import DocAudit.Proofs.Validator.InProcess

/-!
# Reports on undocumented objects are read back

The validator writes one line for each object without documentation, and the lines of all objects
are parsed from one text.  `parse_written` says that the text gives one record for each line that
was written, whatever files and paths are called, as long as they are on one line and not empty.
So nothing that the validator reports is lost, and nothing is counted twice.

What a record says is another question, since a file may look like a report line itself.
`parse_output_iff_legible` says when the record has the file, the line and the path that were
written.
-/

namespace DocAudit.Undocumented

open Pattern

/-! ## What is reported -/

/-- Whether an object is a method that is let off: an entry covers its name, or an entry cannot be
read. -/
def IsExempt (s : Settings) (o : CodeObject) : Prop :=
  o.kind = .methodDef ∧ isExcluded (methodName o.path) (excludedMethods s) ≠ .ok false

instance (s : Settings) : DecidablePred (IsExempt s) := fun o =>
  if hk : o.kind = .methodDef then
    match h : isExcluded (methodName o.path) (excludedMethods s) with
    | .ok false => .isFalse fun he => he.2 h
    | .ok true => .isTrue ⟨hk, fun e => by rw [h] at e; cases e⟩
    | .error _ => .isTrue ⟨hk, fun e => by rw [h] at e; cases e⟩
  else .isFalse fun he => hk he.1

def IsReported (s : Settings) (o : CodeObject) : Prop := o.isDocumented = false ∧ ¬IsExempt s o

instance (s : Settings) : DecidablePred (IsReported s) :=
  fun _ => inferInstanceAs (Decidable (_ ∧ _))

theorem onlyAppends_validator : validator.OnlyAppends :=
  Validator.onlyAppends_of_write query fun _ _ => rfl

theorem ownLines_validator (s : Settings) (o : CodeObject) :
    Inquiry.ownLines validator s o =
      if (query o s).error.isNone then (query o s).lines else [] :=
  Inquiry.ownLines_of_write query (fun _ _ => rfl) s o

theorem ownLines_of_reported {s : Settings} {o : CodeObject} (h : IsReported s o) :
    Inquiry.ownLines validator s o = [reportLine o] := by
  obtain ⟨hd, hexempt⟩ := h
  have hquery : query o s = { lines := [reportLine o] } := by
    by_cases hk : o.kind = .methodDef
    · have hx : isExcluded (methodName o.path) (excludedMethods s) = .ok false :=
        Classical.not_not.1 fun hx => hexempt ⟨hk, hx⟩
      simp [query, hd, hk, hx]
    · simp [query, hd, hk]
  simp [ownLines_validator, hquery]

theorem ownLines_of_not_reported {s : Settings} {o : CodeObject} (h : ¬IsReported s o) :
    Inquiry.ownLines validator s o = [] := by
  by_cases hd : o.isDocumented = true
  · simp [ownLines_validator, query, hd]
  · rw [Bool.not_eq_true] at hd
    obtain ⟨hk, hx⟩ : IsExempt s o := Classical.not_not.1 fun hexempt => h ⟨hd, hexempt⟩
    -- a pattern that cannot be read is an error, and then nothing is kept
    cases hresult : isExcluded (methodName o.path) (excludedMethods s) with
    | error e => simp [ownLines_validator, query, hd, hk, hresult]
    | ok covered =>
      cases covered with
      | false => exact absurd hresult hx
      | true => simp [ownLines_validator, query, hd, hk, hresult]

theorem isFatal_of_isExcluded {method : String} {e : QueryError} : ∀ {entries : List String},
    isExcluded method entries = .error e → e.isFatal = false
  | entry :: entries, h => by
    unfold isExcluded at h
    cases hentry : entryCovers method entry with
    | error e' =>
      rw [hentry] at h
      cases h
      unfold entryCovers at hentry
      split at hentry
      · split at hentry
        · cases hentry
        · cases hentry
          rfl
      · cases hentry
    | ok covered =>
      rw [hentry] at h
      cases covered with
      | true => cases h
      | false => exact isFatal_of_isExcluded h

/-- The validator never ends a run. -/
theorem isFatal_of_query {s : Settings} {o : CodeObject} {e : QueryError}
    (h : (query o s).error = some e) : e.isFatal = false := by
  unfold query at h
  split at h
  · cases h
  · split at h
    · split at h
      · rename_i hresult
        cases h
        exact isFatal_of_isExcluded hresult
      · cases h
      · cases h
    · cases h

theorem flatMap_ownLines (s : Settings) (os : List CodeObject) :
    os.flatMap (Inquiry.ownLines validator s) = (os.filter (IsReported s)).map reportLine := by
  induction os with
  | nil => rfl
  | cons o os ih =>
    rw [List.flatMap_cons, ih, List.filter_cons]
    by_cases h : IsReported s o
    · simp [h, ownLines_of_reported h]
    · simp [h, ownLines_of_not_reported h]

/-! ## Report lines -/

/-- Objects whose report has one line with something in each of its places. -/
structure Writable (o : CodeObject) : Prop where
  file : ∀ f, o.file = some f → f ≠ "" ∧ '\n' ∉ f.toList
  path_ne : o.path ≠ ""
  path : Text.IsLine o.path.toList

variable {o : CodeObject} {f : String} {n : Nat}

theorem Writable.path_ne_nil (h : Writable o) : o.path.toList ≠ [] :=
  fun hnil => h.path_ne (String.toList_eq_nil_iff.1 hnil)

theorem toList_reportLine (hf : o.file = some f) (hn : o.line = some n) :
    (reportLine o).toList =
      f.toList ++ ':' :: (Nat.toDigits 10 n ++ ':' :: ' ' :: o.path.toList) := by
  unfold reportLine
  simp [hf, hn, toString, Nat.toList_repr]

theorem noFeed_reportLine (hf : o.file = some f) (hn : o.line = some n) (hfile : '\n' ∉ f.toList)
    (hpath : '\n' ∉ o.path.toList) : '\n' ∉ (reportLine o).toList := by
  have hdigit : ∀ c ∈ Nat.toDigits 10 n, c.isDigit = true := fun c => Text.isDigit_of_mem_decimal
  rw [toList_reportLine hf hn]
  simp only [List.mem_append, List.mem_cons, not_or]
  exact ⟨hfile, by decide, fun hm => absurd (hdigit _ hm) (by decide), by decide, by decide, hpath⟩

theorem isLine_reportLine (hf : o.file = some f) (hn : o.line = some n) (h : Writable o) :
    Text.IsLine (reportLine o).toList := by
  constructor
  · exact noFeed_reportLine hf hn (h.file f hf).2 h.path.noFeed
  · rw [toList_reportLine hf hn]
    have hlast : (f.toList ++ ':' :: (Nat.toDigits 10 n ++ ':' :: ' ' :: o.path.toList)).getLast? =
        o.path.toList.getLast? := by
      obtain ⟨c, hc⟩ := Option.ne_none_iff_exists'.1 (mt List.getLast?_eq_none_iff.1 h.path_ne_nil)
      simp [List.getLast?_append, List.getLast?_cons, hc]
    rw [hlast]
    exact h.path.noReturn

theorem isSplit_reportLine (hf : o.file = some f) (hn : o.line = some n) (hne : f ≠ "") :
    IsSplit f.toList (Nat.toDigits 10 n) o.path.toList (reportLine o).toList := by
  refine ⟨toList_reportLine hf hn, fun hnil => hne (String.toList_eq_nil_iff.1 hnil),
    Nat.toDigits_ne_nil, fun c hc => ?_⟩
  exact Text.isDecimalDigit_of_isDigit (Text.isDigit_of_mem_decimal hc)

theorem isHeader_reportLine (hf : o.file = some f) (hn : o.line = some n) (h : Writable o) :
    Output.isHeader patterns (reportLine o) = true := by
  exact isHeader_iff.2 ⟨(isLine_reportLine hf hn h).noFeed, _, _, _,
    isSplit_reportLine hf hn (h.file f hf).1, h.path_ne_nil⟩

/-! ## All objects together -/

/-- **Every line that is written gives one record,** if the objects asked about have a place. -/
theorem parse_written (s : Settings) {os : List CodeObject}
    (hlocated : ∀ o ∈ os, Inquiry.isLocated o = true) (h : ∀ o ∈ os, Writable o) :
    parse (Collector.mk (os.flatMap (Inquiry.ownLines validator s))).text =
      (os.filter (IsReported s)).map fun o => Output.lineRecord patterns (reportLine o) := by
  have hplace : ∀ o ∈ os, (∃ f, o.file = some f) ∧ ∃ n, o.line = some n := by
    intro o ho
    have hl := hlocated o ho
    simpa [Inquiry.isLocated, Option.isSome_iff_exists] using hl
  have hline : ∀ l ∈ (os.filter (IsReported s)).map reportLine,
      Text.IsLine l.toList ∧ Output.isHeader patterns l = true := by
    intro l hl
    obtain ⟨o, ho, rfl⟩ := List.mem_map.1 hl
    have ho := (List.mem_filter.1 ho).1
    obtain ⟨⟨f, hf⟩, n, hn⟩ := hplace o ho
    exact ⟨isLine_reportLine hf hn (h o ho), isHeader_reportLine hf hn (h o ho)⟩
  unfold parse Output.oneLine
  rw [flatMap_ownLines, Text.lines_text fun l hl => (hline l hl).1,
    List.filter_eq_self.2 fun l hl => (hline l hl).2, List.map_map]
  rfl

/-! ## Records that say what was reported -/

/-- Objects whose report line can be read in one way only: there is no mark in the file. -/
structure Legible (o : CodeObject) : Prop extends Writable o where
  unmarked : ∀ f, o.file = some f → ∀ front digits back, ¬IsSplit front digits back f.toList

/-- An object without documentation that is not a method, and its place. -/
structure IsSubject (o : CodeObject) (f : String) (n : Nat) : Prop where
  undocumented : o.isDocumented = false
  kind : o.kind ≠ .methodDef
  file : o.file = some f
  line : o.line = some n
  count : n < Text.countLimit

/-- The record that says what is reported on an object. -/
def recordOf (o : CodeObject) : Record where
  message := some o.path
  location := o.file
  line := o.line

/-- What the validator writes about objects in turn. -/
def output (s : Settings) (os : List CodeObject) : String :=
  (Collector.mk (os.flatMap fun o => (query o s).lines)).text

theorem IsSubject.lines_query (h : IsSubject o f n) (s : Settings) :
    (query o s).lines = [reportLine o] := by
  simp [query, h.undocumented, h.kind]

theorem IsSubject.error_query (h : IsSubject o f n) (s : Settings) : (query o s).error = none := by
  simp [query, h.undocumented, h.kind]

theorem IsSubject.isReported (h : IsSubject o f n) (s : Settings) : IsReported s o :=
  ⟨h.undocumented, fun hexempt => h.kind hexempt.1⟩

theorem firstSplit_reportLine (hf : o.file = some f) (hn : o.line = some n) (h : Legible o)
    {ok : List Char → Prop} (hok : ok o.path.toList) :
    FirstSplit ok f.toList (Nat.toDigits 10 n) o.path.toList (reportLine o).toList := by
  refine ⟨isSplit_reportLine hf hn (h.file f hf).1, hok, fun {front digits back} hsplit _ => ?_⟩
  refine Nat.not_lt.1 fun hlt => ?_
  -- what comes after the colon behind the file is the line number
  have hnumber : (Nat.toDigits 10 n ++ ':' :: ' ' :: o.path.toList).head? ≠ some ' ' := by
    obtain ⟨d, ds, hds⟩ := List.exists_cons_of_ne_nil (Nat.toDigits_ne_nil (b := 10) (n := n))
    have hd : d.isDigit = true :=
      Text.isDigit_of_mem_decimal (hds ▸ List.mem_cons_self : d ∈ Nat.toDigits 10 n)
    rw [hds]
    rintro ⟨⟩
    exact absurd hd (by decide)
  rw [toList_reportLine hf hn] at hsplit
  obtain ⟨back', hfile⟩ := hsplit.of_append hlt hnumber
  exact h.unmarked f hf front digits back' hfile

/-- **A legible line is read as it was meant.** -/
theorem lineRecord_reportLine (hsubject : IsSubject o f n) (h : Legible o) :
    Output.lineRecord patterns (reportLine o) = recordOf o := by
  have hf := hsubject.file
  have hn := hsubject.line
  have hfeed := (isLine_reportLine hf hn h.toWritable).noFeed
  have hmessage := captured_message (firstSplit_reportLine hf hn h h.path_ne_nil) hfeed
  have hlocation := captured_location (firstSplit_reportLine hf hn h trivial) hfeed
  have hline := captured_line (firstSplit_reportLine hf hn h trivial) hfeed
  have hdigits : ∀ c ∈ Nat.toDigits 10 n, Text.isBlank c = false := fun c hc =>
    Text.isBlank_of_isDigit (Text.isDigit_of_mem_decimal hc)
  have hnumber : patterns.lineNumber? (reportLine o) PatternSet.line = some n := by
    unfold PatternSet.lineNumber?
    rw [hline, Option.bind_some, String.toList_ofList, Text.trimChars_of_not_blank hdigits,
      Text.readCountChars_toDigits hsubject.count]
  unfold Output.lineRecord recordOf
  rw [hmessage, hlocation, hnumber, hf, hn, String.ofList_toList, String.ofList_toList]

theorem parse_output_of_legible (s : Settings) {os : List CodeObject}
    (hsubject : ∀ o ∈ os, ∃ f n, IsSubject o f n) (h : ∀ o ∈ os, Legible o) :
    parse (output s os) = os.map recordOf := by
  have hreported : ∀ o ∈ os, IsReported s o := fun o ho =>
    have ⟨_, _, hs⟩ := hsubject o ho
    hs.isReported s
  have hlines : ∀ o ∈ os, (query o s).lines = Inquiry.ownLines validator s o := by
    intro o ho
    obtain ⟨f, n, hs⟩ := hsubject o ho
    rw [hs.lines_query, ownLines_of_reported (hs.isReported s)]
  have hlocated : ∀ o ∈ os, Inquiry.isLocated o = true := by
    intro o ho
    obtain ⟨f, n, hs⟩ := hsubject o ho
    simp [Inquiry.isLocated, hs.file, hs.line]
  have hrecord : ∀ o ∈ os, Output.lineRecord patterns (reportLine o) = recordOf o := by
    intro o ho
    obtain ⟨f, n, hs⟩ := hsubject o ho
    exact lineRecord_reportLine hs (h o ho)
  unfold output
  rw [List.flatMap_def, List.map_congr_left hlines, ← List.flatMap_def,
    parse_written s hlocated fun o ho => (h o ho).toWritable,
    List.filter_eq_self.2 fun o ho => decide_eq_true (hreported o ho), List.map_congr_left hrecord]

/-! ## Records that say something else -/

/-- A record that was read has its location from the first split of a line, and its message from
the first split with something behind it. -/
theorem exists_splits_of_mem_parse {text : String} {record : Record} (h : record ∈ parse text) :
    ∃ line ∈ Text.lines text, '\n' ∉ line.toList ∧
      (∃ front digits back, FirstSplit (fun _ => True) front digits back line.toList ∧
        record.location = some (String.ofList front)) ∧
      ∃ front digits back, FirstSplit (· ≠ []) front digits back line.toList ∧
        record.message = some (String.ofList back) := by
  obtain ⟨line, hline, rfl⟩ := List.mem_map.1 h
  obtain ⟨hmem, hheader⟩ := List.mem_filter.1 hline
  obtain ⟨hfeed, front, digits, back, hsplit, hback⟩ := isHeader_iff.1 hheader
  refine ⟨line, hmem, hfeed, ?_, ?_⟩
  · obtain ⟨front, digits, back, hfirst⟩ := exists_firstSplit (fun _ => True) hsplit trivial
    exact ⟨front, digits, back, hfirst, captured_location hfirst hfeed⟩
  · obtain ⟨front, digits, back, hfirst⟩ := exists_firstSplit (· ≠ []) hsplit hback
    exact ⟨front, digits, back, hfirst, captured_message hfirst hfeed⟩

/-- A path that is read where it was written does not end with a carriage return: the line would
have lost it. -/
theorem noReturn_of_isSplit (hf : o.file = some f) (hn : o.line = some n) {front digits : List Char}
    (h : IsSplit front digits o.path.toList (Text.chomp (reportLine o).toList)) :
    o.path.toList.getLast? ≠ some '\r' := by
  intro hreturn
  obtain ⟨path, hpath⟩ := List.getLast?_eq_some_iff.1 hreturn
  have hread : Text.chomp (reportLine o).toList =
      f.toList ++ ':' :: (Nat.toDigits 10 n ++ [':']) ++ ' ' :: path := by
    rw [toList_reportLine hf hn, hpath, ← Text.chomp_append_return (_ ++ ' ' :: path)]
    simp
  have hwritten : Text.chomp (reportLine o).toList =
      front ++ ':' :: (digits ++ [':', ' ']) ++ (path ++ ['\r']) := by
    rw [h.eq, hpath]
    simp
  have hsame : ' ' :: path = path ++ ['\r'] :=
    (List.append_inj' (hread.symm.trans hwritten) (by simp)).2
  -- one side has a blank more than the other
  have hcount := congrArg (List.count ' ') hsame
  simp at hcount

/-- **A line that is read as it was meant is legible.** -/
theorem legible_of_parse {s : Settings} (hsubject : IsSubject o f n)
    (hparse : parse (output s [o]) = [recordOf o]) : Legible o := by
  have hf := hsubject.file
  have hmem : recordOf o ∈ parse (output s [o]) := by
    rw [hparse]
    exact List.mem_singleton_self _
  obtain ⟨line, hline, hfeed, ⟨front, digits, back, hfirst, hlocation⟩,
    front', digits', back', hfirst', hmessage⟩ := exists_splits_of_mem_parse hmem
  have hfile : f.toList = front := by
    have heq : f = String.ofList front := Option.some.inj (hf.symm.trans hlocation)
    rw [heq, String.toList_ofList]
  have hpath : o.path.toList = back' := by
    have heq : o.path = String.ofList back' := Option.some.inj hmessage
    rw [heq, String.toList_ofList]
  subst hfile hpath
  have hfileFeed := hfirst.front_noFeed hfeed
  have hpathFeed := hfirst'.back_noFeed hfeed
  have hread : line.toList = Text.chomp (reportLine o).toList := by
    have hreport : ∀ l ∈ [reportLine o], '\n' ∉ l.toList := by
      intro l hl
      rw [List.mem_singleton.1 hl]
      exact noFeed_reportLine hf hsubject.line hfileFeed hpathFeed
    unfold output Collector.text at hline
    rw [List.flatMap_singleton, hsubject.lines_query, Text.lines_ofList hreport] at hline
    rw [List.mem_singleton.1 hline, String.toList_ofList]
  refine ⟨⟨?_, ?_, hpathFeed, ?_⟩, ?_⟩
  · intro f' hf'
    obtain rfl : f = f' := Option.some.inj (hf.symm.trans hf')
    exact ⟨fun hnil => hfirst.front_ne (String.toList_eq_nil_iff.2 hnil), hfileFeed⟩
  · exact fun hnil => hfirst'.accepted (String.toList_eq_nil_iff.2 hnil)
  · rw [hread] at hfirst'
    exact noReturn_of_isSplit hf hsubject.line hfirst'.toIsSplit
  · intro f' hf' earlier number later hsplit
    obtain rfl : f = f' := Option.some.inj (hf.symm.trans hf')
    -- a mark in the file comes before the one that was found
    have hle := hfirst.least (hfirst.eq ▸ hsplit.append _) trivial
    exact absurd hsplit.length_lt (Nat.not_lt.2 hle)

/-- **What is reported on an object is read back if and only if it is legible,** and what is
reported on legible objects in turn is read back in turn. -/
theorem parse_output_iff_legible (s : Settings) :
    (∀ o f n, IsSubject o f n → (query o s).error = none ∧
      (parse (output s [o]) = [{ message := some o.path, location := some f, line := some n }] ↔
        Legible o)) ∧
    ∀ os, (∀ o ∈ os, (∃ f n, IsSubject o f n) ∧ Legible o) →
      parse (output s os) = os.map recordOf := by
  constructor
  · intro o f n hsubject
    have hrecord : recordOf o = { message := some o.path, location := some f, line := some n } := by
      unfold recordOf
      rw [hsubject.file, hsubject.line]
    rw [← hrecord]
    refine ⟨hsubject.error_query s, legible_of_parse hsubject, fun h => ?_⟩
    refine parse_output_of_legible s (fun o' ho' => ?_) (fun o' ho' => ?_)
    · exact List.mem_singleton.1 ho' ▸ ⟨f, n, hsubject⟩
    · exact List.mem_singleton.1 ho' ▸ h
  · intro os h
    exact parse_output_of_legible s (fun o ho => (h o ho).1) fun o ho => (h o ho).2

/-- Colons, digits and a mark at its very start do no harm in a file, but a mark further behind
does. -/
theorem parse_output_iff_legible_marks :
    let s : Settings := { config := {}, name }
    let object file path : CodeObject :=
      { path, kind := .classDef, file := some file, line := some 7 }
    Legible (object ":1: x:2.rb" "Foo:3: ") ∧ ¬Legible (object "a:1: b.rb" "Foo") ∧
      ¬Legible (object "a.rb" "Foo\r") ∧
      parse (output s [object ":1: x:2.rb" "Foo:3: ", object "b.rb" "Bar"]) =
        [{ message := some "Foo:3: ", location := some ":1: x:2.rb", line := some 7 },
         { message := some "Bar", location := some "b.rb", line := some 7 }] := by
  intro s object
  have hsubject : ∀ file path, IsSubject (object file path) file 7 := fun file path =>
    ⟨rfl, nofun, rfl, rfl, by decide⟩
  have hread := fun file path =>
    ((parse_output_iff_legible s).1 (object file path) file 7 (hsubject file path)).2
  have hmark : Legible (object ":1: x:2.rb" "Foo:3: ") := (hread _ _).1 (by decide +kernel)
  have hplain : Legible (object "b.rb" "Bar") := (hread _ _).1 (by decide +kernel)
  refine ⟨hmark, mt (hread _ _).2 (by decide +kernel), mt (hread _ _).2 (by decide +kernel), ?_⟩
  refine (parse_output_iff_legible s).2 _ fun o ho => ?_
  obtain rfl | rfl : o = object ":1: x:2.rb" "Foo:3: " ∨ o = object "b.rb" "Bar" := by
    simpa using ho
  · exact ⟨⟨_, _, hsubject _ _⟩, hmark⟩
  · exact ⟨⟨_, _, hsubject _ _⟩, hplain⟩

end DocAudit.Undocumented

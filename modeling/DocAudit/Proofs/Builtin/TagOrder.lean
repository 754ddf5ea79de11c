import DocAudit.Builtin.TagOrder
import DocAudit.Proofs.Output.Block
import DocAudit.Proofs.Pattern.Backtrack
import DocAudit.Proofs.Text.ReadBack
import DocAudit.Proofs.Validator.InProcess

/-!
# Reports on the order of tags are read back

The validator writes a block of five lines for each object whose tags are out of order, and parses
the blocks of all objects from one text.  Titles and tag names are not under its control: they may
read like the header of a block.  `parse_collect` says that this costs the record of that object
and nothing else.
-/

namespace DocAudit.TagOrder

open Pattern

/-! ## Headers -/

/-- Whether a line reads as the first line of a report: some text, a colon and decimal digits. -/
def HeaderLike (line : String) : Prop :=
  ∃ front digits, line.toList = front ++ ':' :: digits ∧ front ≠ [] ∧ digits ≠ [] ∧
    ∀ c ∈ digits, Unicode.isDecimalDigit c = true

/-- The colon of a header is the last one of the line. -/
theorem headerLike_iff {line : String} :
    HeaderLike line ↔ (Text.splitLast? ':' line.toList).any (fun p =>
      !p.1.isEmpty && !p.2.isEmpty && p.2.all Unicode.isDecimalDigit) = true := by
  constructor
  · rintro ⟨front, digits, hline, hfront, hdigits, hall⟩
    rw [Text.splitLast?_eq_some_iff.2 ⟨hline, Text.colon_not_mem_decimal hall⟩]
    simpa [hfront, hdigits] using hall
  · intro h
    cases hsplit : Text.splitLast? ':' line.toList with
    | none => rw [hsplit] at h; cases h
    | some p =>
      rw [hsplit] at h
      simp only [Option.any_some, Bool.and_eq_true, Bool.not_eq_true', List.isEmpty_eq_false_iff,
        List.all_eq_true] at h
      exact ⟨p.1, p.2, (Text.splitLast?_eq_some_iff.1 hsplit).1, h.1.1, h.1.2, h.2⟩

instance : DecidablePred HeaderLike := fun _ => decidable_of_iff _ headerLike_iff.symm

/-- The pattern of headers, as it has been read. -/
def headerExpr : Expr :=
  .seq (.assert .textStart) (.seq (.repeated (.set .notFeed) 1 none true)
    (.seq (.literal [':']) (.seq (.repeated (.set digitSet) 1 none true) (.assert .textEnd))))

theorem patterns_eq : patterns = ⟨[(PatternSet.general, ⟨headerExpr⟩)]⟩ := rfl

/-- **On one line, the pattern matches what reads as a header.** -/
theorem isHeader_iff {line : String} (h : '\n' ∉ line.toList) :
    Output.isHeader patterns line = true ↔ HeaderLike line := by
  have hmatch : Output.isHeader patterns line = (search headerExpr line.toList).isSome := by
    rw [patterns_eq]
    rfl
  rw [hmatch, isSome_search_iff rfl rfl]
  unfold headerExpr
  simp only [mem_ways_seq, mem_ways_assert, mem_ways_repeated_set, mem_ways_literal]
  constructor
  · rintro ⟨s, hs, w, _, ⟨hstart, rfl⟩, u, ⟨front, hfront, _, hu⟩, v, hv, _,
      ⟨digits, hdigits, hall, hw⟩, hend, rfl⟩
    obtain ⟨before, rest, hline, rfl⟩ := mem_startStates_iff.1 hs
    have hbefore : before = [] := by simpa [Assertion.holds] using hstart
    have hnil : w.cursor.rest = [] := by simpa [Assertion.holds] using hend
    refine ⟨front, digits, ?_, ?_, ?_, ?_⟩
    · have hrest : rest = front ++ (':' :: (digits ++ w.cursor.rest)) := by
        rw [← State.rest_of_read? hw]
        have hcolon := State.rest_of_read? hv
        rw [List.singleton_append] at hcolon
        rw [← hcolon]
        exact State.rest_of_read? hu
      rw [hline, hbefore, hrest, hnil, List.nil_append, List.append_nil]
    · rintro rfl
      cases hfront
    · rintro rfl
      cases hdigits
    · intro c hc
      rw [← CharSet.contains_digitSet]
      exact hall c hc
  · rintro ⟨front, digits, hline, hfront, hdigits, hall⟩
    let s : State := ⟨⟨line.toList.length, none, line.toList⟩, []⟩
    obtain ⟨u, hu, hurest⟩ := State.exists_read? front (s := s) hline
    obtain ⟨v, hv, hvrest⟩ := State.exists_read? [':'] hurest
    obtain ⟨w, hw, hwrest⟩ := State.exists_read? digits
      (hvrest.trans (List.append_nil digits).symm)
    refine ⟨s, mem_startStates_iff.2 ⟨[], line.toList, rfl, rfl⟩, w, s, ⟨rfl, rfl⟩, u,
      ⟨front, ?_, ?_, hu⟩, v, hv, w, ⟨digits, ?_, ?_, hw⟩, ?_, rfl⟩
    · exact List.length_pos_iff.2 hfront
    · intro c hc
      rw [CharSet.contains_notFeed]
      rintro rfl
      exact h (hline ▸ List.mem_append_left _ hc)
    · exact List.length_pos_iff.2 hdigits
    · intro c hc
      rw [CharSet.contains_digitSet]
      exact hall c hc
    · simp [Assertion.holds, hwrest]

/-! ## Reports -/

/-- The lines of a report that come from the object and its tags: its path, the expected and the
actual order. -/
def payload (enforced : List String) (o : CodeObject) : List String :=
  [o.path, ",".intercalate (expected enforced o.tags), ",".intercalate (actual enforced o.tags)]

/-- Objects whose reports have the lines that were written: the object has a place, the file has a
name on one line, and so have the lines that are not under control. -/
structure Writable (enforced : List String) (o : CodeObject) : Prop where
  file : ∃ f, o.file = some f ∧ f ≠ "" ∧ '\n' ∉ f.toList
  line : ∃ n, o.line = some n ∧ n < Text.countLimit
  payload : ∀ l ∈ payload enforced o, Text.IsLine l.toList

/-- Whether the tags of an object are out of order. -/
def OutOfOrder (enforced : List String) (o : CodeObject) : Prop :=
  actual enforced o.tags ≠ expected enforced o.tags

instance (enforced : List String) : DecidablePred (OutOfOrder enforced) :=
  fun _ => inferInstanceAs (Decidable (¬_))

def report (enforced : List String) (o : CodeObject) : List String :=
  reportLines o (expected enforced o.tags) (actual enforced o.tags)

def recordOf (enforced : List String) (o : CodeObject) : Record where
  message := some o.path
  location := o.file
  line := o.line
  fields :=
    [("actual", ",".intercalate (actual enforced o.tags)),
     ("expected", ",".intercalate (expected enforced o.tags))]

variable {enforced : List String} {o : CodeObject}

theorem report_eq {f : String} {n : Nat} (hf : o.file = some f) (hn : o.line = some n) :
    report enforced o = String.ofList (f.toList ++ ':' :: Nat.toDigits 10 n) :: invalidStatus ::
      payload enforced o := by
  have hheader : s!"{f}:{n}" = String.ofList (f.toList ++ ':' :: Nat.toDigits 10 n) := by
    rw [← String.toList_inj]
    simp [toString, Nat.toList_repr]
  unfold report reportLines payload
  simp only [hf, hn, Option.getD_some, hheader]

theorem isLine_header {f : List Char} {n : Nat} (hf : '\n' ∉ f) :
    Text.IsLine (f ++ ':' :: Nat.toDigits 10 n) := by
  have hdigit : ∀ c ∈ Nat.toDigits 10 n, c.isDigit = true := fun c => Text.isDigit_of_mem_decimal
  constructor
  · intro hm
    rcases List.mem_append.1 hm with hm | hm
    · exact hf hm
    · rcases List.mem_cons.1 hm with hm | hm
      · cases hm
      · exact absurd (hdigit _ hm) (by decide)
  · intro hlast
    rw [List.getLast?_append, List.getLast?_cons] at hlast
    cases hd : (Nat.toDigits 10 n).getLast? with
    | none => exact Nat.toDigits_ne_nil (List.getLast?_eq_none_iff.1 hd)
    | some c =>
      rw [hd] at hlast
      cases hlast
      exact absurd (hdigit _ (List.mem_of_getLast? hd)) (by decide)

theorem isLine_of_mem_report (h : Writable enforced o) :
    ∀ l ∈ report enforced o, Text.IsLine l.toList := by
  obtain ⟨f, hf, _, hfeed⟩ := h.file
  obtain ⟨n, hn, _⟩ := h.line
  rw [report_eq hf hn]
  intro l hl
  rcases List.mem_cons.1 hl with rfl | hl
  · rw [String.toList_ofList]
    exact isLine_header hfeed
  · rcases List.mem_cons.1 hl with rfl | hl
    · exact ⟨by decide, by decide⟩
    · exact h.payload l hl

theorem isBlock_report (h : Writable enforced o) : layout.IsBlock (report enforced o) := by
  obtain ⟨f, hf, hne, hfeed⟩ := h.file
  obtain ⟨n, hn, _⟩ := h.line
  refine ⟨⟨_, _, report_eq hf hn, ?_⟩, rfl⟩
  have hline : '\n' ∉ (String.ofList (f.toList ++ ':' :: Nat.toDigits 10 n)).toList := by
    rw [String.toList_ofList]
    exact (isLine_header hfeed).noFeed
  refine (isHeader_iff hline).2 ⟨f.toList, Nat.toDigits 10 n, String.toList_ofList, ?_,
    Nat.toDigits_ne_nil, ?_⟩
  · exact fun hnil => hne (String.toList_eq_nil_iff.1 hnil)
  · exact fun c hc => Text.isDecimalDigit_of_isDigit (Text.isDigit_of_mem_decimal hc)

theorem build_report (h : Writable enforced o) :
    build (report enforced o) = some (recordOf enforced o) := by
  obtain ⟨f, hf, _, _⟩ := h.file
  obtain ⟨n, hn, hlimit⟩ := h.line
  have hsplit : Text.splitLast? ':' (f.toList ++ ':' :: Nat.toDigits 10 n) =
      some (f.toList, Nat.toDigits 10 n) :=
    Text.splitLast?_eq_some_iff.2 ⟨rfl, fun hm =>
      absurd (Text.isDigit_of_mem_decimal hm) (by decide)⟩
  rw [report_eq hf hn]
  unfold payload build
  simp only [if_pos, String.toList_ofList, hsplit, Option.bind_eq_bind, Option.bind_some,
    Text.readCountChars_toDigits hlimit]
  unfold recordOf
  rw [hf, hn, String.ofList_toList]
  rfl

theorem record?_report (h : Writable enforced o) :
    layout.record? (report enforced o) =
      if ∃ l ∈ payload enforced o, HeaderLike l then none else some (recordOf enforced o) := by
  obtain ⟨f, hf, _, _⟩ := h.file
  obtain ⟨n, hn, _⟩ := h.line
  have htail : (report enforced o).tail.any (Output.isHeader layout.patterns) = true ↔
      ∃ l ∈ payload enforced o, HeaderLike l := by
    rw [report_eq hf hn, List.tail_cons, List.any_eq_true]
    constructor
    · rintro ⟨l, hl, hheader⟩
      rcases List.mem_cons.1 hl with rfl | hl
      · exact absurd ((isHeader_iff (by decide)).1 hheader) (by decide)
      · exact ⟨l, hl, (isHeader_iff (h.payload l hl).noFeed).1 hheader⟩
    · rintro ⟨l, hl, hheader⟩
      exact ⟨l, List.mem_cons_of_mem _ hl, (isHeader_iff (h.payload l hl).noFeed).2 hheader⟩
  unfold Output.Block.record?
  by_cases hp : ∃ l ∈ payload enforced o, HeaderLike l
  · rw [if_pos hp, if_pos (htail.2 hp)]
  · rw [if_neg hp, if_neg (mt htail.1 hp)]
    exact build_report h

/-! ## All objects together -/

/-- What the collector holds after the validator has been asked about objects in turn. -/
def collect (s : Settings) (objects : List CodeObject) : Collector :=
  objects.foldl (fun c o => (query o s).lines.foldl Collector.puts c) {}

theorem lines_query (s : Settings) (o : CodeObject) :
    (query o s).lines =
      if OutOfOrder (enforcedOrder s) o then report (enforcedOrder s) o else [] := by
  unfold query OutOfOrder
  by_cases h : actual (enforcedOrder s) o.tags = expected (enforcedOrder s) o.tags
  · simp [h]
  · simp [h, report]

theorem lines_foldl_query (s : Settings) : ∀ (objects : List CodeObject) (c : Collector),
    (objects.foldl (fun c o => (query o s).lines.foldl Collector.puts c) c).lines =
      c.lines ++ objects.flatMap fun o => (query o s).lines
  | [], c => by simp
  | o :: objects, c => by
    rw [List.foldl_cons, lines_foldl_query s objects, Collector.foldl_puts, List.flatMap_cons,
      List.append_assoc]

theorem lines_collect (s : Settings) (objects : List CodeObject) :
    (collect s objects).lines =
      ((objects.filter fun o => OutOfOrder (enforcedOrder s) o).map
        (report (enforcedOrder s))).flatten := by
  unfold collect
  rw [lines_foldl_query, List.nil_append]
  induction objects with
  | nil => rfl
  | cons o objects ih =>
    rw [List.flatMap_cons, ih, lines_query, List.filter_cons]
    by_cases h : OutOfOrder (enforcedOrder s) o
    · simp [h]
    · simp [h]

theorem filterMap_record? {objects : List CodeObject} (h : ∀ o ∈ objects, Writable enforced o) :
    (objects.map (report enforced)).filterMap layout.record? =
      (objects.filter fun o => ∀ l ∈ payload enforced o, ¬HeaderLike l).map
        (recordOf enforced) := by
  induction objects with
  | nil => rfl
  | cons o objects ih =>
    have ih := ih fun p hp => h p (List.mem_cons_of_mem o hp)
    rw [List.map_cons, List.filterMap_cons, record?_report (h o List.mem_cons_self),
      List.filter_cons]
    by_cases hp : ∃ l ∈ payload enforced o, HeaderLike l
    · have hn : ¬∀ l ∈ payload enforced o, ¬HeaderLike l := by simpa using hp
      rw [if_pos hp, if_neg (by simpa using hn)]
      exact ih
    · have hn : ∀ l ∈ payload enforced o, ¬HeaderLike l := by simpa using hp
      rw [if_neg hp, if_pos (by simpa using hn), List.map_cons, ih]

theorem parse_text_collect {s : Settings} {objects : List CodeObject}
    (h : ∀ o ∈ objects, Writable (enforcedOrder s) o) :
    parse (collect s objects).text =
      ((objects.filter fun o => OutOfOrder (enforcedOrder s) o).map
        (report (enforcedOrder s))).filterMap layout.record? := by
  have hlines : Text.lines (collect s objects).text = (collect s objects).lines := by
    refine Text.lines_text fun l hl => ?_
    rw [lines_collect] at hl
    obtain ⟨block, hblock, hl⟩ := List.mem_flatten.1 hl
    obtain ⟨o, ho, rfl⟩ := List.mem_map.1 hblock
    exact isLine_of_mem_report (h o (List.mem_filter.1 ho).1) l hl
  unfold parse
  rw [Output.Block.read_eq, hlines, lines_collect, Output.Block.records_flatten]
  intro block hblock
  obtain ⟨o, ho, rfl⟩ := List.mem_map.1 hblock
  exact isBlock_report (h o (List.mem_filter.1 ho).1)

/-- **The records are those of the objects whose tags are out of order.**  An object gives exactly
one record, in its turn, with its place, its path and both orders, unless its path or one of the
orders reads like a header; then it gives none, and the records of the other objects are the same
as without it. -/
theorem parse_collect (s : Settings) (objects : List CodeObject)
    (h : ∀ o ∈ objects, Writable (enforcedOrder s) o) :
    parse (collect s objects).text =
      (objects.filter fun o => OutOfOrder (enforcedOrder s) o ∧
        ∀ l ∈ payload (enforcedOrder s) o, ¬HeaderLike l).map (recordOf (enforcedOrder s)) ∧
    (∀ before o after, objects = before ++ o :: after →
      (∃ l ∈ payload (enforcedOrder s) o, HeaderLike l) →
        parse (collect s objects).text = parse (collect s (before ++ after)).text) := by
  constructor
  · rw [parse_text_collect h, filterMap_record? fun o ho => h o (List.mem_filter.1 ho).1,
      List.filter_filter]
    simp only [Bool.decide_and, Bool.and_comm]
  · rintro before o after rfl hheader
    have hlost : layout.record? (report (enforcedOrder s) o) = none := by
      rw [record?_report (h o (List.mem_append_right _ List.mem_cons_self)), if_pos hheader]
    have hothers : ∀ p ∈ before ++ after, Writable (enforcedOrder s) p := by
      intro p hp
      rcases List.mem_append.1 hp with hp | hp
      · exact h p (List.mem_append_left _ hp)
      · exact h p (List.mem_append_right _ (List.mem_cons_of_mem o hp))
    rw [parse_text_collect h, parse_text_collect hothers]
    simp only [List.filter_append, List.map_append, List.filterMap_append, List.filter_cons]
    split
    · rw [List.map_cons, List.filterMap_cons_none hlost]
    · rfl

/-- A method with a result and a parameter, documented in this order. -/
def misordered (path : String) : CodeObject where
  path := path
  kind := .methodDef
  file := some "lib/a.rb"
  line := some 7
  tags := [{ name := "return" }, { name := "param" }]

/-- The method in the middle has a path like a header and is lost; its neighbours are not. -/
theorem parse_collect_keeps_neighbours :
    let s : Settings := ⟨{}, name⟩
    let record (path : String) : Record :=
      { message := some path
        location := some "lib/a.rb"
        line := some 7
        fields := [("actual", "return,param"), ("expected", "param,return")] }
    parse (collect s [misordered "A#x", misordered "b.rb:3", misordered "A#y"]).text =
      [record "A#x", record "A#y"] := by
  intro s record
  have hpayload : ∀ path, payload (enforcedOrder s) (misordered path) =
      [path, "param,return", "return,param"] := fun _ => rfl
  have hwritable : ∀ o ∈ [misordered "A#x", misordered "b.rb:3", misordered "A#y"],
      Writable (enforcedOrder s) o := by
    intro o ho
    have hpath : ∃ path, o = misordered path ∧ Text.IsLine path.toList := by
      simp only [List.mem_cons, List.not_mem_nil, or_false] at ho
      rcases ho with rfl | rfl | rfl <;> exact ⟨_, rfl, by decide, by decide⟩
    obtain ⟨path, rfl, hline⟩ := hpath
    refine ⟨⟨_, rfl, by decide, by decide⟩, ⟨_, rfl, by decide⟩, ?_⟩
    rw [hpayload]
    intro l hl
    simp only [List.mem_cons, List.not_mem_nil, or_false] at hl
    rcases hl with rfl | rfl | rfl
    · exact hline
    · exact ⟨by decide, by decide⟩
    · exact ⟨by decide, by decide⟩
  exact (parse_collect s _ hwritable).1.trans (by decide)

end DocAudit.TagOrder

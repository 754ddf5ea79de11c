import DocAudit.Output.Layout
import DocAudit.Proofs.Pattern.Capture

/-!
# Where the records of the two-line layout come from

Reading the two-line layout goes on by one line or by two, as the line after a header is another
header or not.  What it finds can be said header by header: the record of a header at line `i` has
its message from line `i` and its place from line `i + 1`, if that line is there and is not a header
itself.  A line that is passed over is not a header, so no header is lost.

* `pairRecords_eq_headerRecords`: reading gives the records of all headers, in order.
* `placeNumbers_pairwise`: no line is the place of two records.
-/

namespace DocAudit.Output

open PatternSet

variable {ps : PatternSet} {first second : String} {lines rest : List String} {i : Nat}

/-- The numbers of the lines that are headers. -/
def headers (ps : PatternSet) (lines : List String) : List Nat :=
  (List.range lines.length).filter fun i => lines[i]?.any (isHeader ps)

/-- The number of the line with the place of the header at line `i`: the next one, unless it is
missing or a header. -/
def placeNumber? (ps : PatternSet) (lines : List String) (i : Nat) : Option Nat :=
  if lines[i + 1]?.any fun l => !isHeader ps l then some (i + 1) else none

/-- The line with the place of the header at line `i`, empty if there is none. -/
def placeLine (ps : PatternSet) (lines : List String) (i : Nat) : String :=
  ((placeNumber? ps lines i).bind (lines[·]?)).getD ""

def headerRecord (ps : PatternSet) (lines : List String) (i : Nat) : Record where
  message := lines[i]?.bind (ps.lastCapture? · message)
  location := ps.lastCapture? (placeLine ps lines i) location
  line := some ((ps.lineNumber? (placeLine ps lines i) line).getD 0)

def headerRecords (ps : PatternSet) (lines : List String) : List Record :=
  (headers ps lines).map (headerRecord ps lines)

/-! ## Headers -/

theorem mem_headers : i ∈ headers ps lines ↔ ∃ l ∈ lines[i]?, isHeader ps l = true := by
  unfold headers
  rw [List.mem_filter, List.mem_range, Option.any_eq_true]
  refine and_iff_right_of_imp ?_
  rintro ⟨l, hl, _⟩
  exact (List.getElem?_eq_some_iff.1 hl).1

theorem headers_pairwise (ps : PatternSet) (lines : List String) :
    (headers ps lines).Pairwise (· < ·) := List.pairwise_lt_range.filter _

theorem headers_cons (ps : PatternSet) (first : String) (rest : List String) :
    headers ps (first :: rest) =
      (if isHeader ps first then [0] else []) ++ (headers ps rest).map (· + 1) := by
  unfold headers
  rw [List.length_cons, List.range_succ_eq_map, List.filter_cons, List.filter_map]
  have hsucc : (fun i => (first :: rest)[i]?.any (isHeader ps)) ∘ Nat.succ =
      fun i => rest[i]?.any (isHeader ps) := by
    funext i
    rw [Function.comp_apply, Nat.succ_eq_add_one, List.getElem?_cons_succ]
  rw [hsucc, List.getElem?_cons_zero, Option.any_some]
  split <;> rfl

theorem length_headers (ps : PatternSet) (lines : List String) :
    (headers ps lines).length = lines.countP (isHeader ps) := by
  induction lines with
  | nil => rfl
  | cons first rest ih =>
    rw [headers_cons, List.length_append, List.length_map, ih, List.countP_cons, Nat.add_comm]
    split <;> rfl

/-! ## Places -/

theorem placeNumber?_eq_some {n : Nat} (h : placeNumber? ps lines i = some n) : n = i + 1 := by
  unfold placeNumber? at h
  split at h
  · exact (Option.some.inj h).symm
  · cases h

/-- **No line is the place of two records.** -/
theorem placeNumbers_pairwise (ps : PatternSet) (lines : List String) :
    ((headers ps lines).filterMap (placeNumber? ps lines)).Pairwise (· < ·) := by
  rw [List.pairwise_filterMap]
  refine (headers_pairwise ps lines).imp fun {i j} hij m hm n hn => ?_
  rw [placeNumber?_eq_some hm, placeNumber?_eq_some hn]
  omega

theorem placeLine_cons_succ (ps : PatternSet) (first : String) (rest : List String) (i : Nat) :
    placeLine ps (first :: rest) (i + 1) = placeLine ps rest i := by
  unfold placeLine placeNumber?
  rw [List.getElem?_cons_succ]
  split <;> rfl

theorem placeLine_of_unplaced (h : lines[i + 1]?.all (isHeader ps) = true) :
    placeLine ps lines i = "" := by
  have hany : lines[i + 1]?.any (fun l => !isHeader ps l) = false := by
    cases hl : lines[i + 1]? with
    | none => rfl
    | some l => simpa [hl] using h
  unfold placeLine placeNumber?
  rw [hany]
  rfl

theorem placeLine_zero_of_place (h : isHeader ps second = false) :
    placeLine ps (first :: second :: rest) 0 = second := by
  simp [placeLine, placeNumber?, h]

/-! ## Reading -/

theorem headerRecord_zero (ps : PatternSet) (first : String) (rest : List String) :
    headerRecord ps (first :: rest) 0 =
      pairRecord ps first (placeLine ps (first :: rest) 0) := rfl

theorem headerRecords_cons (ps : PatternSet) (first : String) (rest : List String) :
    headerRecords ps (first :: rest) =
      (if isHeader ps first then [headerRecord ps (first :: rest) 0] else []) ++
        headerRecords ps rest := by
  have hsucc : headerRecord ps (first :: rest) ∘ (· + 1) = headerRecord ps rest := by
    funext i
    simp only [Function.comp_apply, headerRecord, List.getElem?_cons_succ, placeLine_cons_succ]
  unfold headerRecords
  rw [headers_cons, List.map_append, List.map_map, hsucc]
  split <;> rfl

theorem pairRecords_cons_of_not_header (h : isHeader ps first = false) (rest : List String) :
    pairRecords ps (first :: rest) = pairRecords ps rest := by
  cases rest <;> simp [pairRecords, h]

theorem headerRecords_cons_of_not_header (h : isHeader ps first = false) (rest : List String) :
    headerRecords ps (first :: rest) = headerRecords ps rest := by
  rw [headerRecords_cons, h]
  rfl

/-- **Reading finds every header and nothing else.**  The induction follows the jumps: a place line
that is passed over is not a header. -/
theorem pairRecords_eq_headerRecords (ps : PatternSet) (lines : List String) :
    pairRecords ps lines = headerRecords ps lines := by
  fun_induction pairRecords ps lines with
  | case1 => rfl
  | case2 first h =>
    rw [headerRecords_cons, if_pos h, headerRecord_zero, placeLine_of_unplaced rfl]
    rfl
  | case3 first h =>
    rw [headerRecords_cons, if_neg h]
    rfl
  | case4 first second rest h hsecond ih =>
    rw [ih, headerRecords_cons ps first, if_pos h, headerRecord_zero,
      placeLine_of_unplaced (by simpa using hsecond)]
    rfl
  | case5 first second rest h hsecond ih =>
    have hsecond : isHeader ps second = false := Bool.eq_false_iff.2 hsecond
    rw [ih, headerRecords_cons ps first, if_pos h, headerRecord_zero,
      placeLine_zero_of_place hsecond, headerRecords_cons_of_not_header hsecond]
    rfl
  | case6 first second rest h ih =>
    rw [ih, headerRecords_cons ps first, if_neg h]
    rfl

/-- A header without a place has line zero: the empty text has no line number, whatever the
patterns are. -/
theorem line_headerRecord_of_unplaced (h : lines[i + 1]?.all (isHeader ps) = true) :
    (headerRecord ps lines i).line = some 0 := by
  unfold headerRecord
  rw [placeLine_of_unplaced h, lineNumber?_empty]
  rfl

/-- **The two-line layout read as it is meant.**  Each header gives one record, in order, and
nothing else does.  Its message is captured in the header; its location and line are captured in
the next line, or in the empty text where that line is missing or a header.  There are as many
records as headers, no line is the place of two of them, and a header without a place has line
zero. -/
theorem twoLine_eq_records_of_headers (ps : PatternSet) (text : String) :
    let ls := Text.lines text
    twoLine ps text = (headers ps ls).map (fun i =>
      { message := ls[i]?.bind (ps.lastCapture? · message)
        location := ps.lastCapture? (placeLine ps ls i) location
        line := some ((ps.lineNumber? (placeLine ps ls i) line).getD 0)
        fields := [] }) ∧
      (∀ i, i ∈ headers ps ls ↔ ∃ l ∈ ls[i]?, isHeader ps l = true) ∧
      (headers ps ls).Pairwise (· < ·) ∧
      (twoLine ps text).length = ls.countP (isHeader ps) ∧
      ((headers ps ls).filterMap (placeNumber? ps ls)).Pairwise (· < ·) ∧
      ∀ k i : Nat, (headers ps ls)[k]? = some i → ls[i + 1]?.all (isHeader ps) = true →
        (twoLine ps text)[k]?.map Record.line = some (some 0) := by
  intro ls
  have hread : twoLine ps text = (headers ps ls).map (headerRecord ps ls) :=
    pairRecords_eq_headerRecords ps ls
  refine ⟨hread, fun i => mem_headers, headers_pairwise ps ls, ?_, placeNumbers_pairwise ps ls, ?_⟩
  · rw [hread, List.length_map, length_headers]
  · intro k i hk hunplaced
    rw [hread, List.getElem?_map, hk, Option.map_some, Option.map_some,
      line_headerRecord_of_unplaced hunplaced]

/-- A header that another header follows, one with a place, and one at the end of the text.  The
pattern of lines also matches the empty text. -/
theorem twoLine_eq_records_of_headers_unplaced :
    let ps := (PatternSet.compile [(general, "^!(.*)$"), (message, "^!(.*)$"),
      (location, "^in (.+):"), (line, "([0-9]*)$")]).toOption.getD {}
    let text := "!a\n!b\nin f:7\nin g:8\n!c\n"
    headers ps (Text.lines text) = [0, 1, 4] ∧
      twoLine ps text =
        [{ message := some "a", line := some 0 },
         { message := some "b", location := some "f", line := some 7 },
         { message := some "c", line := some 0 }] ∧
      (twoLine ps text)[0]?.map Record.line = some (some 0) ∧
      (twoLine ps text)[2]?.map Record.line = some (some 0) := by
  intro ps text
  have hheaders : headers ps (Text.lines text) = [0, 1, 4] := by decide +kernel
  obtain ⟨hread, _, _, _, _, hzero⟩ := twoLine_eq_records_of_headers ps text
  refine ⟨hheaders, ?_, hzero 0 0 (by rw [hheaders]; rfl) (by decide +kernel),
    hzero 2 4 (by rw [hheaders]; rfl) (by decide +kernel)⟩
  rw [hread, hheaders]
  decide +kernel

end DocAudit.Output

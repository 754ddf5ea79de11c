import DocAudit.Proofs.Output.Block

/-!
# Where the records of the block layout come from

Reading the block layout jumps: over one line, over a whole block, or from a broken block to the
header that interrupts it, and it ends early where too few lines are left.  What it finds can be
said without any of this.  A block starts at every line that is a header, has the lines of a whole
block, and is followed by no other header among them (`IsStart`).

* `startRecords_drop`: lines at which no block starts may be left out.
* `records_eq_startRecords`: reading gives the records of all starts, in order.
* `starts_pairwise`: blocks do not overlap.
-/

namespace DocAudit.Output.Block

variable {b : Block}

/-- A block starts at line `i`: the line is a header, the lines of a whole block are there, and
none of those after the first is a header. -/
structure IsStart (b : Block) (lines : List String) (i : Nat) : Prop where
  header : ∃ l ∈ lines[i]?, isHeader b.patterns l = true
  fits : i + b.length ≤ lines.length
  clear : ∀ l ∈ lines.extract (i + 1) (i + b.length), isHeader b.patterns l = false

theorem isStart_iff {lines : List String} {i : Nat} :
    b.IsStart lines i ↔ (∃ l ∈ lines[i]?, isHeader b.patterns l = true) ∧
      i + b.length ≤ lines.length ∧
      ∀ l ∈ lines.extract (i + 1) (i + b.length), isHeader b.patterns l = false :=
  ⟨fun h => ⟨h.header, h.fits, h.clear⟩, fun ⟨hh, hf, hc⟩ => ⟨hh, hf, hc⟩⟩

instance (b : Block) (lines : List String) : DecidablePred (b.IsStart lines) :=
  fun _ => decidable_of_iff _ isStart_iff.symm

/-- The numbers of the lines at which blocks start. -/
def starts (b : Block) (lines : List String) : List Nat :=
  (List.range lines.length).filter (b.IsStart lines)

/-- The records of the blocks that start somewhere. -/
def startRecords (b : Block) (lines : List String) : List Record :=
  (b.starts lines).filterMap fun i => b.build (lines.extract i (i + b.length))

/-! ## Starts -/

theorem isStart_cons_succ {first : String} {rest : List String} {i : Nat} :
    b.IsStart (first :: rest) (i + 1) ↔ b.IsStart rest i := by
  have hlen : i + 1 + b.length ≤ (first :: rest).length ↔ i + b.length ≤ rest.length := by
    simp only [List.length_cons]
    omega
  have hcount : i + 1 + b.length - (i + 1 + 1) = i + b.length - (i + 1) := by omega
  rw [isStart_iff, isStart_iff, hlen, List.getElem?_cons_succ]
  simp only [List.extract_eq_take_drop, List.drop_succ_cons, hcount]

theorem mem_starts {lines : List String} {i : Nat} : i ∈ b.starts lines ↔ b.IsStart lines i := by
  unfold starts
  rw [List.mem_filter, decide_eq_true_eq, List.mem_range, and_iff_right_iff_imp]
  intro h
  obtain ⟨l, hl, _⟩ := h.header
  exact (List.getElem?_eq_some_iff.1 hl).1

theorem starts_cons (first : String) (rest : List String) :
    b.starts (first :: rest) =
      (if b.IsStart (first :: rest) 0 then [0] else []) ++ (b.starts rest).map (· + 1) := by
  unfold starts
  rw [List.length_cons, List.range_succ_eq_map, List.filter_cons, List.filter_map]
  have hsucc : (fun i => decide (b.IsStart (first :: rest) i)) ∘ Nat.succ =
      fun i => decide (b.IsStart rest i) := by
    funext i
    simp only [Function.comp, Nat.succ_eq_add_one, isStart_cons_succ]
  rw [hsucc]
  by_cases h : b.IsStart (first :: rest) 0 <;> simp [h]

/-- **Blocks do not overlap**, because a block holds one header only. -/
theorem starts_pairwise (b : Block) (lines : List String) :
    (b.starts lines).Pairwise fun i j => i + b.length ≤ j := by
  have hsorted : (b.starts lines).Pairwise (· < ·) := List.pairwise_lt_range.filter _
  refine hsorted.imp_of_mem fun {i j} hi hj hlt => ?_
  have hi := mem_starts.1 hi
  obtain ⟨l, hl, hheader⟩ := (mem_starts.1 hj).header
  refine Nat.not_lt.1 fun hin => ?_
  have hinside : l ∈ lines.extract (i + 1) (i + b.length) := by
    refine List.mem_of_getElem? (i := j - (i + 1)) ?_
    rw [List.getElem?_take_of_lt (by omega), List.getElem?_drop]
    rw [← hl]
    congr 1
    omega
  rw [hi.clear l hinside] at hheader
  cases hheader

/-! ## Their records -/

theorem startRecords_cons (first : String) (rest : List String) :
    b.startRecords (first :: rest) =
      (if b.IsStart (first :: rest) 0 then (b.build ((first :: rest).take b.length)).toList
        else []) ++ b.startRecords rest := by
  unfold startRecords
  rw [starts_cons, List.filterMap_append, List.filterMap_map]
  congr 1
  · by_cases h : b.IsStart (first :: rest) 0
    · rw [if_pos h, if_pos h]
      cases hr : b.build ((first :: rest).take b.length) <;> simp [hr]
    · rw [if_neg h, if_neg h, List.filterMap_nil]
  · have hshift : (fun i => b.build ((first :: rest).extract i (i + b.length))) ∘ (· + 1) =
        fun i => b.build (rest.extract i (i + b.length)) := by
      funext i
      have hcount : i + 1 + b.length - (i + 1) = i + b.length - i := by omega
      simp only [Function.comp, List.extract_eq_take_drop, List.drop_succ_cons, hcount]
    rw [hshift]

/-- Lines at which no block starts may be left out. -/
theorem startRecords_drop : ∀ {k : Nat} {lines : List String},
    (∀ i < k, ¬b.IsStart lines i) → b.startRecords lines = b.startRecords (lines.drop k)
  | 0, _, _ => by rw [List.drop_zero]
  | k + 1, [], _ => by rw [List.drop_nil]
  | k + 1, first :: rest, h => by
    have hrest : ∀ i < k, ¬b.IsStart rest i := fun i hi hs =>
      h (i + 1) (by omega) (isStart_cons_succ.2 hs)
    rw [startRecords_cons, if_neg (h 0 (by omega)), List.nil_append, List.drop_succ_cons,
      startRecords_drop hrest]

theorem startRecords_of_short {lines : List String} (h : lines.length < b.length) :
    b.startRecords lines = [] := by
  have hnone : ∀ i < lines.length, ¬b.IsStart lines i := fun i _ hs => by
    have := hs.fits
    omega
  rw [startRecords_drop hnone, List.drop_length]
  rfl

/-! ## Reading -/

/-- No block starts among lines without a header. -/
theorem not_isStart_of_clear {lines : List String} {k : Nat}
    (h : ∀ l ∈ lines.take k, isHeader b.patterns l = false) : ∀ i < k, ¬b.IsStart lines i := by
  intro i hi hs
  obtain ⟨l, hl, hheader⟩ := hs.header
  have hmem : l ∈ lines.take k :=
    List.mem_of_getElem? ((List.getElem?_take_of_lt hi).trans hl)
  rw [h l hmem] at hheader
  cases hheader

theorem extract_zero_cons (first : String) (rest : List String) (n : Nat) :
    (first :: rest).extract (0 + 1) (0 + n) = rest.take (n - 1) := by
  simp only [List.extract_eq_take_drop, Nat.zero_add, List.drop_succ_cons, List.drop_zero]

/-- No block starts before the header that interrupts the first one. -/
theorem not_isStart_of_interrupted {first : String} {rest : List String} {i : Nat}
    (hi : (rest.take (b.length - 1)).findIdx? (isHeader b.patterns) = some i) :
    ∀ j < i + 1, ¬b.IsStart (first :: rest) j := by
  obtain ⟨hlt, hheader, hbefore⟩ := List.findIdx?_eq_some_iff_getElem.1 hi
  intro j hj hs
  cases j with
  | zero =>
    have hmem : (rest.take (b.length - 1))[i] ∈
        (first :: rest).extract (0 + 1) (0 + b.length) := by
      rw [extract_zero_cons]
      exact List.getElem_mem hlt
    rw [hs.clear _ hmem] at hheader
    cases hheader
  | succ j =>
    have hclear : ∀ l ∈ rest.take i, isHeader b.patterns l = false := by
      intro l hl
      obtain ⟨m, hm, rfl⟩ := List.mem_take_iff_getElem.1 hl
      have := hbefore m (by omega)
      rwa [List.getElem_take, Bool.not_eq_true] at this
    exact not_isStart_of_clear hclear j (by omega) (isStart_cons_succ.1 hs)

/-- A header with the further lines of a block behind it and no header among them is a start. -/
theorem isStart_zero {first : String} {rest : List String}
    (hfirst : isHeader b.patterns first = true) (hlen : b.length ≤ rest.length + 1)
    (hclear : ∀ l ∈ rest.take (b.length - 1), isHeader b.patterns l = false) :
    b.IsStart (first :: rest) 0 := by
  refine ⟨⟨first, rfl, hfirst⟩, by rw [List.length_cons]; omega, ?_⟩
  rw [extract_zero_cons]
  exact hclear

/-- **Reading finds every block and nothing else.**  The induction follows the jumps: each of them
passes over lines at which no block starts. -/
theorem records_eq_startRecords : ∀ lines : List String, b.records lines = b.startRecords lines
  | [] => by
    rw [records]
    rfl
  | first :: rest => by
    by_cases hfirst : isHeader b.patterns first = true
    · by_cases hlen : rest.length + 1 < b.length
      · have hlen' : (first :: rest).length < b.length := hlen
        rw [records_of_short hfirst hlen, startRecords_of_short hlen']
      · have hlong : b.length ≤ rest.length + 1 := Nat.not_lt.1 hlen
        cases hi : (rest.take (b.length - 1)).findIdx? (isHeader b.patterns) with
        | some i =>
          have hshort : (rest.drop i).length < (first :: rest).length := by
            simp only [List.length_drop, List.length_cons]
            omega
          rw [records_of_interrupted hfirst hlong hi,
            startRecords_drop (not_isStart_of_interrupted hi), List.drop_succ_cons,
            records_eq_startRecords (rest.drop i)]
        | none =>
          have hpos := b.length_pos
          have hclear := List.findIdx?_eq_none_iff.1 hi
          have hbody : (rest.take (b.length - 1)).length + 1 = b.length := by
            rw [List.length_take]
            omega
          have htake : (first :: rest).take b.length = first :: rest.take (b.length - 1) := by
            rw [List.take_cons hpos]
          have hshort : (rest.drop (b.length - 1)).length < (first :: rest).length := by
            simp only [List.length_drop, List.length_cons]
            omega
          have hread : b.records (first :: rest) =
              (b.build (first :: rest.take (b.length - 1))).toList ++
                b.records (rest.drop (b.length - 1)) := by
            rw [← records_of_complete hfirst hbody fun l hl => Bool.eq_false_iff.1 (hclear l hl),
              List.take_append_drop]
          rw [hread, startRecords_cons, if_pos (isStart_zero hfirst hlong hclear), htake,
            startRecords_drop (not_isStart_of_clear hclear),
            records_eq_startRecords (rest.drop (b.length - 1))]
    · have hnot : ¬b.IsStart (first :: rest) 0 := by
        rintro ⟨⟨l, hl, hheader⟩, _, _⟩
        cases hl
        exact hfirst hheader
      rw [records_cons_of_not_header hfirst, startRecords_cons, if_neg hnot, List.nil_append,
        records_eq_startRecords rest]
termination_by lines => lines.length

/-! ## Texts -/

/-- The number of the line after a block is a count if the number of lines and the length of a
block together are one. -/
theorem staysInRange_of_lt {text : String}
    (h : b.length + (Text.lines text).length < Text.countLimit) : b.staysInRange text = true := by
  unfold staysInRange
  rw [Option.all_eq_true]
  intro i hi
  have hlt := (List.findIdx?_eq_some_iff_getElem.1 hi).1
  rw [decide_eq_true_eq]
  omega

theorem length_extract_of_isStart {lines : List String} {i : Nat} (h : b.IsStart lines i) :
    (lines.extract i (i + b.length)).length = b.length := by
  have := h.fits
  rw [List.length_take, List.length_drop]
  omega

/-- **The block layout read as it is meant.**  Reading a text of lines `ls` by their numbers never
asks for one that is not there, and gives in order the records that `build` makes of the `n` lines
from `i` on, for exactly those `i` where a header stands, `n` lines are left, and no other header is
among them.  Blocks do not overlap. -/
theorem read?_eq_records_of_starts (patterns : PatternSet) (length : Nat)
    (build : List String → Option Record) (text : String)
    (h : max 1 length + (Text.lines text).length < Text.countLimit) :
    let b := Block.ofLength patterns length build
    let ls := Text.lines text
    let n := max 1 length
    b.read? text = some ((b.starts ls).filterMap fun i => build (ls.extract i (i + n))) ∧
      (∀ i, i ∈ b.starts ls ↔
        (∃ l ∈ ls[i]?, isHeader patterns l = true) ∧ i + n ≤ ls.length ∧
          ∀ l ∈ ls.extract (i + 1) (i + n), isHeader patterns l = false) ∧
      (b.starts ls).Pairwise (fun i j => i + n ≤ j) ∧
      ∀ i ∈ b.starts ls, (ls.extract i (i + n)).length = n := by
  intro b ls n
  refine ⟨?_, fun i => mem_starts.trans isStart_iff, b.starts_pairwise ls, fun i hi =>
    length_extract_of_isStart (mem_starts.1 hi)⟩
  unfold read?
  rw [if_pos (staysInRange_of_lt h), recordsFrom?_toArray, List.drop_zero, records_eq_startRecords]
  rfl

/-- Of three headers the first is interrupted by the second and the last has too few lines. -/
theorem read?_eq_records_of_starts_interrupted :
    let patterns := (PatternSet.compile [(PatternSet.general, "^!")]).toOption.getD {}
    let join : List String → Option Record := fun lines =>
      some { message := some (" ".intercalate lines) }
    (Block.ofLength patterns 3 join).read? "!a\nx\n!b\ny\nz\n!c\n" =
      some [{ message := some "!b y z" }] := by
  intro patterns join
  have hread := (read?_eq_records_of_starts patterns 3 join "!a\nx\n!b\ny\nz\n!c\n" (by decide)).1
  exact hread.trans (by decide)

end DocAudit.Output.Block

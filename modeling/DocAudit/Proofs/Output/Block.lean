import DocAudit.Output.Layout
import DocAudit.Proofs.Lists

/-!
# Blocks do not damage their neighbours

In the block layout reading goes on at the next header when a block turns out to be broken.  It
goes by line numbers, never leaves the text, and depends on nothing but the lines that are left:
`recordsFrom?_toArray` says so and leads to a recursion on these lines, `records`.

A part of a block is too short to be a block, so whatever headers its lines seem to be, reading gets
from it to the next block (`records_short_append`).  Hence the records of a sequence of blocks are
those of the blocks that no seeming header interrupts, and no others (`records_flatten`).
-/

namespace DocAudit.Output.Block

variable {b : Block}

/-- The records of the lines that are left. -/
def records (b : Block) : List String → List Record
  | [] => []
  | first :: rest =>
    if isHeader b.patterns first then
      if rest.length + 1 < b.length then []
      else
        let body := rest.take (b.length - 1)
        match body.findIdx? (isHeader b.patterns) with
        | some i => b.records (rest.drop i)
        | none => (b.build (first :: body)).toList ++ b.records (rest.drop (b.length - 1))
    else b.records rest
termination_by lines => lines.length
decreasing_by all_goals (simp only [List.length_drop, List.length_cons]; omega)

theorem slice?_toArray {lines : List String} {i j : Nat} (hij : i ≤ j) (hj : j ≤ lines.length) :
    slice? lines.toArray i j = some ((lines.drop i).take (j - i)).toArray := by
  unfold slice?
  rw [if_pos ⟨hij, hj⟩, List.extract_toArray]

/-- **Reading by line numbers stays inside the text.** -/
theorem recordsFrom?_toArray (b : Block) (lines : List String) (i : Nat) :
    b.recordsFrom? lines.toArray i = some (b.records (lines.drop i)) := by
  rw [recordsFrom?]
  by_cases hi : i < lines.length
  · have hdrop : lines.drop i = lines[i] :: lines.drop (i + 1) := List.drop_eq_getElem_cons hi
    have hline : lines.toArray[i]? = some lines[i] := by simp [hi]
    rw [dif_pos (by simpa using hi), hline, Option.bind_some, hdrop, records]
    by_cases hheader : isHeader b.patterns lines[i] = true
    · have hpos := b.length_pos
      have hleft : (lines.drop (i + 1)).length + 1 = lines.length - i := by
        rw [List.length_drop]
        omega
      rw [if_pos hheader, if_pos hheader, List.size_toArray, hleft]
      by_cases hshort : lines.length < i + b.length
      · rw [if_pos hshort, if_pos (by omega)]
      · -- the lines of the block are there, so neither slice is out of range
        have hblock : slice? lines.toArray i (i + b.length) =
            some (lines[i] :: (lines.drop (i + 1)).take (b.length - 1)).toArray := by
          rw [slice?_toArray (by omega) (by omega), hdrop, Nat.add_sub_cancel_left,
            List.take_cons hpos]
        have hbody (first : String) (body : List String) :
            slice? (first :: body).toArray 1 (first :: body).toArray.size =
              some body.toArray := by
          rw [slice?_toArray (by simp) (by simp)]
          simp
        rw [if_neg hshort, if_neg (by omega), hblock, Option.bind_some, hbody, Option.bind_some,
          List.findIdx?_toArray]
        simp only
        cases (List.take (b.length - 1) (lines.drop (i + 1))).findIdx? (isHeader b.patterns) with
        | some offset =>
          simp only
          rw [recordsFrom?_toArray b lines, List.drop_drop]
          congr 3
          omega
        | none =>
          simp only
          rw [recordsFrom?_toArray b lines, List.drop_drop, Option.map_some]
          congr 4
          omega
    · rw [if_neg hheader, if_neg hheader, recordsFrom?_toArray b lines]
  · rw [dif_neg (by simpa using hi), List.drop_eq_nil_of_le (Nat.not_lt.1 hi), records]
termination_by lines.length - i
decreasing_by
  · omega
  · have := b.length_pos
    omega
  · omega

theorem read_eq (b : Block) (text : String) : b.read text = b.records (Text.lines text) := by
  unfold read
  rw [recordsFrom?_toArray]
  rfl

theorem records_cons_of_not_header {first : String} {rest : List String}
    (h : ¬isHeader b.patterns first = true) : b.records (first :: rest) = b.records rest := by
  rw [records, if_neg h]

theorem records_of_short {first : String} {rest : List String}
    (h : isHeader b.patterns first = true) (hlen : rest.length + 1 < b.length) :
    b.records (first :: rest) = [] := by
  rw [records, if_pos h, if_pos hlen]

theorem records_of_interrupted {first : String} {rest : List String} {i : Nat}
    (h : isHeader b.patterns first = true) (hlen : b.length ≤ rest.length + 1)
    (hi : (rest.take (b.length - 1)).findIdx? (isHeader b.patterns) = some i) :
    b.records (first :: rest) = b.records (rest.drop i) := by
  rw [records, if_pos h, if_neg (Nat.not_lt.2 hlen)]
  simp only [hi]

theorem records_of_complete {first : String} {body rest : List String}
    (h : isHeader b.patterns first = true) (hlen : body.length + 1 = b.length)
    (hbody : ∀ l ∈ body, ¬isHeader b.patterns l = true) :
    b.records (first :: (body ++ rest)) =
      (b.build (first :: body)).toList ++ b.records rest := by
  have htake : (body ++ rest).take (b.length - 1) = body := List.take_left' (by omega)
  have hdrop : (body ++ rest).drop (b.length - 1) = rest := List.drop_left' (by omega)
  have hnone : body.findIdx? (isHeader b.patterns) = none := by
    rw [List.findIdx?_eq_none_iff]
    intro l hl
    exact Bool.eq_false_iff.2 (hbody l hl)
  have hlong : ¬(body ++ rest).length + 1 < b.length := by
    rw [List.length_append]
    omega
  rw [records, if_pos h, if_neg hlong]
  simp only [htake, hdrop, hnone]

/-- Whether lines start with a header, if there are any. -/
def StartsAtHeader (b : Block) (lines : List String) : Prop :=
  ∀ l ∈ lines.head?, isHeader b.patterns l = true

theorem records_of_startsAtHeader {lines : List String} (h : b.StartsAtHeader lines)
    (hlen : lines.length < b.length) : b.records lines = [] := by
  cases lines with
  | nil => rw [records]
  | cons first rest => exact records_of_short (h first rfl) hlen

/-- **A part of a block is left behind.**  Lines too few for a block give no record and do not
disturb what follows them. -/
theorem records_short_append {lines : List String} (h : b.StartsAtHeader lines) :
    ∀ part : List String, part.length < b.length → b.records (part ++ lines) = b.records lines
  | [], _ => rfl
  | first :: part, hpart => by
    rw [List.length_cons] at hpart
    rw [List.cons_append]
    by_cases hfirst : isHeader b.patterns first = true
    · by_cases hlen : (part ++ lines).length + 1 < b.length
      · rw [records_of_short hfirst hlen, records_of_startsAtHeader h]
        rw [List.length_append] at hlen
        omega
      · -- the block would reach into the next one, whose header interrupts it at the latest
        obtain ⟨next, rest, rfl⟩ : ∃ next rest, lines = next :: rest := by
          cases lines with
          | nil => rw [List.append_nil] at hlen; omega
          | cons next rest => exact ⟨next, rest, rfl⟩
        have hnext : isHeader b.patterns next = true := h next rfl
        have hbody : (part ++ next :: rest).take (b.length - 1) =
            part ++ next :: rest.take (b.length - 2 - part.length) := by
          have hn : b.length - 1 - part.length = (b.length - 2 - part.length) + 1 := by omega
          rw [List.take_append, List.take_of_length_le (by omega), hn, List.take_succ_cons]
        obtain ⟨i, hle, hi⟩ :=
          exists_findIdx?_le hnext part (rest.take (b.length - 2 - part.length))
        rw [← hbody] at hi
        rw [records_of_interrupted hfirst (Nat.not_lt.1 hlen) hi, List.drop_append_of_le_length hle]
        have hshort : (part.drop i).length < (first :: part).length := by
          rw [List.length_drop, List.length_cons]
          omega
        refine records_short_append h (part.drop i) ?_
        rw [List.length_drop]
        omega
    · rw [records_cons_of_not_header hfirst]
      exact records_short_append h part (by omega)
termination_by part => part.length

/-- The block as it is written: a header, and as many further lines as belong to it. -/
structure IsBlock (b : Block) (block : List String) : Prop where
  header : ∃ first body, block = first :: body ∧ isHeader b.patterns first = true
  length : block.length = b.length

/-- The record of a block, unless a line after the first seems to be a header. -/
def record? (b : Block) (block : List String) : Option Record :=
  if block.tail.any (isHeader b.patterns) then none else b.build block

theorem startsAtHeader_flatten : ∀ {blocks : List (List String)},
    (∀ block ∈ blocks, b.IsBlock block) → b.StartsAtHeader blocks.flatten
  | [], _ => fun l hl => by cases hl
  | block :: blocks, h => by
    obtain ⟨first, body, rfl, hfirst⟩ := (h block List.mem_cons_self).header
    intro l hl
    cases hl
    exact hfirst

/-- **Each block is read by itself.** -/
theorem records_flatten : ∀ {blocks : List (List String)}, (∀ block ∈ blocks, b.IsBlock block) →
    b.records blocks.flatten = blocks.filterMap b.record?
  | [], _ => by
    rw [List.flatten_nil, records]
    rfl
  | block :: blocks, h => by
    have hrest : ∀ c ∈ blocks, b.IsBlock c := fun c hc => h c (List.mem_cons_of_mem block hc)
    have hblock := h block List.mem_cons_self
    obtain ⟨first, body, rfl, hfirst⟩ := hblock.header
    have hlen : body.length + 1 = b.length := hblock.length
    rw [List.flatten_cons, List.cons_append, List.filterMap_cons, ← records_flatten hrest]
    by_cases hbody : body.any (isHeader b.patterns) = true
    · obtain ⟨i, hi⟩ := Option.isSome_iff_exists.1 (List.findIdx?_isSome ▸ hbody)
      have htake : (body ++ blocks.flatten).take (b.length - 1) = body := List.take_left' (by omega)
      have hilt : i < body.length := (List.findIdx?_eq_some_iff_getElem.1 hi).1
      have hnone : b.record? (first :: body) = none := if_pos hbody
      have hlong : b.length ≤ (body ++ blocks.flatten).length + 1 := by
        rw [List.length_append]
        omega
      have hshort : (body.drop i).length < b.length := by
        rw [List.length_drop]
        omega
      rw [records_of_interrupted hfirst hlong (by rw [htake]; exact hi),
        List.drop_append_of_le_length (Nat.le_of_lt hilt),
        records_short_append (startsAtHeader_flatten hrest) _ hshort, hnone]
    · have hclear : ∀ l ∈ body, ¬isHeader b.patterns l = true := fun l hl hh =>
        hbody (List.any_eq_true.2 ⟨l, hl, hh⟩)
      have hsome : b.record? (first :: body) = b.build (first :: body) := if_neg hbody
      rw [records_of_complete hfirst hlen hclear, hsome]
      cases b.build (first :: body) <;> rfl

end DocAudit.Output.Block

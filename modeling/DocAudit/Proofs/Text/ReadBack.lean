import DocAudit.Collector
import DocAudit.Text.Blank
import DocAudit.Text.Count
import DocAudit.Text.Lines
import DocAudit.Text.Split
import DocAudit.Unicode.Digit

/-!
# Texts that are read back

What is written line by line is read line by line: `lines_ofList` says which lines come back, and
`lines_text` that those of a collector do if none of them contains a line end or ends in a part of
one.  A count comes back from its decimal digits (`readCountChars_toDigits`), and two texts come
back from being joined by a separator that the second does not contain (`splitLast?_eq_some_iff`).
The parts of a text determine it (`splitChars_injective`), and so do its bytes
(`flatMap_utf8EncodeChar_injective`).
-/

namespace DocAudit.Text

/-! ## Lines -/

/-- A line that is not changed by being written and read. -/
structure IsLine (cs : List Char) : Prop where
  noFeed : '\n' ∉ cs
  noReturn : cs.getLast? ≠ some '\r'

theorem closeLine_reverse {cs : List Char} (h : cs.getLast? ≠ some '\r') :
    closeLine cs.reverse = cs := by
  unfold closeLine
  split
  · rename_i ds heq
    have hlast : cs.getLast? = some '\r' := by
      rw [← List.head?_reverse, heq, List.head?_cons]
    exact absurd hlast h
  · exact List.reverse_reverse cs

/-- A line that ends with characters of no line end. -/
theorem isLine_append {front back : List Char} (hfront : '\n' ∉ front) (hne : back ≠ [])
    (hback : ∀ c ∈ back, c ≠ '\n' ∧ c ≠ '\r') : IsLine (front ++ back) := by
  constructor
  · rw [List.mem_append, not_or]
    exact ⟨hfront, fun h => (hback _ h).1 rfl⟩
  · rw [List.getLast?_append, List.getLast?_eq_some_getLast hne, Option.some_or]
    intro h
    exact (hback _ (List.getLast_mem hne)).2 (Option.some.inj h)

theorem linesFrom_append_feed (rest : List Char) : ∀ {cs : List Char} (seen : List Char),
    '\n' ∉ cs → linesFrom seen (cs ++ '\n' :: rest) =
      closeLine (cs.reverse ++ seen) :: linesFrom [] rest
  | [], seen, _ => by
    rw [List.nil_append, linesFrom, if_pos rfl]
    rfl
  | c :: cs, seen, h => by
    rw [List.mem_cons, not_or] at h
    rw [List.cons_append, linesFrom, if_neg (Ne.symm h.1),
      linesFrom_append_feed rest (c :: seen) h.2, List.reverse_cons, List.append_assoc,
      List.singleton_append]

/-- What is read of a line that has been written: it loses a carriage return at its end. -/
def chomp (cs : List Char) : List Char := closeLine cs.reverse

theorem chomp_of_isLine {cs : List Char} (h : IsLine cs) : chomp cs = cs :=
  closeLine_reverse h.noReturn

theorem chomp_append_return (cs : List Char) : chomp (cs ++ ['\r']) = cs := by
  unfold chomp
  rw [List.reverse_append]
  exact List.reverse_reverse cs

theorem chomp_prefix (cs : List Char) : chomp cs <+: cs := by
  unfold chomp closeLine
  split
  · rename_i ds heq
    refine ⟨['\r'], ?_⟩
    rw [← List.reverse_cons, ← heq, List.reverse_reverse]
  · refine ⟨[], ?_⟩
    rw [List.append_nil, List.reverse_reverse]

theorem linesFrom_flatMap : ∀ {ls : List (List Char)}, (∀ cs ∈ ls, '\n' ∉ cs) →
    linesFrom [] (ls.flatMap fun cs => cs ++ ['\n']) = ls.map chomp
  | [], _ => rfl
  | cs :: ls, h => by
    have ih := linesFrom_flatMap fun ds hds => h ds (List.mem_cons_of_mem cs hds)
    rw [List.flatMap_cons, List.append_assoc, List.singleton_append,
      linesFrom_append_feed _ [] (h cs List.mem_cons_self), List.append_nil, ih]
    rfl

/-- **Lines that are written are read, each without a carriage return at its end.** -/
theorem lines_ofList {ls : List String} (h : ∀ l ∈ ls, '\n' ∉ l.toList) :
    lines (String.ofList (ls.flatMap fun l => l.toList ++ ['\n'])) =
      ls.map fun l => String.ofList (chomp l.toList) := by
  have hlists : ∀ cs ∈ ls.map String.toList, '\n' ∉ cs := by
    intro cs hcs
    obtain ⟨l, hl, rfl⟩ := List.mem_map.1 hcs
    exact h l hl
  have hflat : (ls.flatMap fun l => l.toList ++ ['\n']) =
      (ls.map String.toList).flatMap fun cs => cs ++ ['\n'] := by
    rw [List.flatMap_map]
  unfold lines
  rw [String.toList_ofList, hflat, linesFrom_flatMap hlists, List.map_map, List.map_map]
  rfl

/-- **Collected lines are read back.** -/
theorem lines_text {c : Collector} (h : ∀ l ∈ c.lines, IsLine l.toList) :
    lines c.text = c.lines := by
  unfold Collector.text
  rw [lines_ofList fun l hl => (h l hl).noFeed]
  have hsame : ∀ l ∈ c.lines, String.ofList (chomp l.toList) = id l := by
    intro l hl
    rw [chomp_of_isLine (h l hl), String.ofList_toList, id]
  rw [List.map_congr_left hsame, List.map_id]

/-! ## Counts -/

theorem toNat_of_isDigit {c : Char} (h : c.isDigit = true) : 48 ≤ c.toNat ∧ c.toNat ≤ 57 := by
  simp only [Char.isDigit, Bool.and_eq_true, decide_eq_true_eq] at h
  exact ⟨h.1, h.2⟩

theorem digitValue?_of_isDigit {c : Char} (h : c.isDigit = true) :
    digitValue? c = some (c.toNat - 48) := by
  have hrange : '0' ≤ c ∧ c ≤ '9' := by
    simp only [Char.isDigit, Bool.and_eq_true, decide_eq_true_eq] at h
    exact ⟨h.1, h.2⟩
  rw [digitValue?, if_pos hrange]

theorem readDigits_eq_ofDigitChars : ∀ {cs : List Char} (acc : Nat),
    (∀ c ∈ cs, c.isDigit = true) → readDigits acc cs = some (Nat.ofDigitChars 10 cs acc)
  | [], _, _ => rfl
  | c :: cs, acc, h => by
    rw [readDigits, digitValue?_of_isDigit (h c List.mem_cons_self)]
    exact readDigits_eq_ofDigitChars _ fun d hd => h d (List.mem_cons_of_mem c hd)

theorem isDigit_of_mem_decimal {n : Nat} {c : Char} (h : c ∈ Nat.toDigits 10 n) :
    c.isDigit = true :=
  Nat.isDigit_of_mem_toDigits (by decide) (by decide) h

/-- A number that is not zero is written without a zero in front. -/
theorem exists_toDigits_eq_cons {n : Nat} (h : 0 < n) :
    ∃ d ds, Nat.toDigits 10 n = d :: ds ∧ d ≠ '0' := by
  have hdigit : ∀ m < 10, 0 < m → m.digitChar ≠ '0' := by decide
  induction n using Nat.strongRecOn with
  | _ n ih =>
    by_cases hn : n < 10
    · rw [Nat.toDigits_of_lt_base hn]
      exact ⟨_, [], rfl, hdigit n hn h⟩
    · obtain ⟨d, ds, hds, hd⟩ := ih (n / 10) (by omega) (by omega)
      rw [Nat.toDigits_of_base_le (by decide) (by omega), hds]
      exact ⟨d, _, rfl, hd⟩

theorem unsigned_of_isDigit {cs : List Char} (h : ∀ c ∈ cs, c.isDigit = true) :
    unsigned cs = cs := by
  unfold unsigned
  split
  · exact absurd (h '+' List.mem_cons_self) (by decide)
  · rfl

/-- **A count is read back from its decimal digits.** -/
theorem readCountChars_toDigits {n : Nat} (h : n < countLimit) :
    readCountChars (Nat.toDigits 10 n) = some n := by
  have hdigits : ∀ c ∈ Nat.toDigits 10 n, c.isDigit = true := fun c => isDigit_of_mem_decimal
  unfold readCountChars
  rw [unsigned_of_isDigit hdigits]
  split
  · rename_i heq
    exact absurd heq Nat.toDigits_ne_nil
  · rw [readDigits_eq_ofDigitChars 0 hdigits,
      Nat.ofDigitChars_toDigits (by decide) (by decide)]
    simp [h]

theorem colon_not_mem_decimal {digits : List Char}
    (h : ∀ c ∈ digits, Unicode.isDecimalDigit c = true) : ':' ∉ digits :=
  fun hm => absurd (h ':' hm) (by decide)

theorem isDecimalDigit_of_isDigit {c : Char} (h : c.isDigit = true) :
    Unicode.isDecimalDigit c = true := by
  have hrange := toNat_of_isDigit h
  unfold Unicode.isDecimalDigit
  rw [List.any_eq_true]
  exact ⟨(0x30, 0x39), by decide, by simp [hrange]⟩

/-! ## Trimming -/

theorem isBlank_of_isDigit {c : Char} (h : c.isDigit = true) : isBlank c = false := by
  have hrange := toNat_of_isDigit h
  have houtside : ∀ r ∈ blankRanges, r.2 < 48 ∨ 57 < r.1 := by decide
  unfold isBlank
  rw [List.any_eq_false]
  intro r hr
  have := houtside r hr
  simp only [Bool.and_eq_true, decide_eq_true_eq]
  omega

theorem trimChars_of_not_blank {cs : List Char} (h : ∀ c ∈ cs, isBlank c = false) :
    trimChars cs = cs := by
  have hkeep : ∀ ds : List Char, (∀ c ∈ ds, isBlank c = false) → ds.dropWhile isBlank = ds := by
    intro ds hds
    cases ds with
    | nil => rfl
    | cons d ds => rw [List.dropWhile_cons_of_neg (by simp [hds d List.mem_cons_self])]
  unfold trimChars
  rw [hkeep cs h, hkeep cs.reverse fun c hc => h c (List.mem_reverse.1 hc), List.reverse_reverse]

/-! ## Splitting -/

theorem splitLast?_eq_some_iff {sep : Char} {cs front back : List Char} :
    splitLast? sep cs = some (front, back) ↔ cs = front ++ sep :: back ∧ sep ∉ back := by
  unfold splitLast?
  simp only
  constructor
  · intro h
    split at h
    · rename_i c before heq
      cases h
      have hsep : c = sep := by
        have := List.head?_dropWhile_not (· ≠ sep) cs.reverse
        rw [heq] at this
        simpa using this
      have hsplit := List.takeWhile_append_dropWhile (p := (· ≠ sep)) (l := cs.reverse)
      rw [heq, hsep] at hsplit
      have hnone := List.all_takeWhile (p := (· ≠ sep)) (l := cs.reverse)
      refine ⟨?_, ?_⟩
      · have hcs := congrArg List.reverse hsplit
        rw [List.reverse_append, List.reverse_reverse, List.reverse_cons, List.append_assoc,
          List.singleton_append] at hcs
        exact hcs.symm
      · intro hm
        have := List.all_eq_true.1 hnone sep (List.mem_reverse.1 hm)
        simp at this
    · cases h
  · rintro ⟨rfl, hm⟩
    have hback : ∀ c ∈ back.reverse, decide (c ≠ sep) = true := by
      intro c hc
      rw [decide_eq_true_eq]
      rintro rfl
      exact hm (List.mem_reverse.1 hc)
    have hrev : (front ++ sep :: back).reverse = back.reverse ++ sep :: front.reverse := by simp
    rw [hrev, List.dropWhile_append_of_pos hback, List.takeWhile_append_of_pos hback,
      List.dropWhile_cons_of_neg (by simp), List.takeWhile_cons_of_neg (by simp)]
    simp

theorem splitChars_append_sep (sep : Char) (ys : List Char) : ∀ (part xs : List Char),
    splitChars sep part (xs ++ sep :: ys) = splitChars sep part xs ++ splitChars sep [] ys
  | part, [] => by simp [splitChars]
  | part, x :: xs => by
    rw [List.cons_append, splitChars, splitChars]
    split
    · rw [splitChars_append_sep sep ys [] xs, List.cons_append]
    · rw [splitChars_append_sep sep ys (x :: part) xs]

theorem splitChars_ne_nil (sep : Char) : ∀ part xs : List Char, splitChars sep part xs ≠ []
  | part, [] => by simp [splitChars]
  | part, x :: xs => by
    rw [splitChars]
    split
    · simp
    · exact splitChars_ne_nil sep (x :: part) xs

/-- The parts with separators between them are the text again. -/
theorem intercalate_splitChars (sep : Char) : ∀ part xs : List Char,
    [sep].intercalate (splitChars sep part xs) = part.reverse ++ xs
  | part, [] => by simp [splitChars]
  | part, x :: xs => by
    rw [splitChars]
    split
    · rename_i hx
      rw [List.intercalate_cons_of_ne_nil (splitChars_ne_nil sep [] xs),
        intercalate_splitChars sep [] xs, hx]
      simp
    · rw [intercalate_splitChars sep (x :: part) xs]
      simp

theorem splitChars_injective {sep : Char} {xs ys : List Char}
    (h : splitChars sep [] xs = splitChars sep [] ys) : xs = ys := by
  have hjoin := congrArg [sep].intercalate h
  simpa only [intercalate_splitChars, List.reverse_nil, List.nil_append] using hjoin

theorem splitChars_of_not_mem {sep : Char} : ∀ {xs : List Char} (part : List Char),
    sep ∉ xs → splitChars sep part xs = [part.reverse ++ xs]
  | [], part, _ => by simp [splitChars]
  | x :: xs, part, h => by
    rw [List.mem_cons, not_or] at h
    rw [splitChars, if_neg (Ne.symm h.1), splitChars_of_not_mem (x :: part) h.2]
    simp

theorem split_of_not_mem {sep : Char} {s : String} (h : sep ∉ s.toList) : split sep s = [s] := by
  unfold split
  rw [splitChars_of_not_mem [] h]
  simp

/-! ## Bytes -/

/-- **A text is determined by its bytes.** -/
theorem flatMap_utf8EncodeChar_injective {xs ys : List Char}
    (h : xs.flatMap String.utf8EncodeChar = ys.flatMap String.utf8EncodeChar) : xs = ys := by
  have hbytes : (String.ofList xs).toByteArray = (String.ofList ys).toByteArray := by
    rw [String.toByteArray_ofList, String.toByteArray_ofList, List.utf8Encode, List.utf8Encode, h]
  exact String.ofList_injective (String.toByteArray_inj.1 hbytes)

end DocAudit.Text

import DocAudit.Pattern.Match

/-!
# States on a text

All states of a search lie on the text that is searched: `State.On` says that a state has a part
of the text before it and the rest after it.  On a text the number of characters after a position
is enough to know the position (`On.cursor_eq`), which is why sets of positions can stand for sets
of states.

Reading characters is the same as having them next (`rest_of_read?`, `exists_read?`), so that a
match can be described by the characters that it takes up.
-/

namespace DocAudit

/-! ## Sets of characters -/

theorem Unicode.isIn_iff {n : Nat} : ∀ {rs : List (Nat × Nat)},
    rs.Pairwise (fun r s => r.1 ≤ s.1) → (isIn rs n = true ↔ ∃ r ∈ rs, r.1 ≤ n ∧ n ≤ r.2)
  | [], _ => by simp [isIn]
  | r :: rs, h => by
    obtain ⟨hr, hrs⟩ := List.pairwise_cons.1 h
    unfold isIn
    split
    · refine ⟨fun e => (by cases e), ?_⟩
      rintro ⟨s, hs, hlow, _⟩
      rcases List.mem_cons.1 hs with rfl | hs
      · omega
      · have := hr s hs
        omega
    · split
      · exact ⟨fun _ => ⟨r, List.mem_cons_self, by omega, by omega⟩, fun _ => rfl⟩
      · rw [isIn_iff hrs]
        constructor
        · rintro ⟨s, hs, hin⟩
          exact ⟨s, List.mem_cons_of_mem r hs, hin⟩
        · rintro ⟨s, hs, hin⟩
          rcases List.mem_cons.1 hs with rfl | hs
          · omega
          · exact ⟨s, hs, hin⟩

namespace Pattern

@[simp] theorem CharSet.contains_single {c d : Char} :
    (CharSet.single c).contains d = true ↔ c = d := by
  unfold contains single
  rw [Unicode.isIn_iff (List.pairwise_singleton _ _)]
  simp only [List.mem_singleton, exists_eq_left]
  constructor
  · intro h
    exact Char.toNat_inj.1 (Nat.le_antisymm h.1 h.2)
  · rintro rfl
    exact ⟨Nat.le_refl _, Nat.le_refl _⟩

theorem CharSet.contains_eq_any {k : CharSet} (h : k.ranges.Pairwise fun r s => r.1 ≤ s.1)
    (c : Char) : k.contains c = k.ranges.any fun r => r.1 ≤ c.toNat && c.toNat ≤ r.2 := by
  rw [Bool.eq_iff_iff]
  unfold contains
  rw [Unicode.isIn_iff h]
  simp

theorem CharSet.contains_digitSet {c : Char} :
    digitSet.contains c = Unicode.isDecimalDigit c := by
  have hsorted : digitSet.ranges.Pairwise (fun r s => r.1 ≤ s.1) := by decide
  exact contains_eq_any hsorted c

theorem CharSet.contains_blankSet (c : Char) : blankSet.contains c = Text.isBlank c := by
  have hsorted : blankSet.ranges.Pairwise (fun r s => r.1 ≤ s.1) := by decide
  exact contains_eq_any hsorted c

theorem CharSet.lt_iff_codeAfter_le (c : Char) (n : Nat) :
    n < c.toNat ↔ codeAfter n ≤ c.toNat := by
  have hvalid : c.toNat < 0xD800 ∨ 0xDFFF < c.toNat ∧ c.toNat < 0x110000 := c.valid
  unfold codeAfter
  split <;> omega

theorem CharSet.lt_iff_le_codeBefore (c : Char) {n : Nat} (hn : 0 < n) :
    c.toNat < n ↔ c.toNat ≤ codeBefore n := by
  have hvalid : c.toNat < 0xD800 ∨ 0xDFFF < c.toNat ∧ c.toNat < 0x110000 := c.valid
  unfold codeBefore
  split <;> omega

theorem CharSet.toNat_le_lastCode (c : Char) : c.toNat ≤ lastCode := by
  have hvalid : c.toNat < 0xD800 ∨ 0xDFFF < c.toNat ∧ c.toNat < 0x110000 := c.valid
  unfold lastCode
  omega

/-- There is a character after the first range and before the second.  Ranges on the two sides of
the code points that are no characters need not be so. -/
def CharSet.Apart (r s : Nat × Nat) : Prop := codeAfter r.2 ≤ codeBefore s.1

instance : DecidableRel CharSet.Apart := fun r s =>
  Nat.decLe (CharSet.codeAfter r.2) (CharSet.codeBefore s.1)

theorem CharSet.Apart.pos {r s : Nat × Nat} (h : Apart r s) : 0 < s.1 := by
  unfold Apart codeAfter codeBefore at h
  split at h <;> split at h <;> omega

theorem CharSet.isIn_gapsAfter (c : Char) : ∀ {rs : List (Nat × Nat)} {r : Nat × Nat},
    (r :: rs).Pairwise Apart →
      (Unicode.isIn (gapsAfter r.2 rs) c.toNat = true ↔
        r.2 < c.toNat ∧ Unicode.isIn rs c.toNat = false)
  | [], r, _ => by
    have hlast := toNat_le_lastCode c
    have hafter := lt_iff_codeAfter_le c r.2
    unfold gapsAfter
    split <;> simp only [Unicode.isIn] <;> grind
  | s :: rs, r, h => by
    obtain ⟨hr, hrs⟩ := List.pairwise_cons.1 h
    have hapart : Apart r s := hr s List.mem_cons_self
    have ih := isIn_gapsAfter c hrs
    have hafter := lt_iff_codeAfter_le c r.2
    have hbefore := lt_iff_le_codeBefore c hapart.pos
    have hgap : rangeBetween (codeAfter r.2) (codeBefore s.1) =
        (codeAfter r.2, codeBefore s.1) := by
      unfold rangeBetween
      rw [Nat.min_eq_left hapart, Nat.max_eq_right hapart]
    unfold Apart at hapart
    rw [gapsAfter, hgap, Unicode.isIn, Unicode.isIn]
    grind

/-- **The complement has the characters that the set has not.** -/
theorem CharSet.contains_compl {k : CharSet} (h : k.ranges.Pairwise Apart) (c : Char) :
    k.compl.contains c = !k.contains c := by
  have hlast := toNat_le_lastCode c
  unfold compl contains
  cases hk : k.ranges with
  | nil => simp [all, Unicode.isIn, hlast]
  | cons r rs =>
    rw [hk] at h
    have hgaps := isIn_gapsAfter c h
    rw [Bool.eq_iff_iff, Unicode.isIn]
    by_cases hpos : 0 < r.1
    · have hbefore := lt_iff_le_codeBefore c hpos
      simp only [if_pos hpos, List.singleton_append, Unicode.isIn]
      grind
    · simp only [if_neg hpos, List.nil_append]
      grind

/-- The characters that a dot stands for. -/
def CharSet.notFeed : CharSet := (CharSet.single '\n').compl

theorem CharSet.contains_notFeed {c : Char} : notFeed.contains c = true ↔ c ≠ '\n' := by
  have hapart : (single '\n').ranges.Pairwise Apart := List.pairwise_singleton _ _
  unfold notFeed
  rw [contains_compl hapart, Bool.not_eq_true', ← Bool.not_eq_true, contains_single, ne_comm]

/-- The characters that are no white space. -/
def CharSet.notBlank : CharSet := blankSet.compl

theorem CharSet.contains_notBlank (c : Char) : notBlank.contains c = !Text.isBlank c := by
  have hapart : blankSet.ranges.Pairwise Apart := by decide
  unfold notBlank
  rw [contains_compl hapart, contains_blankSet]

/-! ## Steps -/

namespace State

variable {s t u : State} {k : CharSet} {text : List Char}

theorem step?_eq_some_iff :
    s.step? k = some t ↔ ∃ c cs, s.cursor.rest = c :: cs ∧ k.contains c = true ∧
      t = { s with cursor := ⟨s.cursor.left - 1, some c, cs⟩ } := by
  unfold step?
  cases s.cursor.rest with
  | nil => simp
  | cons c cs =>
    simp only [List.cons.injEq]
    constructor
    · intro h
      split at h
      · rename_i hc
        cases h
        exact ⟨c, cs, ⟨rfl, rfl⟩, hc, rfl⟩
      · cases h
    · rintro ⟨d, ds, ⟨rfl, rfl⟩, hc, rfl⟩
      rw [if_pos hc]

theorem rest_of_step? (h : s.step? k = some t) :
    s.cursor.rest.length = t.cursor.rest.length + 1 := by
  obtain ⟨c, cs, hrest, _, rfl⟩ := step?_eq_some_iff.1 h
  rw [hrest]
  rfl

/-! ## Reading -/

@[simp] theorem read?_nil : s.read? [] = some s := rfl

theorem read?_cons (s : State) (c : Char) (cs : List Char) :
    s.read? (c :: cs) = (s.step? (.single c)).bind (·.read? cs) := rfl

theorem read?_append (s : State) : ∀ cs ds : List Char,
    s.read? (cs ++ ds) = (s.read? cs).bind (·.read? ds)
  | [], _ => rfl
  | c :: cs, ds => by
    rw [List.cons_append, read?_cons, read?_cons]
    cases s.step? (.single c) with
    | none => rfl
    | some t => exact t.read?_append cs ds

theorem read?_singleton_iff {c : Char} :
    s.read? [c] = some t ↔ s.step? (.single c) = some t := by
  rw [read?_cons]
  cases s.step? (.single c) <;> rfl

/-- A step reads one character of the set. -/
theorem step?_eq_some_iff_read? :
    s.step? k = some t ↔ ∃ c, k.contains c = true ∧ s.read? [c] = some t := by
  simp only [read?_singleton_iff, step?_eq_some_iff]
  constructor
  · rintro ⟨c, cs, hrest, hc, ht⟩
    exact ⟨c, hc, c, cs, hrest, CharSet.contains_single.2 rfl, ht⟩
  · rintro ⟨c, hc, d, cs, hrest, hd, ht⟩
    cases CharSet.contains_single.1 hd
    exact ⟨c, cs, hrest, hc, ht⟩

theorem rest_of_read? : ∀ {cs : List Char} {s : State},
    s.read? cs = some t → s.cursor.rest = cs ++ t.cursor.rest
  | [], s, h => by
    cases h
    rfl
  | c :: cs, s, h => by
    rw [read?_cons] at h
    obtain ⟨u, hu, ht⟩ := Option.bind_eq_some_iff.1 h
    obtain ⟨d, ds, hrest, hd, rfl⟩ := step?_eq_some_iff.1 hu
    cases CharSet.contains_single.1 hd
    rw [hrest, List.cons_append, ← rest_of_read? ht]

theorem exists_read? : ∀ (cs : List Char) {rest : List Char} {s : State},
    s.cursor.rest = cs ++ rest → ∃ t, s.read? cs = some t ∧ t.cursor.rest = rest
  | [], rest, s, h => ⟨s, rfl, h⟩
  | c :: cs, rest, s, h => by
    have hstep : s.step? (.single c) =
        some { s with cursor := ⟨s.cursor.left - 1, some c, cs ++ rest⟩ } :=
      step?_eq_some_iff.2 ⟨c, cs ++ rest, h, CharSet.contains_single.2 rfl, rfl⟩
    rw [read?_cons, hstep]
    exact exists_read? cs rfl

/-! ## Lying on a text -/

/-- The state has a part of the text before it and the rest of the text after it. -/
structure On (text : List Char) (s : State) : Prop where
  left : s.cursor.left = s.cursor.rest.length
  split : ∃ front, text = front ++ s.cursor.rest ∧ s.cursor.before = front.getLast?

/-- **On one text, positions are known by what is left.** -/
theorem On.cursor_eq (hs : s.On text) (ht : t.On text) (h : s.cursor.left = t.cursor.left) :
    s.cursor = t.cursor := by
  obtain ⟨f, hf, hbf⟩ := hs.split
  obtain ⟨g, hg, hbg⟩ := ht.split
  have hlen : s.cursor.rest.length = t.cursor.rest.length := by rw [← hs.left, ← ht.left, h]
  obtain ⟨hfg, hrest⟩ := List.append_inj' (hf.symm.trans hg) hlen
  have hbefore : s.cursor.before = t.cursor.before := by rw [hbf, hbg, hfg]
  calc s.cursor = ⟨s.cursor.left, s.cursor.before, s.cursor.rest⟩ := rfl
    _ = t.cursor := by rw [h, hbefore, hrest]

theorem On.step (hs : s.On text) (h : s.step? k = some t) : t.On text := by
  obtain ⟨c, cs, hrest, _, rfl⟩ := step?_eq_some_iff.1 h
  obtain ⟨f, hf, _⟩ := hs.split
  refine ⟨?_, f ++ [c], ?_, ?_⟩
  · simp only [hs.left, hrest, List.length_cons, Nat.add_sub_cancel]
  · rw [hf, hrest]
    simp
  · simp

theorem On.left_step (hs : s.On text) (h : s.step? k = some t) :
    s.cursor.left = t.cursor.left + 1 := by
  rw [hs.left, (hs.step h).left, rest_of_step? h]

theorem On.read : ∀ {cs : List Char} {s : State}, s.On text → s.read? cs = some t → t.On text
  | [], s, hs, h => by
    cases h
    exact hs
  | c :: cs, s, hs, h => by
    rw [read?_cons] at h
    obtain ⟨u, hu, ht⟩ := Option.bind_eq_some_iff.1 h
    exact On.read (hs.step hu) ht

theorem On.left_read {cs : List Char} (hs : s.On text) (h : s.read? cs = some t) :
    s.cursor.left = t.cursor.left + cs.length := by
  rw [hs.left, (hs.read h).left, rest_of_read? h, List.length_append, Nat.add_comm]

/-! ## The groups do not matter for the way -/

theorem step?_congr (h : s.cursor = t.cursor) (k : CharSet) :
    (s.step? k = none ∧ t.step? k = none) ∨
      ∃ u v, s.step? k = some u ∧ t.step? k = some v ∧ u.cursor = v.cursor := by
  unfold step?
  rw [h]
  cases t.cursor.rest with
  | nil => exact .inl ⟨rfl, rfl⟩
  | cons c cs =>
    simp only
    split
    · exact .inr ⟨_, _, rfl, rfl, rfl⟩
    · exact .inl ⟨rfl, rfl⟩

theorem read?_congr : ∀ (cs : List Char) {s t : State}, s.cursor = t.cursor →
    (s.read? cs).map (·.cursor) = (t.read? cs).map (·.cursor)
  | [], s, t, h => by simp [h]
  | c :: cs, s, t, h => by
    rw [read?_cons, read?_cons]
    rcases step?_congr h (.single c) with ⟨hs, ht⟩ | ⟨u, v, hu, hv, huv⟩
    · rw [hs, ht]
    · rw [hu, hv]
      exact read?_congr cs huv

end State

end Pattern

end DocAudit

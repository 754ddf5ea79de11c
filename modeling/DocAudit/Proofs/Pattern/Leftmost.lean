import DocAudit.Output.PatternSet
import DocAudit.Proofs.Pattern.Backtrack

/-!
# The leftmost match and its groups

A search gives the preferred way from the first position that has a way at all.  So what a pattern
captures in a text is known from two facts about the text:

* `NoMatchIn`: no match starts in the characters before a position.  This is shown for one stretch
  of characters after the other (`noMatchIn_append`): fixed text, a word, text without the one
  thing that the pattern looks for.
* `Takes`: from that position on, the preferred match takes up the given characters and closes the
  given groups.  This follows the expression, one rule for each of its forms.

`lastCapture?_of_takes` puts the two together.
-/

namespace DocAudit.Pattern

variable {text front rest cs ds tail l : List Char} {k : CharSet} {s t u : State} {a b e : Expr}
  {n : Nat} {groups moreGroups : List (Nat × List Char)}

/-! ## The preferred way -/

/-- The preferred end of a match from a state. -/
def preferred? (e : Expr) (s : State) : Option State := (ways e s).head?

theorem preferred?_literal : preferred? (.literal cs) s = s.read? cs := Option.head?_toList

theorem preferred?_set : preferred? (.set k) s = s.step? k := Option.head?_toList

theorem preferred?_group :
    preferred? (.group n e) s = (preferred? e s).map (·.close n s.cursor) := List.head?_map

theorem preferred?_seq (ha : preferred? a s = some u) (hb : preferred? b u = some t) :
    preferred? (.seq a b) s = some t := by
  obtain ⟨us, hus⟩ := List.head?_eq_some_iff.1 ha
  unfold preferred? at hb ⊢
  rw [ways, hus, List.flatMap_cons, List.head?_append, hb, Option.some_or]

/-- A span ends where no further character belongs to the set. -/
theorem getLast?_span (hcs : ∀ c ∈ cs, k.contains c = true) (hread : s.read? cs = some t)
    (hstop : t.step? k = none) : (span k s).getLast? = some t := by
  induction cs generalizing s with
  | nil =>
    cases hread
    rw [span_of_stop hstop]
    rfl
  | cons c cs ih =>
    obtain ⟨v, hv, hvt⟩ := Option.bind_eq_some_iff.1 (s.read?_append [c] cs ▸ hread)
    have hstep : s.step? k = some v :=
      State.step?_eq_some_iff_read?.2 ⟨c, hcs c List.mem_cons_self, hv⟩
    have hlast := ih (fun d hd => hcs d (List.mem_cons_of_mem c hd)) hvt
    rw [span_of_step hstep, List.getLast?_cons, hlast]
    rfl

/-- A greedy repetition prefers to go on to the end of the span. -/
theorem preferred?_repeated (hlen : n ≤ cs.length) (hcs : ∀ c ∈ cs, k.contains c = true)
    (hread : s.read? cs = some t) (hstop : t.step? k = none) :
    preferred? (.repeated (.set k) n none true) s = some t := by
  rw [← List.take_append_drop n cs, State.read?_append] at hread
  obtain ⟨v, hv, hvt⟩ := Option.bind_eq_some_iff.1 hread
  have hpass : pass? k n s = some v :=
    pass?_eq_some_iff.2
      ⟨cs.take n, List.length_take_of_le hlen, fun c hc => hcs c (List.mem_of_mem_take hc), hv⟩
  have hlast := getLast?_span (fun c hc => hcs c (List.mem_of_mem_drop hc)) hvt hstop
  have hways : ways (.repeated (.set k) n none true) s = (span k v).reverse := by
    rw [ways, hpass]
    exact List.append_nil _
  unfold preferred?
  rw [hways, List.head?_reverse, hlast]

/-! ## What a match takes up -/

/-- The texts of the groups closed so far, the latest first. -/
def State.closed (s : State) : List (Nat × List Char) :=
  s.groups.map fun g => (g.index, g.start.take g.length)

theorem State.group?_eq (s : State) (n : Nat) :
    s.group? n = (s.closed.find? (·.1 = n)).map (·.2) := by
  unfold group? closed
  rw [List.find?_map, Option.map_map]
  rfl

theorem State.groups_of_read? : ∀ {cs : List Char} {s : State},
    s.read? cs = some t → t.groups = s.groups
  | [], s, h => by
    cases h
    rfl
  | c :: cs, s, h => by
    obtain ⟨v, hv, hvt⟩ := Option.bind_eq_some_iff.1 h
    obtain ⟨d, ds, _, _, rfl⟩ := State.step?_eq_some_iff.1 hv
    exact (groups_of_read? hvt :)

/-- Where `cs` and then `tail` come next, the preferred match takes up `cs` and closes groups with
the given texts. -/
def Takes (e : Expr) (cs tail : List Char) (groups : List (Nat × List Char)) : Prop :=
  ∀ ⦃text : List Char⦄ ⦃s : State⦄, s.On text → s.cursor.rest = cs ++ tail →
    ∃ t : State, preferred? e s = some t ∧ t.On text ∧ t.cursor.rest = tail ∧
      t.closed = groups ++ s.closed

/-- What is preferred and only reads closes no groups. -/
theorem takes_of_read
    (h : ∀ ⦃s t : State⦄, s.read? cs = some t → t.cursor.rest = tail → preferred? e s = some t) :
    Takes e cs tail [] := by
  intro text s hs hrest
  obtain ⟨t, ht, htail⟩ := State.exists_read? cs hrest
  refine ⟨t, h ht htail, hs.read ht, htail, ?_⟩
  unfold State.closed
  rw [State.groups_of_read? ht, List.nil_append]

theorem takes_literal (cs tail : List Char) : Takes (.literal cs) cs tail [] :=
  takes_of_read fun _ _ ht _ => preferred?_literal.trans ht

theorem takes_set {c : Char} (hc : k.contains c = true) (tail : List Char) :
    Takes (.set k) [c] tail [] :=
  takes_of_read fun _ _ ht _ =>
    preferred?_set.trans (State.step?_eq_some_iff_read?.2 ⟨c, hc, ht⟩)

theorem takes_repeated (hlen : n ≤ cs.length) (hcs : ∀ c ∈ cs, k.contains c = true)
    (htail : ∀ c ∈ tail.head?, k.contains c = false) :
    Takes (.repeated (.set k) n none true) cs tail [] := by
  refine takes_of_read fun s t ht hrest => preferred?_repeated hlen hcs ht ?_
  unfold State.step?
  rw [hrest]
  cases tail with
  | nil => rfl
  | cons c tail => simp [htail c rfl]

theorem Takes.seq (ha : Takes a cs (ds ++ tail) groups) (hb : Takes b ds tail moreGroups) :
    Takes (.seq a b) (cs ++ ds) tail (moreGroups ++ groups) := by
  intro text s hs hrest
  rw [List.append_assoc] at hrest
  obtain ⟨u, hu, honU, hrestU, hclosedU⟩ := ha hs hrest
  obtain ⟨t, ht, honT, hrestT, hclosedT⟩ := hb honU hrestU
  refine ⟨t, preferred?_seq hu ht, honT, hrestT, ?_⟩
  rw [hclosedT, hclosedU, List.append_assoc]

theorem Takes.group (h : Takes e cs tail groups) (n : Nat) :
    Takes (.group n e) cs tail ((n, cs) :: groups) := by
  intro text s hs hrest
  obtain ⟨t, ht, hon, htail, hclosed⟩ := h hs hrest
  have hlength : s.cursor.left - t.cursor.left = cs.length := by
    rw [hs.left, hon.left, hrest, htail, List.length_append, Nat.add_sub_cancel]
  refine ⟨t.close n s.cursor, ?_, hon.congr rfl, htail, ?_⟩
  · rw [preferred?_group, ht]
    rfl
  · calc (t.close n s.cursor).closed
        = (n, s.cursor.rest.take (s.cursor.left - t.cursor.left)) :: t.closed := rfl
      _ = (n, cs) :: groups ++ s.closed := by
        rw [hlength, hrest, List.take_left, hclosed, List.cons_append]

/-! ## Where no match starts -/

/-- No match starts at one of the characters of `front` when `rest` comes after them. -/
def NoMatchIn (e : Expr) : List Char → List Char → Prop
  | [], _ => True
  | c :: front, rest =>
    (∀ s : State, s.cursor.rest = c :: (front ++ rest) → ways e s = []) ∧ NoMatchIn e front rest

theorem noMatchIn_append : ∀ {front : List Char},
    NoMatchIn e front (cs ++ rest) → NoMatchIn e cs rest → NoMatchIn e (front ++ cs) rest
  | [], _, h => h
  | c :: front, hfront, h => by
    obtain ⟨hc, hfront⟩ := hfront
    refine ⟨fun s hs => hc s (hs.trans ?_), noMatchIn_append hfront h⟩
    exact congrArg (c :: ·) (List.append_assoc front cs rest)

theorem ways_literal_seq (h : ¬ l <+: s.cursor.rest) : ways (.seq (.literal l) e) s = [] := by
  have hread : s.read? l = none := by
    cases hl : s.read? l with
    | none => rfl
    | some t => exact absurd ⟨t.cursor.rest, (State.rest_of_read? hl).symm⟩ h
  rw [ways, ways, hread]
  rfl

/-- Whether no part of `cs` up to its end, taken together with what may follow it, can begin with
`l`. -/
def clashes (l : List Char) : List Char → Bool
  | [] => true
  | c :: cs => !l.isPrefixOf (c :: cs) && !(c :: cs).isPrefixOf l && clashes l cs

/-- In fixed text. -/
theorem noMatchIn_of_clashes (rest : List Char) : ∀ {front : List Char},
    clashes l front = true → NoMatchIn (.seq (.literal l) e) front rest
  | [], _ => trivial
  | c :: front, h => by
    simp only [clashes, Bool.and_eq_true, Bool.not_eq_true'] at h
    obtain ⟨⟨hl, hfront⟩, hrest⟩ := h
    refine ⟨fun s hs => ways_literal_seq fun hprefix => ?_, noMatchIn_of_clashes rest hrest⟩
    rw [hs] at hprefix
    rcases List.prefix_or_prefix_of_prefix hprefix (List.prefix_append (c :: front) rest) with h | h
    · simp [List.isPrefixOf_iff_prefix.2 h] at hl
    · simp [List.isPrefixOf_iff_prefix.2 h] at hfront

theorem prefix_of_append_cons_prefix {c : Char} {xs ys : List Char} (hxs : c ∉ xs) (hys : c ∉ ys)
    (h : xs ++ c :: ds <+: ys ++ c :: rest) : ds <+: rest := by
  induction xs generalizing ys with
  | nil =>
    cases ys with
    | nil => exact (List.cons_prefix_cons.1 h).2
    | cons y ys =>
      cases (List.cons_prefix_cons.1 h).1
      exact absurd List.mem_cons_self hys
  | cons x xs ih =>
    rw [List.mem_cons, not_or] at hxs
    cases ys with
    | nil => exact absurd (List.cons_prefix_cons.1 h).1 (Ne.symm hxs.1)
    | cons y ys =>
      rw [List.mem_cons, not_or] at hys
      exact ih hxs.2 hys.2 (List.cons_prefix_cons.1 h).2

/-- In a word: what comes after the first separator of the literal is not what comes after the
word. -/
theorem noMatchIn_word {c : Char} (xs ds : List Char) (hl : l = xs ++ c :: ds) (hxs : c ∉ xs)
    (hds : ¬ ds <+: rest) :
    ∀ {word : List Char}, c ∉ word → NoMatchIn (.seq (.literal l) e) word (c :: rest)
  | [], _ => trivial
  | d :: word, hword => by
    have hrest : c ∉ word := fun h => hword (List.mem_cons_of_mem d h)
    refine ⟨fun s hs => ways_literal_seq fun hprefix => hds ?_,
      noMatchIn_word xs ds hl hxs hds hrest⟩
    rw [hs, hl, ← List.cons_append] at hprefix
    exact prefix_of_append_cons_prefix hxs hword hprefix

theorem prefix_of_prefix_append_cons {c : Char} {xs ys : List Char} (hxs : c ∉ xs)
    (h : xs <+: ys ++ c :: rest) : xs <+: ys := by
  rcases List.prefix_or_prefix_of_prefix h (List.prefix_append ys (c :: rest)) with h' | ⟨zs, rfl⟩
  · exact h'
  · cases zs with
    | nil => simp
    | cons z zs =>
      have hz := (List.prefix_append_right_inj ys).1 h
      cases (List.cons_prefix_cons.1 hz).1
      exact absurd (by simp) hxs

/-- In a text that the literal and a character of the set nowhere stand in. -/
theorem noMatchIn_of_not_infix {c : Char} (hl : c ∉ l) (hc : k.contains c = false)
    (rest : List Char) :
    ∀ {front : List Char}, (∀ d, k.contains d = true → ¬ l ++ [d] <:+: front) →
      NoMatchIn (.seq (.literal l) (.group n (.repeated (.set k) 1 none true))) front (c :: rest)
  | [], _ => trivial
  | b :: front, h => by
    refine ⟨fun s hs => List.eq_nil_iff_forall_not_mem.2 fun t ht => ?_,
      noMatchIn_of_not_infix hl hc rest fun d hd hin => h d hd (List.infix_cons hin)⟩
    -- the literal and the first character of the group would stand before the separator
    obtain ⟨u, hu, ht⟩ := mem_ways_seq.1 ht
    obtain ⟨v, hv, _⟩ := List.mem_map.1 ht
    obtain ⟨ds, hlen, hds, hread⟩ := mem_ways_repeated_set.1 hv
    obtain ⟨d, ds, rfl⟩ := List.exists_cons_of_length_pos hlen
    have hd := hds d List.mem_cons_self
    have hne : c ≠ d := by
      rintro rfl
      simp [hc] at hd
    have hprefix : l ++ [d] <+: (b :: front) ++ c :: rest := by
      refine ⟨ds ++ v.cursor.rest, ?_⟩
      rw [List.cons_append, ← hs, State.rest_of_read? (mem_ways_literal.1 hu),
        State.rest_of_read? hread]
      simp
    have hbefore := prefix_of_prefix_append_cons (by simp [hl, hne]) hprefix
    exact h d hd hbefore.isInfix

/-! ## The leftmost match -/

theorem head?_flatMap_cursorsFrom {before : Option Char} (hfront : NoMatchIn e front rest)
    (hway : preferred? e ⟨⟨rest.length, front.getLast?.or before, rest⟩, []⟩ = some t) :
    ((cursorsFrom (front ++ rest).length before (front ++ rest)).flatMap
      fun p => ways e ⟨p, []⟩).head? = some t := by
  induction front generalizing before with
  | nil =>
    have hfirst : ∃ ps,
        cursorsFrom rest.length before rest = ⟨rest.length, before, rest⟩ :: ps := by
      cases rest <;> exact ⟨_, rfl⟩
    obtain ⟨ps, hps⟩ := hfirst
    have hway : (ways e ⟨⟨rest.length, before, rest⟩, []⟩).head? = some t := hway
    rw [List.nil_append, hps, List.flatMap_cons, List.head?_append, hway, Option.some_or]
  | cons c front ih =>
    obtain ⟨hc, hfront⟩ := hfront
    have hlast : front.getLast?.or (some c) = (c :: front).getLast?.or before := by
      rw [List.getLast?_cons]
      cases front.getLast? <;> rfl
    rw [List.cons_append, cursorsFrom, List.flatMap_cons, hc _ rfl, List.nil_append,
      List.length_cons, Nat.add_sub_cancel]
    exact ih hfront (hlast ▸ hway)

/-- **The preferred way from the first position that has one is found.** -/
theorem search_of_preferred? (he : e.repeatsChars = true) (hplain : e.isPlain = true)
    (hfront : NoMatchIn e front rest)
    (hway : preferred? e ⟨⟨rest.length, front.getLast?, rest⟩, []⟩ = some t) :
    search e (front ++ rest) = some t := by
  rw [search_eq_head?_ways he hplain]
  unfold startStates
  rw [List.flatMap_map]
  exact head?_flatMap_cursorsFrom hfront (by rwa [Option.or_none])

theorem isSome_search_textStart (he : e.repeatsChars = true) (hplain : e.isPlain = true) :
    (search (.seq (.assert .textStart) e) text).isSome = true ↔
      ∃ t, t ∈ ways e ⟨⟨text.length, none, text⟩, []⟩ := by
  have hassert : (Expr.seq (.assert .textStart) e).repeatsChars = true := he
  have hassertPlain : (Expr.seq (.assert .textStart) e).isPlain = true := hplain
  rw [isSome_search_iff hassert hassertPlain]
  simp only [mem_ways_seq, mem_ways_assert]
  constructor
  · rintro ⟨s, hs, t, u, ⟨hstart, rfl⟩, ht⟩
    obtain ⟨front, rest, rfl, rfl⟩ := mem_startStates_iff.1 hs
    have hnil : front = [] := by simpa [Assertion.holds] using hstart
    subst hnil
    exact ⟨t, ht⟩
  · rintro ⟨t, ht⟩
    exact ⟨_, mem_startStates_iff.2 ⟨[], text, rfl, rfl⟩, t, _, ⟨rfl, rfl⟩, ht⟩

theorem isMatch_of_get? {ps : PatternSet} {key : String}
    (hkey : Assoc.get? key ps.entries = some ⟨e⟩) (line : String) :
    ps.isMatch line key = (search e line.toList).isSome := by
  unfold PatternSet.isMatch
  rw [hkey, Option.any_some]
  rfl

theorem lastCapture?_of_search {ps : PatternSet} {key line : String}
    (hkey : Assoc.get? key ps.entries = some ⟨e⟩) (hcount : e.groupCount = 1)
    (hsearch : search e line.toList = some t) (hclosed : t.closed = [(1, ds)]) :
    ps.lastCapture? line key = some (String.ofList ds) := by
  have hgroup : t.group? 1 = some ds := by
    rw [State.group?_eq, hclosed]
    rfl
  unfold PatternSet.lastCapture? PatternSet.captures captures?
  simp [hkey, hsearch, hcount, hgroup]

/-- **The last group of the leftmost match is captured.** -/
theorem lastCapture?_of_takes {ps : PatternSet} {key line : String}
    (hkey : Assoc.get? key ps.entries = some ⟨e⟩) (he : e.repeatsChars = true)
    (hplain : e.isPlain = true) (hcount : e.groupCount = 1) (htakes : Takes e cs tail [(1, ds)])
    (hfront : NoMatchIn e front (cs ++ tail)) (hline : line.toList = front ++ (cs ++ tail)) :
    ps.lastCapture? line key = some (String.ofList ds) := by
  have hon : State.On line.toList ⟨⟨(cs ++ tail).length, front.getLast?, cs ++ tail⟩, []⟩ :=
    ⟨rfl, front, hline, rfl⟩
  obtain ⟨t, ht, _, _, hclosed⟩ := htakes hon rfl
  have hsearch : search e line.toList = some t := by
    rw [hline]
    exact search_of_preferred? he hplain hfront ht
  exact lastCapture?_of_search hkey hcount hsearch hclosed

end DocAudit.Pattern

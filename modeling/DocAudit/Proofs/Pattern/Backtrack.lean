import DocAudit.Pattern.Search
import DocAudit.Proofs.Pattern.Repetition

/-!
# Searching gives what backtracking gives

`ends` moves all states of a search at once and drops a state as soon as its position has been
reached in a preferred way.  `ways` is the plain meaning of an expression: from one state, all ends
of matches in order of preference, as a backtracking matcher would come to them.  This file proves
for expressions in which only characters are repeated that nothing that counts is dropped:

* `ends_eq_distinct_ways`: `ends` gives the ways from each state, the first for each position only;
* `search_eq_head?_ways`: a search finds the first of all ways from all positions.
-/

namespace DocAudit.Pattern

variable {text : List Char} {f : State → List State} {k : CharSet} {s t u : State}

/-! ## Ways -/

/-- The states after the characters of a repetition beyond the least number, of which there are at
most `limit`, in order of preference. -/
def spans (k : CharSet) (limit : Option Nat) (greedy : Bool) (s : State) : List State :=
  inOrder greedy (spanFrom k (limit.getD s.cursor.rest.length) s)

/-- The ends of matches from a state in order of preference, without regard to how often a position
is reached.  Only characters may be repeated; other repetitions are not followed. -/
def ways : Expr → State → List State
  | .empty, s => [s]
  | .literal cs, s => (s.read? cs).toList
  | .set k, s => (s.step? k).toList
  | .assert a, s => if a.holds s.cursor then [s] else []
  | .group index e, s => (ways e s).map (·.close index s.cursor)
  | .seq a b, s => (ways a s).flatMap (ways b)
  | .alt a b, s => ways a s ++ ways b s
  | .repeated (.set k) min max greedy, s =>
    (pass? k min s).toList.flatMap (spans k (max.map (· - min)) greedy)
  | .repeated (.literal [c]) min max greedy, s =>
    (pass? (.single c) min s).toList.flatMap (spans (.single c) (max.map (· - min)) greedy)
  | .repeated _ _ _ _, _ => []

/-- Whether only characters are repeated. -/
def Expr.repeatsChars : Expr → Bool
  | group _ e => e.repeatsChars
  | seq a b => a.repeatsChars && b.repeatsChars
  | alt a b => a.repeatsChars && b.repeatsChars
  | repeated (set _) _ _ _ => true
  | repeated (literal [_]) _ _ _ => true
  | repeated _ _ _ _ => false
  | _ => true

/-- Of characters, all repetitions are of the same kind. -/
theorem repeated_of_repeatsChars {e : Expr} {min : Nat} {max : Option Nat} {greedy : Bool}
    (h : (Expr.repeated e min max greedy).repeatsChars = true) :
    ∃ k, ends (.repeated e min max greedy) = setRounds k min max greedy ∧
      ways (.repeated e min max greedy) =
        fun s => (pass? k min s).toList.flatMap (spans k (max.map (· - min)) greedy) := by
  cases e with
  | set k => exact ⟨k, by funext ss; rw [ends], by funext s; rw [ways]⟩
  | literal cs =>
    match cs with
    | [c] => exact ⟨.single c, by funext ss; rw [ends], by funext s; rw [ways]⟩
    | [] => cases h
    | _ :: _ :: _ => cases h
  | _ => cases h

theorem Uniform.flatMap_eq (hf : Uniform f) : ∀ {xs ys : List State},
    xs.map (·.cursor) = ys.map (·.cursor) →
      (xs.flatMap f).map (·.cursor) = (ys.flatMap f).map (·.cursor)
  | [], [], _ => rfl
  | [], _ :: _, h => by cases h
  | _ :: _, [], h => by cases h
  | x :: xs, y :: ys, h => by
    rw [List.map_cons, List.map_cons] at h
    rw [List.flatMap_cons, List.flatMap_cons, List.map_append, List.map_append,
      hf x y (List.head_eq_of_cons_eq h), hf.flatMap_eq (List.tail_eq_of_cons_eq h)]

theorem uniform_toList {f : State → Option State}
    (h : ∀ s t, s.cursor = t.cursor → (f s).map (·.cursor) = (f t).map (·.cursor)) :
    Uniform fun s => (f s).toList := by
  intro s t hst
  rw [← Option.toList_map, ← Option.toList_map, h s t hst]

theorem uniform_spans (limit : Option Nat) (greedy : Bool) : Uniform (spans k limit greedy) := by
  intro s t h
  unfold spans
  rw [map_inOrder, map_inOrder, h, spanFrom_congr _ h]

theorem uniform_ways {e : Expr} (he : e.repeatsChars = true) : Uniform (ways e) := by
  induction e with
  | empty => intro s t h; simp [ways, h]
  | literal cs => exact uniform_toList fun s t h => State.read?_congr cs h
  | set k =>
    refine uniform_toList fun s t h => ?_
    rcases State.step?_congr h k with ⟨hs, ht⟩ | ⟨u, v, hu, hv, huv⟩
    · rw [hs, ht]
    · rw [hu, hv, Option.map_some, Option.map_some, huv]
  | assert a =>
    intro s t h
    unfold ways
    rw [h]
    split <;> simp [h]
  | group index e ih =>
    intro s t h
    unfold ways
    rw [List.map_map, List.map_map]
    exact ih he s t h
  | seq a b iha ihb =>
    simp only [Expr.repeatsChars, Bool.and_eq_true] at he
    exact fun s t h => (ihb he.2).flatMap_eq (iha he.1 s t h)
  | alt a b iha ihb =>
    simp only [Expr.repeatsChars, Bool.and_eq_true] at he
    intro s t h
    unfold ways
    rw [List.map_append, List.map_append, iha he.1 s t h, ihb he.2 s t h]
  | repeated e min max greedy _ =>
    obtain ⟨k, _, hways⟩ := repeated_of_repeatsChars he
    rw [hways]
    have hpass : Uniform fun s => (pass? k min s).toList :=
      uniform_toList fun s t h => pass?_congr min h
    exact fun s t h => (uniform_spans _ greedy).flatMap_eq (hpass s t h)

theorem State.On.congr (h : s.On text) (hc : t.cursor = s.cursor) : t.On text := by
  obtain ⟨hleft, hsplit⟩ := h
  rw [← hc] at hleft hsplit
  exact ⟨hleft, hsplit⟩

theorem on_of_mem_spanFrom : ∀ {n : Nat} {s : State}, s.On text → u ∈ spanFrom k n s → u.On text
  | 0, s, hs, h => by
    cases List.mem_singleton.1 h
    exact hs
  | n + 1, s, hs, h => by
    unfold spanFrom at h
    rcases List.mem_cons.1 h with rfl | h
    · exact hs
    · cases hstep : s.step? k with
      | none => rw [hstep] at h; cases h
      | some t => rw [hstep] at h; exact on_of_mem_spanFrom (hs.step hstep) h

theorem on_of_mem_ways {e : Expr} (he : e.repeatsChars = true) {s t : State} (hs : s.On text)
    (ht : t ∈ ways e s) : t.On text := by
  induction e generalizing s t with
  | empty => cases List.mem_singleton.1 ht; exact hs
  | literal cs => exact hs.read (Option.mem_toList.1 ht)
  | set k => exact hs.step (Option.mem_toList.1 ht)
  | assert a =>
    unfold ways at ht
    split at ht
    · cases List.mem_singleton.1 ht
      exact hs
    · cases ht
  | group index e ih =>
    obtain ⟨u, hu, rfl⟩ := List.mem_map.1 ht
    exact (ih he hs hu).congr rfl
  | seq a b iha ihb =>
    simp only [Expr.repeatsChars, Bool.and_eq_true] at he
    obtain ⟨u, hu, ht⟩ := List.mem_flatMap.1 ht
    exact ihb he.2 (iha he.1 hs hu) ht
  | alt a b iha ihb =>
    simp only [Expr.repeatsChars, Bool.and_eq_true] at he
    rcases List.mem_append.1 ht with ht | ht
    · exact iha he.1 hs ht
    · exact ihb he.2 hs ht
  | repeated e min max greedy _ =>
    obtain ⟨k, _, hways⟩ := repeated_of_repeatsChars he
    rw [hways] at ht
    obtain ⟨u, hu, ht⟩ := List.mem_flatMap.1 ht
    exact on_of_mem_spanFrom (on_of_pass? hs (Option.mem_toList.1 hu)).1 (mem_inOrder.1 ht)

/-! ## The theorem -/

theorem zipWith_close_distinctFrom (index : Nat) (g : State → List State) :
    ∀ (ss : List State) (seen : Nat),
      ss.zipWith (fun s ts => ts.map (·.close index s.cursor)) (distinctFrom seen (ss.map g)) =
        distinctFrom seen (ss.map fun s => (g s).map (·.close index s.cursor))
  | [], _ => rfl
  | s :: ss, seen => by
    have hmap := freshStates_map (g := (·.close index s.cursor)) (fun _ => rfl) (g s) seen
    rw [List.map_cons, List.map_cons, distinctFrom_cons, distinctFrom_cons, List.zipWith_cons_cons,
      zipWith_close_distinctFrom index g ss, hmap]

theorem setRounds_eq_distinct {min : Nat} {max : Option Nat} {greedy : Bool} {ss : List State}
    (hon : ∀ s ∈ ss, s.On text) :
    setRounds k min max greedy ss =
      distinct (ss.map fun s =>
        (pass? k min s).toList.flatMap (spans k (max.map (· - min)) greedy)) := by
  unfold setRounds
  cases max with
  | some m =>
    simp only [List.map_map]
    congr 2
    funext s
    simp only [Function.comp_apply]
    cases pass? k min s with
    | none => cases greedy <;> rfl
    | some t => simp [spans, inOrder]
  | none =>
    have hfirst : ∀ t ∈ (ss.map fun s => (pass? k min s).toList).flatten, t.On text := by
      intro t ht
      obtain ⟨ts, hts, ht⟩ := List.mem_flatten.1 ht
      obtain ⟨s, hs, rfl⟩ := List.mem_map.1 hts
      exact (on_of_pass? (hon s hs) (Option.mem_toList.1 ht)).1
    simp only [advance]
    rw [anyNumber_eq_distinctFrom greedy hfirst Covers.zero, regroup_distinctFrom, List.map_map]
    rfl

/-- **Moving all states at once loses no way that counts.**  From states at different positions of
a text, `ends` gives the ways from each of them, without those that lead to a position to which an
earlier way leads. -/
theorem ends_eq_distinct_ways {e : Expr} (he : e.repeatsChars = true) :
    ∀ {ss : List State}, (∀ s ∈ ss, s.On text) → (ss.map (·.cursor.left)).Nodup →
      ends e ss = distinct (ss.map (ways e)) := by
  induction e with
  | empty =>
    intro ss _ hd
    exact (distinct_map_toList (f := some) (n := 0) (fun s _ t h => by cases h; rfl) hd).symm
  | literal cs =>
    intro ss hon hd
    exact (distinct_map_toList (f := (·.read? cs)) (fun s hs t h => (hon s hs).left_read h)
      hd).symm
  | set k =>
    intro ss hon hd
    exact (distinct_map_toList (f := (·.step? k)) (fun s hs t h => (hon s hs).left_step h)
      hd).symm
  | assert a =>
    intro ss _ hd
    have htoList : ways (.assert a) =
        fun s => (if a.holds s.cursor then some s else none : Option State).toList := by
      funext s
      unfold ways
      split <;> rfl
    rw [htoList, distinct_map_toList (n := 0) _ hd, ← htoList]
    · rfl
    · intro s _ t h
      split at h
      · cases h
        rfl
      · cases h
  | group index e ih =>
    intro ss hon hd
    rw [ends, ih he hon hd]
    exact zipWith_close_distinctFrom index (ways e) ss 0
  | seq a b iha ihb =>
    intro ss hon hd
    simp only [Expr.repeatsChars, Bool.and_eq_true] at he
    have hreached : ∀ ts ∈ ss.map (ways a), ∀ t ∈ ts, t.On text := by
      intro ts hts t ht
      obtain ⟨s, hs, rfl⟩ := List.mem_map.1 hts
      exact on_of_mem_ways he.1 (hon s hs) ht
    -- what has been reached is again at different positions of the text
    have hflat : (distinct (ss.map (ways a))).flatten =
        (freshStates 0 (ss.map (ways a)).flatten).1 := flatten_distinctFrom _ 0
    have hon' : ∀ t ∈ (distinct (ss.map (ways a))).flatten, t.On text := by
      intro t ht
      rw [hflat] at ht
      obtain ⟨ts, hts, ht⟩ := List.mem_flatten.1 (mem_of_mem_freshStates ht).1
      exact hreached ts hts t ht
    have hd' : ((distinct (ss.map (ways a))).flatten.map (·.cursor.left)).Nodup := by
      rw [hflat]
      exact nodup_freshStates _ 0
    calc ends (.seq a b) ss
        = regroup (distinct (ss.map (ways a))) (ends b (distinct (ss.map (ways a))).flatten) := by
          rw [ends, advance, iha he.1 hon hd]
      _ = distinct ((distinct (ss.map (ways a))).map (·.flatMap (ways b))) := by
          rw [ihb he.2 hon' hd']
          exact regroup_distinctFrom (ways b) _ 0
      _ = distinct ((ss.map (ways a)).map (·.flatMap (ways b))) :=
          distinctFrom_map_flatMap (uniform_ways he.2) Covers.zero hreached
      _ = distinct (ss.map (ways (.seq a b))) := by
          rw [List.map_map]
          rfl
  | alt a b iha ihb =>
    intro ss hon hd
    simp only [Expr.repeatsChars, Bool.and_eq_true] at he
    rw [ends, iha he.1 hon hd, ihb he.2 hon hd]
    calc distinct ((distinct (ss.map (ways a))).zipWith (· ++ ·) (distinct (ss.map (ways b))))
        = distinct ((ss.map (ways a)).zipWith (· ++ ·) (ss.map (ways b))) :=
          distinctFrom_zipWith_append (fun _ h => h) (fun _ h => h)
      _ = distinct (ss.map (ways (.alt a b))) := by
          rw [List.zipWith_map, List.zipWith_self]
          rfl
  | repeated e min max greedy _ =>
    intro ss hon _
    obtain ⟨k, hends, hways⟩ := repeated_of_repeatsChars he
    rw [hends, hways]
    exact setRounds_eq_distinct hon

/-! ## Searching -/

theorem mem_cursorsFrom_iff {p : Cursor} : ∀ {cs : List Char} {before : Option Char},
    p ∈ cursorsFrom cs.length before cs ↔
      ∃ front rest, cs = front ++ rest ∧ p = ⟨rest.length, front.getLast?.or before, rest⟩
  | [], before => by
    rw [cursorsFrom, List.mem_singleton]
    constructor
    · rintro rfl
      exact ⟨[], [], rfl, rfl⟩
    · rintro ⟨front, rest, h, rfl⟩
      obtain ⟨rfl, rfl⟩ := List.append_eq_nil_iff.1 h.symm
      rfl
  | c :: cs, before => by
    rw [cursorsFrom, List.mem_cons, List.length_cons, Nat.add_sub_cancel, mem_cursorsFrom_iff]
    constructor
    · rintro (rfl | ⟨front, rest, rfl, rfl⟩)
      · exact ⟨[], c :: cs, rfl, rfl⟩
      · refine ⟨c :: front, rest, rfl, ?_⟩
        rw [List.getLast?_cons]
        cases front.getLast? <;> rfl
    · rintro ⟨front, rest, h, rfl⟩
      cases front with
      | nil =>
        rw [List.nil_append] at h
        rw [← h]
        exact .inl rfl
      | cons d front =>
        obtain ⟨rfl, rfl⟩ := List.cons.inj h
        refine .inr ⟨front, rest, rfl, ?_⟩
        rw [List.getLast?_cons]
        cases front.getLast? <;> rfl

theorem mem_startStates_iff :
    s ∈ startStates text ↔
      ∃ front rest, text = front ++ rest ∧ s = ⟨⟨rest.length, front.getLast?, rest⟩, []⟩ := by
  unfold startStates
  simp only [List.mem_map, mem_cursorsFrom_iff, Option.or_none]
  constructor
  · rintro ⟨p, ⟨front, rest, htext, rfl⟩, rfl⟩
    exact ⟨front, rest, htext, rfl⟩
  · rintro ⟨front, rest, htext, rfl⟩
    exact ⟨_, ⟨front, rest, htext, rfl⟩, rfl⟩

theorem on_of_mem_startStates (h : s ∈ startStates text) : s.On text := by
  obtain ⟨front, rest, htext, rfl⟩ := mem_startStates_iff.1 h
  exact ⟨rfl, front, htext, rfl⟩

theorem nodup_left_cursorsFrom : ∀ (cs : List Char) (before : Option Char),
    ((cursorsFrom cs.length before cs).map (·.left)).Nodup
  | [], _ => by simp [cursorsFrom]
  | c :: cs, before => by
    rw [cursorsFrom, List.map_cons, List.nodup_cons, List.length_cons, Nat.add_sub_cancel]
    refine ⟨?_, nodup_left_cursorsFrom cs (some c)⟩
    intro hm
    obtain ⟨p, hp, hleft⟩ := List.mem_map.1 hm
    obtain ⟨front, rest, rfl, rfl⟩ := mem_cursorsFrom_iff.1 hp
    simp only [List.length_append] at hleft
    omega

/-- **A search gives the first of all ways.** -/
theorem search_eq_head?_ways {e : Expr} (he : e.repeatsChars = true) (hplain : e.isPlain = true)
    (text : List Char) : search e text = ((startStates text).flatMap (ways e)).head? := by
  have hd : ((startStates text).map (·.cursor.left)).Nodup := by
    unfold startStates
    rw [List.map_map]
    exact nodup_left_cursorsFrom text none
  unfold search searchDirect
  rw [if_pos hplain, ends_eq_distinct_ways he (fun s hs => on_of_mem_startStates hs) hd, distinct,
    flatten_distinctFrom, head?_freshStates_zero, List.flatMap_def]

theorem isSome_search_iff {e : Expr} (he : e.repeatsChars = true) (hplain : e.isPlain = true) :
    (search e text).isSome = true ↔ ∃ s ∈ startStates text, ∃ t, t ∈ ways e s := by
  rw [search_eq_head?_ways he hplain, List.isSome_head?]
  constructor
  · intro h
    obtain ⟨t, ht⟩ := List.exists_mem_of_ne_nil _ h
    obtain ⟨s, hs, ht⟩ := List.mem_flatMap.1 ht
    exact ⟨s, hs, t, ht⟩
  · rintro ⟨s, hs, t, ht⟩
    exact List.ne_nil_of_mem (List.mem_flatMap.2 ⟨s, hs, ht⟩)

/-! ## Ways as texts -/

theorem mem_ways_seq {a b : Expr} : t ∈ ways (.seq a b) s ↔ ∃ u ∈ ways a s, t ∈ ways b u :=
  List.mem_flatMap

theorem mem_ways_literal {cs : List Char} : t ∈ ways (.literal cs) s ↔ s.read? cs = some t :=
  Option.mem_toList

theorem mem_ways_assert {a : Assertion} :
    t ∈ ways (.assert a) s ↔ a.holds s.cursor = true ∧ t = s := by
  unfold ways
  split
  · rename_i h
    simp [h]
  · rename_i h
    simp [h]

/-- An unbounded repetition takes up any text of enough characters of the set. -/
theorem mem_ways_repeated_set {min : Nat} {greedy : Bool} :
    t ∈ ways (.repeated (.set k) min none greedy) s ↔
      ∃ cs, min ≤ cs.length ∧ (∀ c ∈ cs, k.contains c = true) ∧ s.read? cs = some t := by
  have hspans : ∀ u : State, t ∈ spans k none greedy u ↔ ∃ n, pass? k n u = some t := fun u =>
    mem_inOrder.trans mem_span_iff_pass?
  rw [ways, List.mem_flatMap]
  simp only [Option.mem_toList, Option.map_none, hspans, pass?_eq_some_iff]
  constructor
  · rintro ⟨u, ⟨cs, hlen, hcs, hu⟩, n, ds, _, hds, ht⟩
    refine ⟨cs ++ ds, by simp [hlen], List.forall_mem_append.2 ⟨hcs, hds⟩, ?_⟩
    rw [State.read?_append, hu]
    exact ht
  · rintro ⟨cs, hlen, hcs, ht⟩
    rw [← List.take_append_drop min cs, State.read?_append] at ht
    obtain ⟨u, hu, ht⟩ := Option.bind_eq_some_iff.1 ht
    exact ⟨u, ⟨cs.take min, by simp [hlen], fun c hc => hcs c (List.mem_of_mem_take hc), hu⟩,
      _, cs.drop min, rfl, fun c hc => hcs c (List.mem_of_mem_drop hc), ht⟩

end DocAudit.Pattern

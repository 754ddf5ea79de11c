import DocAudit.Proofs.Pattern.State

/-!
# Each position once

The states of a search are kept in lists, one for each state from which they have been reached, and
only the first state at each position is kept.  `freshStates` and `distinct` do this with a set of
positions, the bits of a number.

What follows is the algebra of this: how it goes with putting lists together
(`freshStates_append`, `distinctFrom_append`), with going on from what has been reached
(`regroup_distinctFrom`, `distinctFrom_map_flatMap`) and with alternatives
(`distinctFrom_zipWith_append`).  A state that is dropped would lead to positions only that the
state kept in its place leads to; `Uniform` and `Covers` express this.
-/

namespace DocAudit.Pattern

/-! ## Sets of positions -/

theorem testBit_or_shiftLeft (seen p q : Nat) :
    (seen ||| 1 <<< p).testBit q = (seen.testBit q || decide (p = q)) := by
  rw [Nat.testBit_or, Nat.one_shiftLeft, Nat.testBit_two_pow]

theorem freshStates_cons_of_seen {seen : Nat} {s : State}
    (h : seen.testBit s.cursor.left = true) (ss : List State) :
    freshStates seen (s :: ss) = freshStates seen ss := by
  rw [freshStates, if_pos h]

theorem freshStates_cons_of_not_seen {seen : Nat} {s : State}
    (h : ¬seen.testBit s.cursor.left = true) (ss : List State) :
    freshStates seen (s :: ss) =
      (s :: (freshStates (seen ||| 1 <<< s.cursor.left) ss).1,
        (freshStates (seen ||| 1 <<< s.cursor.left) ss).2) := by
  rw [freshStates, if_neg h]

theorem testBit_freshStates {p : Nat} : ∀ {ss : List State} {seen : Nat},
    (freshStates seen ss).2.testBit p = true ↔
      seen.testBit p = true ∨ ∃ s ∈ ss, s.cursor.left = p
  | [], seen => by simp [freshStates]
  | s :: ss, seen => by
    by_cases h : seen.testBit s.cursor.left = true
    · rw [freshStates_cons_of_seen h, testBit_freshStates]
      constructor
      · rintro (hp | ⟨t, ht, hp⟩)
        · exact .inl hp
        · exact .inr ⟨t, List.mem_cons_of_mem s ht, hp⟩
      · rintro (hp | ⟨t, ht, hp⟩)
        · exact .inl hp
        · rcases List.mem_cons.1 ht with rfl | ht
          · exact .inl (hp ▸ h)
          · exact .inr ⟨t, ht, hp⟩
    · rw [freshStates_cons_of_not_seen h]
      simp only [testBit_freshStates, testBit_or_shiftLeft, Bool.or_eq_true, decide_eq_true_eq,
        List.mem_cons, exists_eq_or_imp, or_assoc]

theorem freshStates_append : ∀ (xs ys : List State) (seen : Nat),
    freshStates seen (xs ++ ys) =
      ((freshStates seen xs).1 ++ (freshStates (freshStates seen xs).2 ys).1,
        (freshStates (freshStates seen xs).2 ys).2)
  | [], ys, seen => rfl
  | x :: xs, ys, seen => by
    rw [List.cons_append]
    by_cases h : seen.testBit x.cursor.left = true
    · rw [freshStates_cons_of_seen h, freshStates_cons_of_seen h, freshStates_append xs ys]
    · rw [freshStates_cons_of_not_seen h, freshStates_cons_of_not_seen h,
        freshStates_append xs ys]
      rfl

theorem freshStates_of_seen : ∀ {ss : List State} {seen : Nat},
    (∀ s ∈ ss, seen.testBit s.cursor.left = true) → freshStates seen ss = ([], seen)
  | [], _, _ => rfl
  | s :: ss, seen, h => by
    rw [freshStates_cons_of_seen (h s List.mem_cons_self)]
    exact freshStates_of_seen fun t ht => h t (List.mem_cons_of_mem s ht)

theorem freshStates_map {g : State → State} (hg : ∀ s, (g s).cursor = s.cursor) :
    ∀ (ss : List State) (seen : Nat),
      freshStates seen (ss.map g) = ((freshStates seen ss).1.map g, (freshStates seen ss).2)
  | [], _ => rfl
  | s :: ss, seen => by
    rw [List.map_cons]
    by_cases h : seen.testBit s.cursor.left = true
    · have hgs : seen.testBit (g s).cursor.left = true := by rw [hg, h]
      rw [freshStates_cons_of_seen h, freshStates_cons_of_seen hgs, freshStates_map hg]
    · have hgs : ¬seen.testBit (g s).cursor.left = true := by rw [hg]; exact h
      rw [freshStates_cons_of_not_seen h, freshStates_cons_of_not_seen hgs, freshStates_map hg, hg]
      rfl

theorem mem_of_mem_freshStates {t : State} : ∀ {ss : List State} {seen : Nat},
    t ∈ (freshStates seen ss).1 → t ∈ ss ∧ ¬seen.testBit t.cursor.left = true
  | [], _, h => by cases h
  | s :: ss, seen, h => by
    by_cases hs : seen.testBit s.cursor.left = true
    · rw [freshStates_cons_of_seen hs] at h
      obtain ⟨hm, hn⟩ := mem_of_mem_freshStates h
      exact ⟨List.mem_cons_of_mem s hm, hn⟩
    · rw [freshStates_cons_of_not_seen hs] at h
      rcases List.mem_cons.1 h with rfl | h
      · exact ⟨List.mem_cons_self, hs⟩
      · obtain ⟨hm, hn⟩ := mem_of_mem_freshStates h
        rw [testBit_or_shiftLeft, Bool.or_eq_true, not_or] at hn
        exact ⟨List.mem_cons_of_mem s hm, hn.1⟩

theorem nodup_freshStates : ∀ (ss : List State) (seen : Nat),
    ((freshStates seen ss).1.map (·.cursor.left)).Nodup
  | [], _ => List.nodup_nil
  | s :: ss, seen => by
    by_cases hs : seen.testBit s.cursor.left = true
    · rw [freshStates_cons_of_seen hs]
      exact nodup_freshStates ss seen
    · rw [freshStates_cons_of_not_seen hs, List.map_cons, List.nodup_cons]
      refine ⟨?_, nodup_freshStates ss _⟩
      intro hm
      obtain ⟨t, ht, hts⟩ := List.mem_map.1 hm
      have hn := (mem_of_mem_freshStates ht).2
      rw [testBit_or_shiftLeft, hts] at hn
      simp at hn

theorem freshStates_eq_self : ∀ {ss : List State} {seen : Nat},
    (ss.map (·.cursor.left)).Nodup → (∀ s ∈ ss, ¬seen.testBit s.cursor.left = true) →
      (freshStates seen ss).1 = ss
  | [], _, _, _ => rfl
  | s :: ss, seen, hd, hn => by
    rw [List.map_cons, List.nodup_cons] at hd
    rw [freshStates_cons_of_not_seen (hn s List.mem_cons_self)]
    refine congrArg (s :: ·) (freshStates_eq_self hd.2 fun t ht => ?_)
    have hne : s.cursor.left ≠ t.cursor.left := fun e =>
      hd.1 (e ▸ List.mem_map_of_mem (f := fun u : State => u.cursor.left) ht)
    rw [testBit_or_shiftLeft, Bool.or_eq_true, decide_eq_true_eq, not_or]
    exact ⟨hn t (List.mem_cons_of_mem s ht), hne⟩

theorem head?_freshStates_zero (ss : List State) : (freshStates 0 ss).1.head? = ss.head? := by
  cases ss with
  | nil => rfl
  | cons s ss => rw [freshStates_cons_of_not_seen (by simp)]; rfl

theorem freshStates_append_singleton {s : State} {ts : List State} {seen : Nat}
    (hs : ¬seen.testBit s.cursor.left = true)
    (hts : ∀ t ∈ ts, t.cursor.left ≠ s.cursor.left) :
    freshStates seen (ts ++ [s]) =
      ((freshStates (seen ||| 1 <<< s.cursor.left) ts).1 ++ [s],
        (freshStates (seen ||| 1 <<< s.cursor.left) ts).2) := by
  induction ts generalizing seen with
  | nil => rw [List.nil_append, freshStates_cons_of_not_seen hs]; rfl
  | cons t ts ih =>
    have hne := hts t List.mem_cons_self
    have hts' : ∀ u ∈ ts, u.cursor.left ≠ s.cursor.left :=
      fun u hu => hts u (List.mem_cons_of_mem t hu)
    have hsame : (seen ||| 1 <<< s.cursor.left).testBit t.cursor.left =
        seen.testBit t.cursor.left := by
      rw [testBit_or_shiftLeft, decide_eq_false (Ne.symm hne), Bool.or_false]
    rw [List.cons_append]
    by_cases ht : seen.testBit t.cursor.left = true
    · rw [freshStates_cons_of_seen ht, freshStates_cons_of_seen (hsame.trans ht), ih hs hts']
    · have hs' : ¬(seen ||| 1 <<< t.cursor.left).testBit s.cursor.left = true := by
        rw [testBit_or_shiftLeft, decide_eq_false hne, Bool.or_false]
        exact hs
      rw [freshStates_cons_of_not_seen ht, freshStates_cons_of_not_seen (by rwa [hsame]),
        ih hs' hts', Nat.or_assoc, Nat.or_assoc, Nat.or_comm (1 <<< t.cursor.left)]
      rfl

/-! ## Lists of lists without repetition -/

theorem distinctFrom_cons (seen : Nat) (ss : List State) (rest : Reached) :
    distinctFrom seen (ss :: rest) =
      (freshStates seen ss).1 :: distinctFrom (freshStates seen ss).2 rest := rfl

theorem length_distinctFrom : ∀ (reached : Reached) (seen : Nat),
    (distinctFrom seen reached).length = reached.length
  | [], _ => rfl
  | ss :: rest, seen => by
    rw [distinctFrom_cons, List.length_cons, List.length_cons, length_distinctFrom rest]

theorem flatten_distinctFrom : ∀ (reached : Reached) (seen : Nat),
    (distinctFrom seen reached).flatten = (freshStates seen reached.flatten).1
  | [], _ => rfl
  | ss :: rest, seen => by
    rw [distinctFrom_cons, List.flatten_cons, List.flatten_cons, flatten_distinctFrom rest,
      freshStates_append]

theorem distinctFrom_append : ∀ (xs ys : Reached) (seen : Nat),
    distinctFrom seen (xs ++ ys) =
      distinctFrom seen xs ++ distinctFrom (freshStates seen xs.flatten).2 ys
  | [], _, _ => rfl
  | x :: xs, ys, seen => by
    rw [List.cons_append, distinctFrom_cons, distinctFrom_cons, distinctFrom_append xs ys,
      List.flatten_cons, freshStates_append, List.cons_append]

theorem distinctFrom_eq_self : ∀ {reached : Reached} {seen : Nat},
    (reached.flatten.map (·.cursor.left)).Nodup →
      (∀ s ∈ reached.flatten, ¬seen.testBit s.cursor.left = true) →
        distinctFrom seen reached = reached
  | [], _, _, _ => rfl
  | ss :: rest, seen, hd, hn => by
    rw [List.flatten_cons, List.map_append, List.nodup_append] at hd
    obtain ⟨hss, hrest, hdisj⟩ := hd
    rw [List.flatten_cons] at hn
    have hfresh : (freshStates seen ss).1 = ss :=
      freshStates_eq_self hss fun s hs => hn s (List.mem_append_left _ hs)
    rw [distinctFrom_cons, hfresh, distinctFrom_eq_self hrest]
    intro t ht hseen
    rcases testBit_freshStates.1 hseen with hp | ⟨s, hs, hp⟩
    · exact hn t (List.mem_append_right _ ht) hp
    · exact hdisj _ (List.mem_map_of_mem hs) _ (List.mem_map_of_mem ht) hp

theorem distinct_eq_self {reached : Reached}
    (h : (reached.flatten.map (·.cursor.left)).Nodup) : distinct reached = reached :=
  distinctFrom_eq_self h fun s _ => by simp

/-- States that move by the same number of characters stay apart. -/
theorem nodup_left_of_shift {f : State → Option State} {n : Nat} : ∀ {ss : List State},
    (∀ s ∈ ss, ∀ t, f s = some t → s.cursor.left = t.cursor.left + n) →
      (ss.map (·.cursor.left)).Nodup →
        ((ss.map fun s => (f s).toList).flatten.map (·.cursor.left)).Nodup
  | [], _, _ => List.nodup_nil
  | s :: ss, hf, hd => by
    rw [List.map_cons, List.nodup_cons] at hd
    have ih := nodup_left_of_shift (fun u hu => hf u (List.mem_cons_of_mem s hu)) hd.2
    rw [List.map_cons, List.flatten_cons]
    cases hs : f s with
    | none => exact ih
    | some t =>
      rw [Option.toList_some, List.singleton_append, List.map_cons, List.nodup_cons]
      refine ⟨fun hm => hd.1 ?_, ih⟩
      obtain ⟨v, hv, hvt⟩ := List.mem_map.1 hm
      obtain ⟨vs, hvs, hv⟩ := List.mem_flatten.1 hv
      obtain ⟨u, hu, rfl⟩ := List.mem_map.1 hvs
      have hus : u.cursor.left = s.cursor.left := by
        rw [hf s List.mem_cons_self t hs, hf u (List.mem_cons_of_mem s hu) v (by simpa using hv),
          hvt]
      exact List.mem_map.2 ⟨u, hu, hus⟩

theorem distinct_map_toList {f : State → Option State} {n : Nat} {ss : List State}
    (hf : ∀ s ∈ ss, ∀ t, f s = some t → s.cursor.left = t.cursor.left + n)
    (hd : (ss.map (·.cursor.left)).Nodup) :
    distinct (ss.map fun s => (f s).toList) = ss.map fun s => (f s).toList :=
  distinct_eq_self (nodup_left_of_shift hf hd)

/-! ## Going on from what has been reached -/

theorem regroup_distinctFrom (f : State → List State) : ∀ (reached : Reached) (seen : Nat),
    regroup reached (distinctFrom seen (reached.flatten.map f)) =
      distinctFrom seen (reached.map (·.flatMap f))
  | [], _ => rfl
  | ss :: rest, seen => by
    have hlen : (distinctFrom seen (ss.map f)).length = ss.length := by
      rw [length_distinctFrom, List.length_map]
    rw [List.flatten_cons, List.map_append, distinctFrom_append, regroup, List.take_left' hlen,
      List.drop_left' hlen, flatten_distinctFrom, regroup_distinctFrom f rest, List.map_cons,
      distinctFrom_cons, List.flatMap_def]

/-- Where `f` leads to depends on the position only. -/
def Uniform (f : State → List State) : Prop :=
  ∀ s t : State, s.cursor = t.cursor → (f s).map (·.cursor) = (f t).map (·.cursor)

/-- From the positions in `passed`, `f` leads to positions in `seen` only. -/
def Covers (text : List Char) (f : State → List State) (passed seen : Nat) : Prop :=
  ∀ s : State, s.On text → passed.testBit s.cursor.left = true →
    ∀ t ∈ f s, seen.testBit t.cursor.left = true

variable {text : List Char} {f : State → List State}

theorem Uniform.exists_mem {s t u : State} (hf : Uniform f) (h : s.cursor = t.cursor)
    (hu : u ∈ f s) : ∃ v ∈ f t, v.cursor = u.cursor := by
  have hm : u.cursor ∈ (f t).map (·.cursor) := by
    rw [← hf s t h]
    exact List.mem_map_of_mem hu
  exact List.mem_map.1 hm

theorem Covers.zero : Covers text f 0 0 := by
  intro s _ hp
  simp at hp

theorem Covers.cons {passed seen : Nat} {s : State} (hf : Uniform f)
    (h : Covers text f passed seen) (hs : s.On text) :
    Covers text f (passed ||| 1 <<< s.cursor.left) (freshStates seen (f s)).2 := by
  intro u hu hp t ht
  rw [testBit_or_shiftLeft, Bool.or_eq_true, decide_eq_true_eq] at hp
  rcases hp with hp | hp
  · exact testBit_freshStates.2 (.inl (h u hu hp t ht))
  · obtain ⟨v, hv, hvt⟩ := hf.exists_mem (hu.cursor_eq hs hp.symm) ht
    exact testBit_freshStates.2 (.inr ⟨v, hv, by rw [hvt]⟩)

/-- States at positions that have been passed before do not count for what follows. -/
theorem freshStates_flatMap_freshStates (hf : Uniform f) :
    ∀ {ss : List State} {passed seen : Nat}, Covers text f passed seen →
      (∀ s ∈ ss, s.On text) →
        freshStates seen ((freshStates passed ss).1.flatMap f) = freshStates seen (ss.flatMap f) ∧
          Covers text f (freshStates passed ss).2 (freshStates seen (ss.flatMap f)).2
  | [], _, _, hc, _ => ⟨rfl, hc⟩
  | s :: ss, passed, seen, hc, hon => by
    have hs := hon s List.mem_cons_self
    have hss : ∀ t ∈ ss, t.On text := fun t ht => hon t (List.mem_cons_of_mem s ht)
    rw [List.flatMap_cons, freshStates_append]
    by_cases hp : passed.testBit s.cursor.left = true
    · rw [freshStates_cons_of_seen hp, freshStates_of_seen (hc s hs hp), List.nil_append]
      exact freshStates_flatMap_freshStates hf hc hss
    · obtain ⟨heq, hcov⟩ := freshStates_flatMap_freshStates hf (hc.cons hf hs) hss
      rw [freshStates_cons_of_not_seen hp]
      exact ⟨by rw [List.flatMap_cons, freshStates_append, heq], hcov⟩

theorem distinctFrom_map_flatMap (hf : Uniform f) :
    ∀ {reached : Reached} {passed seen : Nat}, Covers text f passed seen →
      (∀ ss ∈ reached, ∀ s ∈ ss, s.On text) →
        distinctFrom seen ((distinctFrom passed reached).map (·.flatMap f)) =
          distinctFrom seen (reached.map (·.flatMap f))
  | [], _, _, _, _ => rfl
  | ss :: rest, passed, seen, hc, hon => by
    obtain ⟨heq, hcov⟩ := freshStates_flatMap_freshStates hf hc (hon ss List.mem_cons_self)
    rw [distinctFrom_cons, List.map_cons, List.map_cons, distinctFrom_cons, distinctFrom_cons, heq,
      distinctFrom_map_flatMap hf hcov fun ts hts => hon ts (List.mem_cons_of_mem ss hts)]

/-! ## Alternatives -/

theorem freshStates_freshStates : ∀ {ss : List State} {p seen : Nat},
    (∀ i, p.testBit i = true → seen.testBit i = true) →
      freshStates seen (freshStates p ss).1 = freshStates seen ss
  | [], _, _, _ => rfl
  | s :: ss, p, seen, h => by
    by_cases hp : p.testBit s.cursor.left = true
    · rw [freshStates_cons_of_seen hp, freshStates_cons_of_seen (h _ hp),
        freshStates_freshStates h]
    · rw [freshStates_cons_of_not_seen hp]
      by_cases hs : seen.testBit s.cursor.left = true
      · rw [freshStates_cons_of_seen hs, freshStates_cons_of_seen hs, freshStates_freshStates]
        intro i hi
        rw [testBit_or_shiftLeft, Bool.or_eq_true, decide_eq_true_eq] at hi
        rcases hi with hi | rfl
        · exact h i hi
        · exact hs
      · rw [freshStates_cons_of_not_seen hs, freshStates_cons_of_not_seen hs,
          freshStates_freshStates]
        intro i hi
        rw [testBit_or_shiftLeft, Bool.or_eq_true] at hi ⊢
        exact hi.imp_left (h i)

theorem distinctFrom_zipWith_append : ∀ {xs ys : Reached} {p q seen : Nat},
    (∀ i, p.testBit i = true → seen.testBit i = true) →
      (∀ i, q.testBit i = true → seen.testBit i = true) →
        distinctFrom seen ((distinctFrom p xs).zipWith (· ++ ·) (distinctFrom q ys)) =
          distinctFrom seen (xs.zipWith (· ++ ·) ys)
  | [], _, _, _, _, _, _ => rfl
  | _ :: _, [], _, _, _, _, _ => rfl
  | x :: xs, y :: ys, p, q, seen, hp, hq => by
    have hseen : ∀ i, seen.testBit i = true → (freshStates seen x).2.testBit i = true :=
      fun i hi => testBit_freshStates.2 (.inl hi)
    have hhead : freshStates seen ((freshStates p x).1 ++ (freshStates q y).1) =
        freshStates seen (x ++ y) := by
      rw [freshStates_append, freshStates_append, freshStates_freshStates hp,
        freshStates_freshStates fun i hi => hseen i (hq i hi)]
    rw [distinctFrom_cons, distinctFrom_cons, List.zipWith_cons_cons, List.zipWith_cons_cons,
      distinctFrom_cons, distinctFrom_cons, hhead, distinctFrom_zipWith_append]
    · intro i hi
      rw [testBit_freshStates] at hi ⊢
      rcases hi with hi | ⟨s, hs, hi⟩
      · exact .inl (hp i hi)
      · exact .inr ⟨s, List.mem_append_left y hs, hi⟩
    · intro i hi
      rw [testBit_freshStates] at hi ⊢
      rcases hi with hi | ⟨s, hs, hi⟩
      · exact .inl (hq i hi)
      · exact .inr ⟨s, List.mem_append_right x hs, hi⟩

end DocAudit.Pattern

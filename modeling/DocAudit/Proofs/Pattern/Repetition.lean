import DocAudit.Proofs.Pattern.Distinct

/-!
# Repeated characters

A repetition of characters goes through a `span`: the states after any number of characters of the
set.  `explore` works through it task by task and stops at positions that have been visited;
`anyNumber_eq_distinctFrom` says that it finds the spans of all states, each position once, and
that its fuel is enough for that.
-/

namespace DocAudit.Pattern

/-! ## Spans -/

/-- The states after any number of characters of the set, the nearest first. -/
def span (k : CharSet) (s : State) : List State := spanFrom k s.cursor.rest.length s

variable {text : List Char} {k : CharSet} {s t u : State}

theorem span_of_step (h : s.step? k = some t) : span k s = s :: span k t := by
  unfold span
  rw [State.rest_of_step? h, spanFrom, h]

theorem span_of_stop (h : s.step? k = none) : span k s = [s] := by
  unfold span
  cases s.cursor.rest.length with
  | zero => rfl
  | succ n => rw [spanFrom, h]

/-- Induction along a span. -/
theorem span_induction {motive : State → Prop} (stop : ∀ s, s.step? k = none → motive s)
    (step : ∀ s t, s.step? k = some t → motive t → motive s) (s : State) : motive s := by
  cases h : s.step? k with
  | none => exact stop s h
  | some t =>
    have hlt := State.rest_of_step? h
    exact step s t h (span_induction stop step t)
termination_by s.cursor.rest.length

theorem mem_span_self (k : CharSet) (s : State) : s ∈ span k s := by
  cases h : s.step? k with
  | none => rw [span_of_stop h]; exact List.mem_cons_self
  | some t => rw [span_of_step h]; exact List.mem_cons_self

theorem on_of_mem_span (hs : s.On text) (h : u ∈ span k s) :
    u.On text ∧ u.cursor.left ≤ s.cursor.left := by
  induction s using span_induction (k := k) with
  | stop s hstop =>
    rw [span_of_stop hstop, List.mem_singleton] at h
    rw [h]
    exact ⟨hs, Nat.le_refl _⟩
  | step s t hstep ih =>
    rw [span_of_step hstep] at h
    rcases List.mem_cons.1 h with rfl | h
    · exact ⟨hs, Nat.le_refl _⟩
    · obtain ⟨hu, hle⟩ := ih (hs.step hstep) h
      have := hs.left_step hstep
      exact ⟨hu, by omega⟩

theorem span_subset (h : u ∈ span k s) : ∀ v ∈ span k u, v ∈ span k s := by
  induction s using span_induction (k := k) with
  | stop s hstop =>
    have hu : u = s := by
      rw [span_of_stop hstop] at h
      exact List.mem_singleton.1 h
    rw [hu]
    exact fun v hv => hv
  | step s t hstep ih =>
    have hs := span_of_step hstep
    rw [hs] at h
    rcases List.mem_cons.1 h with rfl | h
    · exact fun v hv => hv
    · intro v hv
      rw [hs]
      exact List.mem_cons_of_mem s (ih h v hv)

theorem spanFrom_congr : ∀ (n : Nat) {s t : State}, s.cursor = t.cursor →
    (spanFrom k n s).map (·.cursor) = (spanFrom k n t).map (·.cursor)
  | 0, s, t, h => by simp [spanFrom, h]
  | n + 1, s, t, h => by
    unfold spanFrom
    rcases State.step?_congr h k with ⟨hs, ht⟩ | ⟨u, v, hu, hv, huv⟩
    · simp [hs, ht, h]
    · simp [hu, hv, h, spanFrom_congr n huv]

theorem uniform_span : Uniform (span k) := by
  intro s t h
  unfold span
  rw [h]
  exact spanFrom_congr _ h

/-- States in order of preference, if they are given with the nearest first. -/
def inOrder (greedy : Bool) (found : List State) : List State :=
  if greedy then found.reverse else found

@[simp] theorem mem_inOrder {greedy : Bool} {found : List State} :
    s ∈ inOrder greedy found ↔ s ∈ found := by
  cases greedy <;> simp [inOrder]

theorem map_inOrder {β : Type} (g : State → β) (greedy : Bool) (found : List State) :
    (inOrder greedy found).map g = if greedy then (found.map g).reverse else found.map g := by
  cases greedy <;> simp [inOrder]

theorem explore_nil (next : State → List State) (greedy : Bool) (n seen : Nat)
    (found : List State) : explore next greedy n [] seen found = (found.reverse, seen) := by
  cases n <;> rfl

theorem explore_visit_of_seen {next : State → List State} (greedy : Bool) {seen : Nat}
    (h : ∀ v ∈ span k s, seen.testBit v.cursor.left = true) (n : Nat) (tasks : List Task)
    (found : List State) :
    explore next greedy (n + 1) (.visit s :: tasks) seen found =
      explore next greedy n tasks (freshStates seen (inOrder greedy (span k s))).2
        ((freshStates seen (inOrder greedy (span k s))).1.reverse ++ found) := by
  rw [freshStates_of_seen fun v hv => h v (mem_inOrder.1 hv), explore,
    if_pos (h s (mem_span_self k s))]
  rfl

/-- A visit finds the states of a span that have not been seen, if with a seen state of the span
all after it have been seen too.  It takes at most two tasks for each state. -/
theorem explore_visit (greedy : Bool) (hs : s.On text) {seen : Nat}
    (hclosed : ∀ u ∈ span k s, seen.testBit u.cursor.left = true →
      ∀ v ∈ span k u, seen.testBit v.cursor.left = true) :
    ∃ c ≤ 2 * (s.cursor.rest.length + 1), ∀ n tasks found,
      explore (fun s => (s.step? k).toList) greedy (n + c) (.visit s :: tasks) seen found =
        explore (fun s => (s.step? k).toList) greedy n tasks
          (freshStates seen (inOrder greedy (span k s))).2
          ((freshStates seen (inOrder greedy (span k s))).1.reverse ++ found) := by
  induction s using span_induction (k := k) generalizing seen with
  | stop s hstop =>
    by_cases hseen : seen.testBit s.cursor.left = true
    · exact ⟨1, by omega, explore_visit_of_seen greedy (hclosed s (mem_span_self k s) hseen)⟩
    · refine ⟨2, by omega, fun n tasks found => ?_⟩
      have horder : inOrder greedy (span k s) = [s] := by
        rw [span_of_stop hstop]
        cases greedy <;> rfl
      rw [horder, freshStates_cons_of_not_seen hseen, explore, if_neg hseen, hstop]
      cases greedy <;> rfl
  | step s t hstep ih =>
    by_cases hseen : seen.testBit s.cursor.left = true
    · exact ⟨1, by omega, explore_visit_of_seen greedy (hclosed s (mem_span_self k s) hseen)⟩
    · have ht := hs.step hstep
      have hleft := hs.left_step hstep
      have hbelow : ∀ u ∈ span k t, u.cursor.left ≠ s.cursor.left := by
        intro u hu
        have := (on_of_mem_span ht hu).2
        omega
      -- marking `s` keeps the rest of the span closed, since the span does not come back to `s`
      have hclosed' : ∀ u ∈ span k t,
          (seen ||| 1 <<< s.cursor.left).testBit u.cursor.left = true →
            ∀ v ∈ span k u, (seen ||| 1 <<< s.cursor.left).testBit v.cursor.left = true := by
        intro u hu hb v hv
        rw [testBit_or_shiftLeft, decide_eq_false (hbelow u hu).symm, Bool.or_false] at hb
        have hus : u ∈ span k s := by
          rw [span_of_step hstep]
          exact List.mem_cons_of_mem s hu
        rw [testBit_or_shiftLeft, hclosed u hus hb v hv, Bool.true_or]
      obtain ⟨c, hc, hexplore⟩ := ih ht hclosed'
      have hlen := State.rest_of_step? hstep
      refine ⟨c + 2, by omega, fun n tasks found => ?_⟩
      cases greedy with
      | true =>
        have horder : inOrder true (span k s) = inOrder true (span k t) ++ [s] := by
          rw [span_of_step hstep]
          simp [inOrder]
        have hadd : n + (c + 2) = (n + 1 + c) + 1 := by omega
        rw [horder, freshStates_append_singleton hseen
            (fun u hu => hbelow u (mem_inOrder.1 hu)), hadd, explore, if_neg hseen, if_pos rfl,
          hstep]
        simp only [Option.toList_some, List.map_cons, List.map_nil, List.singleton_append]
        rw [hexplore, explore]
        simp
      | false =>
        have horder : inOrder false (span k s) = s :: inOrder false (span k t) := by
          rw [span_of_step hstep]
          rfl
        have hadd : n + (c + 2) = (n + c + 1) + 1 := by omega
        rw [horder, freshStates_cons_of_not_seen hseen, hadd, explore, if_neg hseen,
          if_neg Bool.false_ne_true, hstep]
        simp only [Option.toList_some, List.map_cons, List.map_nil, List.cons_append,
          List.nil_append]
        rw [explore, hexplore]
        simp

theorem anyNumber_eq_distinctFrom (greedy : Bool) : ∀ {ss : List State} {seen : Nat},
    (∀ s ∈ ss, s.On text) → Covers text (span k) seen seen →
      anyNumber (fun s => (s.step? k).toList) greedy seen ss =
        distinctFrom seen (ss.map fun s => inOrder greedy (span k s))
  | [], _, _, _ => rfl
  | s :: ss, seen, hon, hclosed => by
    have hs := hon s List.mem_cons_self
    obtain ⟨c, hc, hexplore⟩ := explore_visit greedy hs fun u hu hb =>
      hclosed u (on_of_mem_span hs hu).1 hb
    -- the fuel is enough
    have hroom : c ≤ (s.cursor.left + 2) * (s.cursor.left + 2) := by
      have hmul : 2 * (s.cursor.left + 2) ≤ (s.cursor.left + 2) * (s.cursor.left + 2) :=
        Nat.mul_le_mul_right _ (by omega)
      rw [← hs.left] at hc
      omega
    have hrun := hexplore ((s.cursor.left + 2) * (s.cursor.left + 2) - c) [] []
    rw [Nat.sub_add_cancel hroom, explore_nil, List.append_nil, List.reverse_reverse] at hrun
    have hclosed' : Covers text (span k) (freshStates seen (inOrder greedy (span k s))).2
        (freshStates seen (inOrder greedy (span k s))).2 := by
      intro u hu hb v hv
      rw [testBit_freshStates] at hb ⊢
      rcases hb with hb | ⟨w, hw, hwu⟩
      · exact .inl (hclosed u hu hb v hv)
      · have hws := mem_inOrder.1 hw
        obtain ⟨x, hx, hxv⟩ := uniform_span.exists_mem
          (hu.cursor_eq (on_of_mem_span hs hws).1 hwu.symm) hv
        exact .inr ⟨x, mem_inOrder.2 (span_subset hws x hx), by rw [hxv]⟩
    rw [List.map_cons, distinctFrom_cons, anyNumber]
    simp only [hrun]
    rw [anyNumber_eq_distinctFrom greedy (fun t ht => hon t (List.mem_cons_of_mem s ht)) hclosed']

theorem pass?_zero (k : CharSet) (s : State) : pass? k 0 s = some s := rfl

theorem pass?_succ (k : CharSet) (n : Nat) (s : State) :
    pass? k (n + 1) s = (s.step? k).bind (pass? k n) := by
  unfold pass? State.step?
  cases s.cursor.rest with
  | nil => rfl
  | cons c cs =>
    rw [passAll?]
    by_cases hc : k.contains c = true
    · simp only [if_pos hc, Option.bind_some]
      rw [Nat.sub_add_eq, Nat.sub_right_comm]
    · simp only [if_neg hc, Option.map_none, Option.bind_none]

theorem on_of_pass? : ∀ {n : Nat} {s : State}, s.On text → pass? k n s = some t →
    t.On text ∧ s.cursor.left = t.cursor.left + n
  | 0, s, hs, h => by
    cases h
    exact ⟨hs, rfl⟩
  | n + 1, s, hs, h => by
    rw [pass?_succ] at h
    obtain ⟨u, hu, ht⟩ := Option.bind_eq_some_iff.1 h
    obtain ⟨hton, hleft⟩ := on_of_pass? (hs.step hu) ht
    have := hs.left_step hu
    exact ⟨hton, by omega⟩

theorem pass?_congr : ∀ (n : Nat) {s t : State}, s.cursor = t.cursor →
    (pass? k n s).map (·.cursor) = (pass? k n t).map (·.cursor)
  | 0, s, t, h => by simp [pass?_zero, h]
  | n + 1, s, t, h => by
    rw [pass?_succ, pass?_succ]
    rcases State.step?_congr h k with ⟨hs, ht⟩ | ⟨u, v, hu, hv, huv⟩
    · rw [hs, ht]
    · rw [hu, hv]
      exact pass?_congr n huv

theorem pass?_eq_some_iff : ∀ {n : Nat} {s : State},
    pass? k n s = some t ↔
      ∃ cs, cs.length = n ∧ (∀ c ∈ cs, k.contains c = true) ∧ s.read? cs = some t
  | 0, s => by
    rw [pass?_zero]
    constructor
    · intro h
      exact ⟨[], rfl, fun c hc => (by cases hc), h⟩
    · rintro ⟨cs, hlen, _, h⟩
      cases List.length_eq_zero_iff.1 hlen
      exact h
  | n + 1, s => by
    rw [pass?_succ, Option.bind_eq_some_iff]
    simp only [State.step?_eq_some_iff_read?, pass?_eq_some_iff]
    constructor
    · rintro ⟨u, ⟨c, hc, hu⟩, cs, hlen, hcs, ht⟩
      refine ⟨c :: cs, by rw [List.length_cons, hlen], List.forall_mem_cons.2 ⟨hc, hcs⟩, ?_⟩
      rw [State.read?_cons, State.read?_singleton_iff.1 hu]
      exact ht
    · rintro ⟨cs, hlen, hcs, ht⟩
      cases cs with
      | nil => cases hlen
      | cons c cs =>
        obtain ⟨hc, hcs⟩ := List.forall_mem_cons.1 hcs
        rw [State.read?_cons] at ht
        obtain ⟨u, hu, ht⟩ := Option.bind_eq_some_iff.1 ht
        exact ⟨u, ⟨c, hc, State.read?_singleton_iff.2 hu⟩, cs, Nat.succ.inj hlen, hcs, ht⟩

theorem mem_span_iff_pass? : t ∈ span k s ↔ ∃ n, pass? k n s = some t := by
  induction s using span_induction (k := k) with
  | stop s hstop =>
    rw [span_of_stop hstop, List.mem_singleton]
    constructor
    · rintro rfl
      exact ⟨0, rfl⟩
    · rintro ⟨n, hn⟩
      cases n with
      | zero => cases hn; rfl
      | succ n => rw [pass?_succ, hstop] at hn; cases hn
  | step s u hstep ih =>
    rw [span_of_step hstep, List.mem_cons, ih]
    constructor
    · rintro (rfl | ⟨n, hn⟩)
      · exact ⟨0, rfl⟩
      · exact ⟨n + 1, by rw [pass?_succ, hstep]; exact hn⟩
    · rintro ⟨n, hn⟩
      cases n with
      | zero => cases hn; exact .inl rfl
      | succ n => rw [pass?_succ, hstep] at hn; exact .inr ⟨n, hn⟩

end DocAudit.Pattern

import DocAudit.Proofs.Pattern.Leftmost

/-!
# Lazy repetition

A lazy repetition gives way as soon as what comes after it matches.  So the text that it takes up
is known from the same two facts as a leftmost match: after no shorter text does the rest of the
expression match (`NoMatchIn`), and after this one it does (`Takes`).

* `takes_lazy_seq` and `takes_lazyGroup_seq`: what a lazy repetition at the start takes up.
* `lastCapture?_textStart`: the group of a pattern that is bound to the start of the text.
-/

namespace DocAudit.Pattern

variable {cs ds tail rest front : List Char} {k : CharSet} {s t u v : State} {b e : Expr} {n : Nat}
  {c : Char} {groups : List (Nat × List Char)}

/-- One or more characters of a set, as few as possible. -/
def lazySome (k : CharSet) : Expr := .repeated (.set k) 1 none false

theorem noMatchIn_of_forall : ∀ {front : List Char},
    (∀ before c after, front = before ++ c :: after →
      ∀ s : State, s.cursor.rest = c :: (after ++ rest) → ways e s = []) → NoMatchIn e front rest
  | [], _ => trivial
  | c :: front, h => by
    refine ⟨h [] c front rfl, noMatchIn_of_forall fun before d after hfront => ?_⟩
    exact h (c :: before) d after (congrArg (c :: ·) hfront)

/-! ## The preferred way -/

/-- The ways of a lazy repetition, the shortest first. -/
theorem ways_lazySome (h : s.step? k = some u) : ways (lazySome k) s = span k u := by
  have hpass : pass? k 1 s = some u := by rw [pass?_succ, h, Option.bind_some, pass?_zero]
  unfold lazySome
  rw [ways, hpass]
  exact List.append_nil _

theorem span_eq_cons (k : CharSet) (s : State) : ∃ ss, span k s = s :: ss := by
  cases h : s.step? k with
  | none => exact ⟨[], span_of_stop h⟩
  | some t => exact ⟨span k t, span_of_step h⟩

/-- Along a span, the first state from which there is a way is preferred.  What is done to the
states on the way must leave them where they are. -/
theorem head?_flatMap_span {g : State → State} (hg : ∀ s, (g s).cursor = s.cursor)
    (hcs : ∀ c ∈ cs, k.contains c = true) (hread : s.read? cs = some t)
    (hfront : NoMatchIn b cs t.cursor.rest) (ht : preferred? b (g t) = some v) :
    (((span k s).map g).flatMap (ways b)).head? = some v := by
  induction cs generalizing s with
  | nil =>
    cases hread
    obtain ⟨ss, hspan⟩ := span_eq_cons k t
    have ht : (ways b (g t)).head? = some v := ht
    rw [hspan, List.map_cons, List.flatMap_cons, List.head?_append, ht, Option.some_or]
  | cons c cs ih =>
    obtain ⟨u, hu, hread'⟩ := Option.bind_eq_some_iff.1 (s.read?_append [c] cs ▸ hread)
    have hstep : s.step? k = some u :=
      State.step?_eq_some_iff_read?.2 ⟨c, hcs c List.mem_cons_self, hu⟩
    have hnone : ways b (g s) = [] := hfront.1 (g s) (by rw [hg, State.rest_of_read? hread]; rfl)
    rw [span_of_step hstep, List.map_cons, List.flatMap_cons, hnone, List.nil_append]
    exact ih (fun d hd => hcs d (List.mem_cons_of_mem c hd)) hread' hfront.2

/-- A lazy repetition takes up `c :: cs` if after no part of it, and then after the whole, the
expression `b` matches. -/
theorem exists_lazySome {text : List Char} (hs : s.On text)
    (hrest : s.cursor.rest = c :: cs ++ (ds ++ tail)) (hcs : ∀ d ∈ c :: cs, k.contains d = true)
    (hfront : NoMatchIn b cs (ds ++ tail)) {g : State → State}
    (hg : ∀ s, (g s).cursor = s.cursor) :
    ∃ u, s.read? (c :: cs) = some u ∧ u.On text ∧ u.cursor.rest = ds ++ tail ∧
      ∀ v, preferred? b (g u) = some v →
        (((ways (lazySome k) s).map g).flatMap (ways b)).head? = some v := by
  obtain ⟨u, hu, hurest⟩ := State.exists_read? (c :: cs) hrest
  obtain ⟨w, hw, hwu⟩ := Option.bind_eq_some_iff.1 (s.read?_append [c] cs ▸ hu)
  have hstep : s.step? k = some w :=
    State.step?_eq_some_iff_read?.2 ⟨c, hcs c List.mem_cons_self, hw⟩
  refine ⟨u, hu, hs.read hu, hurest, fun v hv => ?_⟩
  rw [ways_lazySome hstep]
  exact head?_flatMap_span hg (fun d hd => hcs d (List.mem_cons_of_mem c hd)) hwu
    (hurest ▸ hfront) hv

theorem takes_lazy_seq (hcs : ∀ d ∈ c :: cs, k.contains d = true)
    (hfront : NoMatchIn b cs (ds ++ tail)) (hb : Takes b ds tail groups) :
    Takes (.seq (lazySome k) b) (c :: cs ++ ds) tail groups := by
  intro text s hs hrest
  rw [List.append_assoc] at hrest
  obtain ⟨u, hu, hon, hurest, hway⟩ := exists_lazySome (g := id) hs hrest hcs hfront fun _ => rfl
  obtain ⟨t, ht, honT, hrestT, hclosedT⟩ := hb hon hurest
  refine ⟨t, ?_, honT, hrestT, ?_⟩
  · have hhead := hway t ht
    rw [List.map_id] at hhead
    exact hhead
  · rw [hclosedT, State.closed, State.groups_of_read? hu]
    rfl

theorem takes_lazyGroup_seq (n : Nat) (hcs : ∀ d ∈ c :: cs, k.contains d = true)
    (hfront : NoMatchIn b cs (ds ++ tail)) (hb : Takes b ds tail groups) :
    Takes (.seq (.group n (lazySome k)) b) (c :: cs ++ ds) tail (groups ++ [(n, c :: cs)]) := by
  intro text s hs hrest
  rw [List.append_assoc] at hrest
  obtain ⟨u, hu, hon, hurest, hway⟩ :=
    exists_lazySome (g := (·.close n s.cursor)) hs hrest hcs hfront fun _ => rfl
  obtain ⟨t, ht, honT, hrestT, hclosedT⟩ := hb (s := u.close n s.cursor) (hon.congr rfl) hurest
  have hlength : s.cursor.left - u.cursor.left = (c :: cs).length := by
    rw [hs.left_read hu, Nat.add_sub_cancel_left]
  refine ⟨t, hway t ht, honT, hrestT, ?_⟩
  have hclose : (u.close n s.cursor).closed = (n, c :: cs) :: s.closed := by
    calc (u.close n s.cursor).closed
        = (n, s.cursor.rest.take (s.cursor.left - u.cursor.left)) :: u.closed := rfl
      _ = (n, c :: cs) :: s.closed := by
        rw [hlength, hrest, List.take_left, State.closed, State.groups_of_read? hu]
        rfl
  rw [hclosedT, hclose, List.append_assoc, List.singleton_append]

/-! ## The ends of a text -/

theorem takes_textEnd : Takes (.assert .textEnd) [] [] [] := by
  intro text s hs hrest
  refine ⟨s, ?_, hs, hrest, rfl⟩
  have hholds : Assertion.textEnd.holds s.cursor = true := List.isEmpty_iff.2 hrest
  unfold preferred? ways
  rw [if_pos hholds]
  rfl

/-- **The last group of a match from the start of the text is captured.** -/
theorem lastCapture?_textStart {ps : PatternSet} {key line : String}
    (hkey : Assoc.get? key ps.entries = some ⟨.seq (.assert .textStart) e⟩)
    (he : e.repeatsChars = true) (hplain : e.isPlain = true) (hcount : e.groupCount = 1)
    (htakes : Takes e cs tail [(1, ds)]) (hline : line.toList = cs ++ tail) :
    ps.lastCapture? line key = some (String.ofList ds) := by
  let s : State := ⟨⟨line.toList.length, none, line.toList⟩, []⟩
  have hon : s.On line.toList := ⟨rfl, [], rfl, rfl⟩
  obtain ⟨t, ht, _, _, hclosed⟩ := htakes hon hline
  have hstart : preferred? (.seq (.assert .textStart) e) s = some t := preferred?_seq rfl ht
  have hassert : (Expr.seq (.assert .textStart) e).repeatsChars = true := he
  have hfirst : NoMatchIn (.seq (.assert .textStart) e) [] line.toList := trivial
  have hsearch := search_of_preferred? hassert hplain hfirst hstart
  rw [List.nil_append] at hsearch
  have hgroups : (Expr.seq (.assert .textStart) e).groupCount = 1 := by
    rw [Expr.groupCount, hcount]
    rfl
  exact lastCapture?_of_search hkey hgroups hsearch hclosed

end DocAudit.Pattern

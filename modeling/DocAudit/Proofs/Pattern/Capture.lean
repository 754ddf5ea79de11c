import DocAudit.Output.PatternSet
import DocAudit.Proofs.Lists
import DocAudit.Proofs.Pattern.Backtrack

/-!
# What is captured stands in the text

Whatever the expression, and whether it is matched directly or through its graph, a search only
moves forward in the text that it is given and closes groups where it has been.  `State.Within`
says so for one state.  It is shown for each way in which states are moved (`Keeps`), and so for
all states that a search comes to.

* `search_within`: the match that is found lies in the text, together with its groups.
* `infix_of_lastCapture?`: a captured text is a part of the text.
* `lineNumber?_empty`: hence the empty text has no line number, whatever the patterns are.
-/

namespace DocAudit

namespace Pattern

variable {text cs : List Char} {k : CharSet} {s t u : State} {n : Nat}

/-! ## Single states -/

/-- What comes after the state is an end of the text, and so is what came after the start of each
group that has been closed. -/
structure State.Within (text : List Char) (s : State) : Prop where
  rest : s.cursor.rest <:+ text
  groups : ∀ g ∈ s.groups, g.start <:+ text

theorem State.Within.step (h : s.Within text) (hstep : s.step? k = some t) : t.Within text := by
  obtain ⟨c, cs, hrest, _, rfl⟩ := State.step?_eq_some_iff.1 hstep
  refine ⟨?_, h.groups⟩
  exact (List.suffix_cons c cs).trans (hrest ▸ h.rest)

theorem State.Within.read : ∀ {cs : List Char} {s : State},
    s.Within text → s.read? cs = some t → t.Within text
  | [], s, h, hread => by
    cases hread
    exact h
  | c :: cs, s, h, hread => by
    obtain ⟨u, hu, hread⟩ := Option.bind_eq_some_iff.1 hread
    exact (h.step hu).read hread

theorem State.Within.pass (h : s.Within text) (hpass : pass? k n s = some t) : t.Within text := by
  obtain ⟨cs, _, _, hread⟩ := pass?_eq_some_iff.1 hpass
  exact h.read hread

theorem State.Within.close {start : Cursor} (h : s.Within text) (hstart : start.rest <:+ text)
    (index : Nat) : (s.close index start).Within text := by
  refine ⟨h.rest, fun g hg => ?_⟩
  rcases List.mem_cons.1 hg with rfl | hg
  · exact hstart
  · exact h.groups g hg

theorem State.Within.spanFrom : ∀ {n : Nat} {s : State},
    s.Within text → t ∈ spanFrom k n s → t.Within text
  | 0, s, h, ht => by
    cases List.mem_singleton.1 ht
    exact h
  | n + 1, s, h, ht => by
    rw [Pattern.spanFrom] at ht
    rcases List.mem_cons.1 ht with rfl | ht
    · exact h
    · cases hstep : s.step? k with
      | none => rw [hstep] at ht; cases ht
      | some u => rw [hstep] at ht; exact (h.step hstep).spanFrom ht

theorem State.Within.group (h : s.Within text) (hgroup : s.group? n = some cs) : cs <:+: text := by
  obtain ⟨g, hg, rfl⟩ := Option.map_eq_some_iff.1 hgroup
  have hstart : g.start <:+ text := h.groups g (List.mem_of_find?_eq_some hg)
  exact (List.take_prefix _ _).isInfix.trans hstart.isInfix

/-! ## Many states at once -/

/-- All states that are reached from states with a property have the property too. -/
def Keeps (P : State → Prop) (step : List State → Reached) : Prop :=
  ∀ ⦃ss : List State⦄, (∀ s ∈ ss, P s) → ∀ t ∈ (step ss).flatten, P t

variable {P : State → Prop} {step : List State → Reached} {reached : Reached}

theorem mem_flatten_regroup : ∀ {reached further : Reached},
    t ∈ (regroup reached further).flatten → t ∈ further.flatten
  | [], _, h => by cases h
  | ss :: rest, further, h => by
    rw [regroup, List.flatten_cons, List.mem_append] at h
    rw [← List.take_append_drop ss.length further, List.flatten_append, List.mem_append]
    exact h.imp_right mem_flatten_regroup

theorem mem_flatten_of_distinct (h : t ∈ (distinct reached).flatten) : t ∈ reached.flatten := by
  rw [distinct, flatten_distinctFrom] at h
  exact (mem_of_mem_freshStates h).1

theorem keeps_map {f : State → List State} (hf : ∀ s, P s → ∀ t ∈ f s, P t) :
    Keeps P fun ss => ss.map f := by
  intro ss hss t ht
  obtain ⟨ts, hts, ht⟩ := List.mem_flatten.1 ht
  obtain ⟨s, hs, rfl⟩ := List.mem_map.1 hts
  exact hf s (hss s hs) t ht

theorem keeps_singletons : Keeps P fun ss => ss.map ([·]) :=
  keeps_map fun _ hs _ ht => List.mem_singleton.1 ht ▸ hs

theorem Keeps.advance (h : Keeps P step) (hreached : ∀ t ∈ reached.flatten, P t) :
    ∀ t ∈ (advance step reached).flatten, P t :=
  fun t ht => h hreached t (mem_flatten_regroup ht)

theorem Keeps.exactly (h : Keeps P step) : ∀ {n : Nat} {reached : Reached},
    (∀ t ∈ reached.flatten, P t) → ∀ t ∈ (exactly step n reached).flatten, P t
  | 0, _, hreached => hreached
  | n + 1, reached, hreached => by
    rw [Pattern.exactly]
    split
    · exact hreached
    · exact h.exactly (h.advance hreached)

theorem Keeps.atMost (h : Keeps P step) (greedy : Bool) : ∀ n, Keeps P (atMost step greedy n)
  | 0 => keeps_singletons
  | n + 1 => by
    intro ss hss t ht
    rw [Pattern.atMost] at ht
    split at ht
    · cases ht
    · have hmore := (h.atMost greedy n).advance (h hss)
      obtain ⟨ts, hts, ht⟩ := List.mem_flatten.1 (mem_flatten_of_distinct ht)
      obtain ⟨s, hs, us, hus, rfl⟩ := exists_of_mem_zipWith hts
      have hmem : t = s ∨ t ∈ us := by
        cases greedy <;> simpa [or_comm] using ht
      rcases hmem with rfl | hmem
      · exact hss _ hs
      · exact hmore t (List.mem_flatten.2 ⟨us, hus, hmem⟩)

def Task.state : Task → State
  | .visit s => s
  | .finish s => s

theorem explore_keeps {next : State → List State} (hnext : ∀ s, P s → ∀ t ∈ next s, P t)
    (greedy : Bool) : ∀ {fuel : Nat} {tasks : List Task} {seen : Nat} {found : List State},
      (∀ task ∈ tasks, P task.state) → (∀ s ∈ found, P s) →
        ∀ t ∈ (explore next greedy fuel tasks seen found).1, P t
  | 0, _, _, _, _, hfound => fun t ht => hfound t (List.mem_reverse.1 ht)
  | _ + 1, [], _, _, _, hfound => fun t ht => hfound t (List.mem_reverse.1 ht)
  | n + 1, .finish s :: tasks, seen, found, htasks, hfound => by
    obtain ⟨hs, htasks⟩ := List.forall_mem_cons.1 htasks
    rw [explore]
    exact explore_keeps hnext greedy htasks (List.forall_mem_cons.2 ⟨hs, hfound⟩)
  | n + 1, .visit s :: tasks, seen, found, htasks, hfound => by
    obtain ⟨hs, htasks⟩ := List.forall_mem_cons.1 htasks
    have hvisits : ∀ task ∈ (next s).map Task.visit, P task.state := by
      intro task htask
      obtain ⟨t, ht, rfl⟩ := List.mem_map.1 htask
      exact hnext s hs t ht
    have hfinish : P (Task.finish s).state := hs
    rw [explore]
    split
    · exact explore_keeps hnext greedy htasks hfound
    · -- both orders have the same tasks
      split
      · refine explore_keeps hnext greedy ?_ hfound
        exact List.forall_mem_append.2 ⟨hvisits, List.forall_mem_cons.2 ⟨hfinish, htasks⟩⟩
      · refine explore_keeps hnext greedy ?_ hfound
        exact List.forall_mem_append.2 ⟨List.forall_mem_cons.2 ⟨hfinish, hvisits⟩, htasks⟩

theorem keeps_anyNumber {next : State → List State} (hnext : ∀ s, P s → ∀ t ∈ next s, P t)
    (greedy : Bool) : ∀ seen, Keeps P (anyNumber next greedy seen) := by
  intro seen ss
  induction ss generalizing seen with
  | nil => exact fun _ t ht => by cases ht
  | cons s ss ih =>
    intro hss t ht
    obtain ⟨hs, hss⟩ := List.forall_mem_cons.1 hss
    rw [anyNumber, List.flatten_cons, List.mem_append] at ht
    rcases ht with ht | ht
    · refine explore_keeps hnext greedy ?_ ?_ t ht
      · exact List.forall_mem_singleton.2 hs
      · exact List.forall_mem_nil P
    · exact ih _ hss t ht

theorem Keeps.rounds (h : Keeps P step) (min : Nat) (max : Option Nat) (greedy : Bool) :
    Keeps P (rounds step min max greedy) := by
  intro ss hss
  have hfirst := h.exactly (n := min) (keeps_singletons hss)
  have hsingle : ∀ s, P s → ∀ t ∈ (step [s]).flatten, P t := fun s hs =>
    h (List.forall_mem_singleton.2 hs)
  unfold Pattern.rounds
  cases max with
  | some m => exact (h.atMost greedy (m - min)).advance hfirst
  | none => exact (keeps_anyNumber hsingle greedy 0).advance hfirst

theorem keeps_setRounds (k : CharSet) (min : Nat) (max : Option Nat) (greedy : Bool) :
    Keeps (State.Within text) (setRounds k min max greedy) := by
  intro ss hss
  have hpass : Keeps (State.Within text) fun ss => ss.map fun s => (pass? k min s).toList :=
    keeps_map fun s hs t ht => hs.pass (Option.mem_toList.1 ht)
  have hfirst := hpass hss
  unfold setRounds
  cases max with
  | some m =>
    intro t ht
    obtain ⟨ts, hts, ht⟩ := List.mem_flatten.1 (mem_flatten_of_distinct ht)
    obtain ⟨us, hus, rfl⟩ := List.mem_map.1 hts
    have hspan : t ∈ us.flatMap (spanFrom k (m - min)) := by
      cases greedy <;> simpa using ht
    obtain ⟨u, hu, ht⟩ := List.mem_flatMap.1 hspan
    exact (hfirst u (List.mem_flatten.2 ⟨us, hus, hu⟩)).spanFrom ht
  | none =>
    have hnext : ∀ s, State.Within text s → ∀ t ∈ (s.step? k).toList, State.Within text t :=
      fun s hs t ht => hs.step (Option.mem_toList.1 ht)
    exact (keeps_anyNumber hnext greedy 0).advance hfirst

/-- Repetitions of one character go through the text by themselves. -/
theorem ends_repeated (e : Expr) (min : Nat) (max : Option Nat) (greedy : Bool) :
    (∃ k, ends (.repeated e min max greedy) = setRounds k min max greedy) ∨
      ends (.repeated e min max greedy) = rounds (ends e) min max greedy := by
  cases e with
  | set k => exact .inl ⟨k, by funext ss; rw [ends]⟩
  | literal cs =>
    rcases cs with _ | ⟨c, _ | ⟨d, cs⟩⟩
    · exact .inr (by funext ss; rw [ends] <;> (intro _ h; cases h))
    · exact .inl ⟨.single c, by funext ss; rw [ends]⟩
    · exact .inr (by funext ss; rw [ends] <;> (intro _ h; cases h))
  | _ => exact .inr (by funext ss; rw [ends] <;> (intro _ h; cases h))

/-- **Matching stays in the text.** -/
theorem keeps_ends (e : Expr) : Keeps (State.Within text) (ends e) := by
  induction e with
  | empty => exact keeps_singletons
  | literal cs => exact keeps_map fun s hs t ht => hs.read (Option.mem_toList.1 ht)
  | set k => exact keeps_map fun s hs t ht => hs.step (Option.mem_toList.1 ht)
  | assert a =>
    refine keeps_map fun s hs t ht => ?_
    split at ht
    · cases List.mem_singleton.1 ht
      exact hs
    · cases ht
  | group index e ih =>
    intro ss hss t ht
    rw [ends] at ht
    obtain ⟨ts, hts, ht⟩ := List.mem_flatten.1 ht
    obtain ⟨s, hs, us, hus, rfl⟩ := exists_of_mem_zipWith hts
    obtain ⟨u, hu, rfl⟩ := List.mem_map.1 ht
    have hwithin := ih hss u (List.mem_flatten.2 ⟨us, hus, hu⟩)
    exact hwithin.close (hss s hs).rest index
  | seq a b iha ihb => exact fun ss hss => ihb.advance (iha hss)
  | alt a b iha ihb =>
    intro ss hss t ht
    rw [ends] at ht
    obtain ⟨ts, hts, ht⟩ := List.mem_flatten.1 (mem_flatten_of_distinct ht)
    obtain ⟨us, hus, vs, hvs, rfl⟩ := exists_of_mem_zipWith hts
    rcases List.mem_append.1 ht with ht | ht
    · exact iha hss t (List.mem_flatten.2 ⟨us, hus, ht⟩)
    · exact ihb hss t (List.mem_flatten.2 ⟨vs, hvs, ht⟩)
  | repeated e min max greedy ih =>
    rcases ends_repeated e min max greedy with ⟨k, hends⟩ | hends
    · exact hends ▸ keeps_setRounds k min max greedy
    · exact hends ▸ ih.rounds min max greedy

/-! ## Graphs -/

/-- The thread is in the text, and so are the places where it entered groups. -/
structure Thread.Within (text : List Char) (t : Thread) : Prop where
  state : t.state.Within text
  entered : ∀ p ∈ t.entered, p.2.rest <:+ text

/-- The step lemma: where a thread goes on, it stays in the text. -/
theorem Graph.within_of_follow {g : Graph} {t : Thread} {next : List Thread}
    (h : t.Within text) (hnext : g.follow t = .ok next) : ∀ u ∈ next, u.Within text := by
  unfold follow at hnext
  split at hnext
  · cases hnext
    exact List.forall_mem_nil _
  · cases hnext
  · cases hnext
    intro u hu
    obtain ⟨s, hs, rfl⟩ := List.mem_map.1 hu
    exact ⟨h.state.step (Option.mem_toList.1 hs), h.entered⟩
  · cases hnext
    split
    · exact List.forall_mem_singleton.2 ⟨h.state, h.entered⟩
    · exact List.forall_mem_nil _
  · cases hnext
    refine List.forall_mem_singleton.2 ⟨h.state, ?_⟩
    exact List.forall_mem_cons.2 ⟨h.state.rest, h.entered⟩
  · split at hnext
    · rename_i start hfind
      cases hnext
      refine List.forall_mem_singleton.2 ⟨?_, h.entered⟩
      exact h.state.close (h.entered _ (List.mem_of_find?_eq_some hfind)) _
    · cases hnext
      exact List.forall_mem_nil _
  · cases hnext
    refine List.forall_mem_cons.2 ⟨⟨h.state, h.entered⟩, ?_⟩
    exact List.forall_mem_singleton.2 ⟨h.state, h.entered⟩

theorem Graph.eq_of_follow_error {g : Graph} {t : Thread} (h : g.follow t = .error s) :
    s = t.state := by
  unfold follow at h
  split at h
  case h_2 => cases h; rfl
  case h_6 => split at h <;> cases h
  all_goals cases h

/-- The run lemma: the end of the thread that arrives first lies in the text. -/
theorem Graph.within_of_run {g : Graph} {width : Nat} : ∀ {fuel : Nat} {threads : List Thread}
    {visited : Std.HashSet Nat}, (∀ t ∈ threads, t.Within text) →
      g.run width fuel threads visited = some s → s.Within text
  | 0, _, _, _, h => by cases h
  | _ + 1, [], _, _, h => by cases h
  | n + 1, t :: threads, visited, hthreads, h => by
    obtain ⟨ht, hthreads⟩ := List.forall_mem_cons.1 hthreads
    rw [run] at h
    split at h
    · rename_i hend
      cases h
      exact eq_of_follow_error hend ▸ ht.state
    · rename_i hnext
      dsimp only at h
      split at h
      · exact within_of_run hthreads h
      · obtain ⟨hfirst, hsecond⟩ := List.forall_mem_cons.1 (within_of_follow ht hnext)
        refine within_of_run (List.forall_mem_cons.2 ⟨hfirst, ?_⟩) h
        exact List.forall_mem_cons.2 ⟨hsecond _ List.mem_cons_self, hthreads⟩
    · rename_i hnext
      exact within_of_run (List.forall_mem_append.2 ⟨within_of_follow ht hnext, hthreads⟩) h

/-! ## Searching -/

theorem within_of_mem_startStates (h : s ∈ startStates text) : s.Within text := by
  obtain ⟨front, rest, rfl, rfl⟩ := mem_startStates_iff.1 h
  exact ⟨List.suffix_append front rest, List.forall_mem_nil _⟩

/-- **A search stays in the text.** -/
theorem search_within {e : Expr} (h : search e text = some s) : s.Within text := by
  have hstart : ∀ s ∈ startStates text, s.Within text := fun _ => within_of_mem_startStates
  unfold search at h
  split at h
  · exact keeps_ends e hstart s (List.mem_of_mem_head? h)
  · refine Graph.within_of_run ?_ h
    intro t ht
    obtain ⟨s, hs, rfl⟩ := List.mem_map.1 ht
    exact ⟨hstart s hs, List.forall_mem_nil _⟩

/-- **What is captured is a part of the text.** -/
theorem infix_of_captures? {p : Pattern} {line : String} {texts : List String}
    (h : p.captures? line = some texts) : ∀ c ∈ texts, c.toList <:+: line.toList := by
  obtain ⟨s, hs, rfl⟩ := Option.map_eq_some_iff.1 h
  intro c hc
  obtain ⟨i, _, rfl⟩ := List.mem_map.1 hc
  rw [String.toList_ofList]
  cases hgroup : s.group? (i + 1) with
  | none => exact List.nil_infix
  | some cs => exact (search_within hs).group hgroup

end Pattern

namespace PatternSet

variable {ps : PatternSet} {key : String}

theorem infix_of_lastCapture? {line c : String} (h : ps.lastCapture? line key = some c) :
    c.toList <:+: line.toList := by
  have hmem : c ∈ ps.captures line key := List.mem_of_getLast? h
  unfold captures at hmem
  cases hp : (Assoc.get? key ps.entries).bind (·.captures? line) with
  | none => rw [hp] at hmem; cases hmem
  | some texts =>
    rw [hp] at hmem
    obtain ⟨p, _, htexts⟩ := Option.bind_eq_some_iff.1 hp
    exact Pattern.infix_of_captures? htexts c hmem

/-- **The empty text has no line number,** since all that can be captured in it is empty. -/
theorem lineNumber?_empty (ps : PatternSet) (key : String) : ps.lineNumber? "" key = none := by
  unfold lineNumber?
  cases h : ps.lastCapture? "" key with
  | none => rfl
  | some c =>
    have hnil : c.toList = [] := List.infix_nil.1 (infix_of_lastCapture? h)
    rw [Option.bind_some, hnil]
    rfl

end PatternSet

end DocAudit

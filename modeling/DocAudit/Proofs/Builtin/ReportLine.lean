import DocAudit.Builtin.Undocumented
import DocAudit.Proofs.Pattern.Lazy
import DocAudit.Proofs.Text.ReadBack

/-!
# What the patterns of report lines find

A report line is a file, a line number and a path.  The file is not under control and may contain
colons and digits, so that there can be several places where a line may be split (`IsSplit`).  Each
of the four patterns of the validator searches for a split by itself.  All of them are lazy at the
start, so each of them takes the first split that it can go on from:

* `isHeader_iff`: a line is a report line if it has a split with something behind it.
* `captured_location` and `captured_line` give the parts of the first split of all.
* `captured_message` gives what is behind the first split with something behind it.
-/

namespace DocAudit.Undocumented

open Pattern

/-! ## Splits -/

/-- A line split at a mark: a colon, decimal digits, a colon and a blank, with at least one
character before it. -/
structure IsSplit (front digits back line : List Char) : Prop where
  eq : line = front ++ ':' :: (digits ++ ':' :: ' ' :: back)
  front_ne : front ≠ []
  digits_ne : digits ≠ []
  digit : ∀ c ∈ digits, Unicode.isDecimalDigit c = true

/-- The first of the splits with something acceptable behind the mark. -/
structure FirstSplit (ok : List Char → Prop) (front digits back line : List Char) : Prop
    extends IsSplit front digits back line where
  accepted : ok back
  least : ∀ {front' digits' back'}, IsSplit front' digits' back' line → ok back' →
    front.length ≤ front'.length

variable {ok : List Char → Prop} {front digits back line rest : List Char} {s t : State}

theorem IsSplit.append (h : IsSplit front digits back line) (rest : List Char) :
    IsSplit front digits (back ++ rest) (line ++ rest) := by
  refine ⟨?_, h.front_ne, h.digits_ne, h.digit⟩
  rw [h.eq]
  simp

theorem IsSplit.length_lt (h : IsSplit front digits back line) : front.length < line.length := by
  rw [h.eq]
  simp

theorem IsSplit.front_noFeed (h : IsSplit front digits back line) (hfeed : '\n' ∉ line) :
    '\n' ∉ front := fun hm => hfeed (h.eq ▸ List.mem_append_left _ hm)

theorem IsSplit.back_noFeed (h : IsSplit front digits back line) (hfeed : '\n' ∉ line) :
    '\n' ∉ back := fun hm => hfeed (by rw [h.eq]; simp [hm])

/-- A mark that starts in a text with a colon behind it lies in the text, unless a blank comes
after the colon. -/
theorem IsSplit.of_append (h : IsSplit front digits back (line ++ ':' :: rest))
    (hlt : front.length < line.length) (hrest : rest.head? ≠ some ' ') :
    ∃ back', IsSplit front digits back' line := by
  obtain ⟨later, rfl, hmark⟩ : ∃ later, line = front ++ ':' :: later ∧
      later ++ ':' :: rest = digits ++ ':' :: ' ' :: back := by
    rcases List.append_eq_append_iff.1 h.eq with ⟨between, rfl, _⟩ | ⟨later, rfl, hmark⟩
    · rw [List.length_append] at hlt
      omega
    · cases later with
      | nil =>
        rw [List.append_nil] at hlt
        omega
      | cons c later =>
        obtain ⟨rfl, hlater⟩ := List.cons.inj hmark
        exact ⟨later, rfl, hlater.symm⟩
  rcases List.append_eq_append_iff.1 hmark with ⟨between, hdigits, hbehind⟩ | ⟨after, rfl, hbehind⟩
  · -- the colon behind the text would be a digit or the second colon of the mark
    cases between with
    | nil =>
      obtain ⟨_, rfl⟩ := List.cons.inj hbehind
      exact absurd rfl hrest
    | cons c between =>
      obtain ⟨rfl, _⟩ := List.cons.inj hbehind
      exact absurd (by simp [hdigits]) (Text.colon_not_mem_decimal h.digit)
  · match after, hbehind with
    | [], hbehind =>
      obtain ⟨_, rfl⟩ := List.cons.inj hbehind
      exact absurd rfl hrest
    | [_], hbehind => cases hbehind
    | c :: d :: back', hbehind =>
      obtain ⟨rfl, hblank⟩ := List.cons.inj hbehind
      obtain ⟨rfl, _⟩ := List.cons.inj hblank
      exact ⟨back', rfl, h.front_ne, h.digits_ne, h.digit⟩

/-- Where there is a split, there is a first one. -/
theorem exists_firstSplit (ok : List Char → Prop) (h : IsSplit front digits back line)
    (hok : ok back) : ∃ front digits back, FirstSplit ok front digits back line := by
  induction hn : front.length using Nat.strongRecOn generalizing front digits back with
  | _ n ih =>
    by_cases hearlier : ∃ front' digits' back', IsSplit front' digits' back' line ∧ ok back' ∧
        front'.length < n
    · obtain ⟨front', digits', back', h', hok', hlt⟩ := hearlier
      exact ih front'.length hlt h' hok' rfl
    · refine ⟨front, digits, back, h, hok, fun {front' digits' back'} h' hok' => ?_⟩
      refine Nat.not_lt.1 fun hlt => hearlier ⟨front', digits', back', h', hok', hn ▸ hlt⟩

/-! ## The patterns -/

def numberExpr : Expr := .repeated (.set digitSet) 1 none true

def pathExpr : Expr := .repeated (.set .notFeed) 1 none true

/-- A mark: a colon, a number, and what comes after the number. -/
def markExpr (number after : Expr) : Expr := .seq (.literal [':']) (.seq number after)

/-- The second half of a mark, and a path up to the end of the line. -/
def endExpr (path : Expr) : Expr := .seq (.literal [':', ' ']) (.seq path (.assert .textEnd))

theorem general_pattern : Assoc.get? PatternSet.general patterns.entries =
    some ⟨.seq (.assert .textStart)
      (.seq (lazySome .notFeed) (markExpr numberExpr (endExpr pathExpr)))⟩ := by
  decide +kernel

theorem location_pattern : Assoc.get? PatternSet.location patterns.entries =
    some ⟨.seq (.assert .textStart)
      (.seq (.group 1 (lazySome .notFeed)) (markExpr numberExpr (.literal [':', ' '])))⟩ := by
  decide +kernel

theorem line_pattern : Assoc.get? PatternSet.line patterns.entries =
    some ⟨.seq (.assert .textStart)
      (.seq (lazySome .notFeed) (markExpr (.group 1 numberExpr) (.literal [':', ' '])))⟩ := by
  decide +kernel

theorem message_pattern : Assoc.get? PatternSet.message patterns.entries =
    some ⟨.seq (.assert .textStart)
      (.seq (lazySome .notFeed) (markExpr numberExpr (endExpr (.group 1 pathExpr))))⟩ := by
  decide +kernel

/-! ## Report lines -/

theorem contains_notFeed_of_mem (h : '\n' ∉ line) :
    ∀ c ∈ line, CharSet.notFeed.contains c = true := by
  intro c hc
  rw [CharSet.contains_notFeed]
  rintro rfl
  exact h hc

/-- **A line is a report line if it has a split with something behind it.** -/
theorem isHeader_iff {line : String} :
    Output.isHeader patterns line = true ↔ '\n' ∉ line.toList ∧
      ∃ front digits back, IsSplit front digits back line.toList ∧ back ≠ [] := by
  have hmatch := isMatch_of_get? general_pattern line
  unfold Output.isHeader
  rw [hmatch, isSome_search_textStart rfl rfl]
  unfold lazySome markExpr numberExpr endExpr pathExpr
  simp only [mem_ways_seq, mem_ways_assert, mem_ways_repeated_set, mem_ways_literal,
    CharSet.contains_digitSet, CharSet.contains_notFeed]
  constructor
  · rintro ⟨t, u, ⟨front, hfront, hfrontFeed, hu⟩, v, hv, w, ⟨digits, hdigits, hdigit, hw⟩, x, hx,
      y, ⟨back, hback, hbackFeed, hy⟩, hend, rfl⟩
    have hnil : t.cursor.rest = [] := by simpa [Assertion.holds] using hend
    have heq : line.toList = front ++ ':' :: (digits ++ ':' :: ' ' :: back) := by
      calc line.toList
          = front ++ u.cursor.rest := State.rest_of_read? hu
        _ = front ++ ([':'] ++ (digits ++ ([':', ' '] ++ (back ++ t.cursor.rest)))) := by
          rw [State.rest_of_read? hv, State.rest_of_read? hw, State.rest_of_read? hx,
            State.rest_of_read? hy]
        _ = front ++ ':' :: (digits ++ ':' :: ' ' :: back) := by rw [hnil, List.append_nil]; rfl
    refine ⟨?_, front, digits, back, ⟨heq, List.length_pos_iff.1 hfront,
      List.length_pos_iff.1 hdigits, hdigit⟩, List.length_pos_iff.1 hback⟩
    rw [heq]
    simp only [List.mem_append, List.mem_cons, not_or]
    refine ⟨fun hm => hfrontFeed _ hm rfl, by decide, fun hm => ?_, by decide, by decide,
      fun hm => hbackFeed _ hm rfl⟩
    exact absurd (hdigit _ hm) (by decide)
  · rintro ⟨hfeed, front, digits, back, h, hback⟩
    let s : State := ⟨⟨line.toList.length, none, line.toList⟩, []⟩
    obtain ⟨u, hu, hurest⟩ := State.exists_read? front (s := s) h.eq
    obtain ⟨v, hv, hvrest⟩ := State.exists_read? [':'] hurest
    obtain ⟨w, hw, hwrest⟩ := State.exists_read? digits hvrest
    obtain ⟨x, hx, hxrest⟩ := State.exists_read? [':', ' '] hwrest
    obtain ⟨y, hy, hyrest⟩ := State.exists_read? back (hxrest.trans (List.append_nil _).symm)
    refine ⟨y, u, ⟨front, List.length_pos_iff.2 h.front_ne, ?_, hu⟩, v, hv, w,
      ⟨digits, List.length_pos_iff.2 h.digits_ne, h.digit, hw⟩, x, hx, y,
      ⟨back, List.length_pos_iff.2 hback, ?_, hy⟩, ?_, rfl⟩
    · rintro c hc rfl
      exact h.front_noFeed hfeed hc
    · rintro c hc rfl
      exact h.back_noFeed hfeed hc
    · simp [Assertion.holds, hyrest]

/-! ## The first split -/

/-- A number that a way through an expression reads. -/
def ReadsDigits (number : Expr) : Prop :=
  ∀ ⦃s t : State⦄, t ∈ ways number s → ∃ digits : List Char, digits ≠ [] ∧
    (∀ c ∈ digits, Unicode.isDecimalDigit c = true) ∧ s.cursor.rest = digits ++ t.cursor.rest

/-- The second half of a mark that a way through an expression reads, with something acceptable
behind it. -/
def ReadsEnd (ok : List Char → Prop) (after : Expr) : Prop :=
  ∀ ⦃s t : State⦄, t ∈ ways after s → ∃ back, s.cursor.rest = ':' :: ' ' :: back ∧ ok back

theorem readsDigits_numberExpr : ReadsDigits numberExpr := by
  intro s t ht
  obtain ⟨digits, hlen, hdigit, hread⟩ := mem_ways_repeated_set.1 ht
  refine ⟨digits, List.length_pos_iff.1 hlen, fun c hc => ?_, State.rest_of_read? hread⟩
  rw [← CharSet.contains_digitSet]
  exact hdigit c hc

theorem ReadsDigits.group {number : Expr} (h : ReadsDigits number) (n : Nat) :
    ReadsDigits (.group n number) := by
  intro s t ht
  obtain ⟨u, hu, rfl⟩ := List.mem_map.1 ht
  have hread := h hu
  exact hread

theorem readsEnd_literal : ReadsEnd (fun _ => True) (.literal [':', ' ']) :=
  fun _ _ ht => ⟨_, State.rest_of_read? (mem_ways_literal.1 ht), trivial⟩

theorem readsEnd_endExpr {path : Expr}
    (hpath : ∀ ⦃s t : State⦄, t ∈ ways path s → s.cursor.rest ≠ []) :
    ReadsEnd (· ≠ []) (endExpr path) := by
  intro s t ht
  obtain ⟨u, hu, ht⟩ := mem_ways_seq.1 ht
  obtain ⟨v, hv, _⟩ := mem_ways_seq.1 ht
  exact ⟨_, State.rest_of_read? (mem_ways_literal.1 hu), hpath hv⟩

/-- **No pattern finds a mark before the first one that it can go on from.** -/
theorem FirstSplit.noMatchIn {number after : Expr} {c : Char}
    (h : FirstSplit ok (c :: front) digits back line) (hnumber : ReadsDigits number)
    (hafter : ReadsEnd ok after) :
    NoMatchIn (markExpr number after) front (':' :: (digits ++ ':' :: ' ' :: back)) := by
  refine noMatchIn_of_forall fun before d later hfront s hs => ?_
  refine List.eq_nil_iff_forall_not_mem.2 fun t ht => ?_
  obtain ⟨u, hu, ht⟩ := mem_ways_seq.1 ht
  obtain ⟨v, hv, ht⟩ := mem_ways_seq.1 ht
  obtain ⟨digits', hne, hdigit, hdigits⟩ := hnumber hv
  obtain ⟨back', hback, hok⟩ := hafter ht
  -- the mark that was found splits the line earlier
  have hmark : d :: (later ++ ':' :: (digits ++ ':' :: ' ' :: back)) =
      ':' :: (digits' ++ ':' :: ' ' :: back') := by
    rw [← hs, State.rest_of_read? (mem_ways_literal.1 hu), hdigits, hback]
    rfl
  have hsplit : IsSplit (c :: before) digits' back' line := by
    refine ⟨?_, List.cons_ne_nil _ _, hne, hdigit⟩
    rw [h.eq, hfront, ← hmark]
    simp
  have hle := h.least hsplit hok
  rw [hfront] at hle
  simp only [List.length_cons, List.length_append] at hle
  omega

/-! ## What is captured -/

theorem takes_number (h : IsSplit front digits back line) (rest : List Char) :
    Takes numberExpr digits (':' :: rest) [] := by
  refine takes_repeated (List.length_pos_iff.2 h.digits_ne) (fun c hc => ?_) (fun c hc => ?_)
  · rw [CharSet.contains_digitSet]
    exact h.digit c hc
  · cases hc
    decide

theorem takes_path (hfeed : '\n' ∉ back) (hne : back ≠ []) : Takes pathExpr back [] [] :=
  takes_repeated (List.length_pos_iff.2 hne) (contains_notFeed_of_mem hfeed) fun c hc => by cases hc

theorem takes_mark {number after : Expr} {taken tail : List Char}
    {groups moreGroups : List (Nat × List Char)}
    (hnumber : Takes number digits (taken ++ tail) groups)
    (hafter : Takes after taken tail moreGroups) :
    Takes (markExpr number after) (':' :: (digits ++ taken)) tail (moreGroups ++ groups) := by
  have h := (takes_literal [':'] (digits ++ taken ++ tail)).seq (hnumber.seq hafter)
  rw [List.append_nil] at h
  exact h

theorem takes_end {path : Expr} {groups : List (Nat × List Char)}
    (hpath : Takes path back [] groups) : Takes (endExpr path) (':' :: ' ' :: back) [] groups := by
  have hpath : Takes path back ([] ++ []) groups := hpath
  have hend := hpath.seq takes_textEnd
  rw [List.append_nil, List.nil_append] at hend
  have h := (takes_literal [':', ' '] (back ++ [])).seq hend
  rw [List.append_nil] at h
  exact h

variable {line : String}

theorem captured_location (h : FirstSplit (fun _ => True) front digits back line.toList)
    (hfeed : '\n' ∉ line.toList) :
    patterns.lastCapture? line PatternSet.location = some (String.ofList front) := by
  obtain ⟨c, front, rfl⟩ := List.exists_cons_of_ne_nil h.front_ne
  have hfront := contains_notFeed_of_mem (h.front_noFeed hfeed)
  have hmark := takes_mark (takes_number h.toIsSplit (' ' :: back)) (takes_literal [':', ' '] back)
  have hnone := h.noMatchIn readsDigits_numberExpr readsEnd_literal
  refine lastCapture?_textStart location_pattern rfl rfl rfl
    (takes_lazyGroup_seq 1 hfront ?_ hmark) ?_
  · simpa using hnone
  · rw [h.eq]
    simp

theorem captured_line (h : FirstSplit (fun _ => True) front digits back line.toList)
    (hfeed : '\n' ∉ line.toList) :
    patterns.lastCapture? line PatternSet.line = some (String.ofList digits) := by
  obtain ⟨c, front, rfl⟩ := List.exists_cons_of_ne_nil h.front_ne
  have hfront := contains_notFeed_of_mem (h.front_noFeed hfeed)
  have hmark := takes_mark ((takes_number h.toIsSplit (' ' :: back)).group 1)
    (takes_literal [':', ' '] back)
  have hnone := h.noMatchIn (readsDigits_numberExpr.group 1) readsEnd_literal
  refine lastCapture?_textStart line_pattern rfl rfl rfl (takes_lazy_seq hfront ?_ hmark) ?_
  · simpa using hnone
  · rw [h.eq]
    simp

theorem captured_message (h : FirstSplit (· ≠ []) front digits back line.toList)
    (hfeed : '\n' ∉ line.toList) :
    patterns.lastCapture? line PatternSet.message = some (String.ofList back) := by
  obtain ⟨c, front, rfl⟩ := List.exists_cons_of_ne_nil h.front_ne
  have hfront := contains_notFeed_of_mem (h.front_noFeed hfeed)
  have hback := h.back_noFeed hfeed
  have hmark := takes_mark (takes_number h.toIsSplit _)
    (takes_end ((takes_path hback h.accepted).group 1))
  have hpath : ∀ ⦃s t : State⦄, t ∈ ways (.group 1 pathExpr) s → s.cursor.rest ≠ [] := by
    intro s t ht
    obtain ⟨u, hu, rfl⟩ := List.mem_map.1 ht
    obtain ⟨cs, hlen, _, hread⟩ := mem_ways_repeated_set.1 hu
    rw [State.rest_of_read? hread]
    exact List.append_ne_nil_of_left_ne_nil (List.length_pos_iff.1 hlen) _
  have hnone := h.noMatchIn readsDigits_numberExpr (readsEnd_endExpr hpath)
  refine lastCapture?_textStart message_pattern rfl rfl rfl (takes_lazy_seq hfront ?_ hmark) ?_
  · simpa using hnone
  · rw [h.eq]
    simp

end DocAudit.Undocumented

import DocAudit.Builtin.Undocumented
import DocAudit.Proofs.Lists
import DocAudit.Proofs.Text.ReadBack

/-!
# Which methods are exempted from documentation

A configured entry settles the matter for a method if it is a pattern that cannot be read, a pattern
that matches the method, or the method's name: `Decisive`.  What trying one entry can lead to is
said once (`entryCovers_cases`).  Entries that are not decisive are passed over
(`isExcluded_append`), and the first one that is gives the answer (`isExcluded_cons_of_decisive`).
So the order of the entries matters only where a pattern cannot be read (`isExcluded_congr`).
-/

namespace DocAudit.Undocumented

variable {method entry text : String} {entries entries' before rest : List String}

/-! ## One entry -/

theorem patternText?_eq_some_iff : patternText? entry = some text ↔ entry = "/" ++ text ++ "/" := by
  have hchars : entry = "/" ++ text ++ "/" ↔ entry.toList = '/' :: (text.toList ++ ['/']) := by
    rw [← String.toList_inj, String.toList_append, String.toList_append]
    rfl
  rw [hchars]
  unfold patternText?
  split
  · rename_i inner hentry
    rw [hentry, List.cons.injEq, and_iff_right rfl]
    split
    · rename_i back hback
      have hinner : inner = back.reverse ++ ['/'] := by
        rw [← List.reverse_cons, ← hback, List.reverse_reverse]
      rw [hinner, List.append_left_inj, Option.some.injEq, ← String.toList_inj,
        String.toList_ofList]
    · rename_i hback
      constructor
      · intro h
        cases h
      · intro h
        exact absurd (by rw [h, List.reverse_append]; rfl) (hback text.toList.reverse)
  · rename_i hentry
    constructor
    · intro h
      cases h
    · intro h
      exact absurd h (hentry _)

theorem patternText?_eq_none_iff :
    patternText? entry = none ↔ ∀ text, entry ≠ "/" ++ text ++ "/" := by
  rw [Option.eq_none_iff_forall_ne_some]
  simp only [ne_eq, patternText?_eq_some_iff]

/-- An entry is a pattern in one way at most. -/
theorem eq_of_entry_eq {text' : String} (h : entry = "/" ++ text ++ "/")
    (h' : entry = "/" ++ text' ++ "/") : text = text' :=
  Option.some.inj ((patternText?_eq_some_iff.2 h).symm.trans (patternText?_eq_some_iff.2 h'))

def Unreadable (entry : String) : Prop :=
  ∃ text fault, entry = "/" ++ text ++ "/" ∧ Pattern.compile text = .error fault

/-- An entry that settles whether a method is exempted. -/
inductive Decisive (method entry : String) : Prop where
  | unreadable : Unreadable entry → Decisive method entry
  | matching {text : String} {p : Pattern} : entry = "/" ++ text ++ "/" →
      Pattern.compile text = .ok p → p.isMatch method = true → Decisive method entry
  | name : (∀ text, entry ≠ "/" ++ text ++ "/") → entry = method → Decisive method entry

/-- What is reported about a pattern that cannot be read. -/
def unreadableError (entry : String) (fault : Pattern.Fault) : QueryError :=
  .runtime s!"invalid excluded_methods entry {entry}: {fault.message}"

theorem not_unreadable_of_compile {p : Pattern} (hentry : entry = "/" ++ text ++ "/")
    (hread : Pattern.compile text = .ok p) : ¬Unreadable entry := by
  rintro ⟨text', fault, hentry', hfault⟩
  cases eq_of_entry_eq hentry hentry'
  cases hread.symm.trans hfault

/-- What becomes of one entry: an error, a hit, or nothing. -/
theorem entryCovers_cases (method entry : String) :
    (∃ text fault, entry = "/" ++ text ++ "/" ∧ Pattern.compile text = .error fault ∧
      entryCovers method entry = .error (unreadableError entry fault)) ∨
    Decisive method entry ∧ ¬Unreadable entry ∧ entryCovers method entry = .ok true ∨
    ¬Decisive method entry ∧ entryCovers method entry = .ok false := by
  unfold entryCovers
  cases htext : patternText? entry with
  | some text =>
    have hentry := patternText?_eq_some_iff.1 htext
    cases hread : Pattern.compile text with
    | error fault => exact .inl ⟨text, fault, hentry, hread, by simp only [hread]; rfl⟩
    | ok p =>
      have hreadable := not_unreadable_of_compile hentry hread
      cases hmatch : p.isMatch method with
      | true =>
        exact .inr (.inl ⟨.matching hentry hread hmatch, hreadable, by simp only [hread, hmatch]⟩)
      | false =>
        refine .inr (.inr ⟨?_, by simp only [hread, hmatch]⟩)
        intro hdecisive
        cases hdecisive with
        | unreadable h => exact hreadable h
        | matching hentry' hread' hmatch' =>
          cases eq_of_entry_eq hentry hentry'
          cases hread.symm.trans hread'
          exact absurd hmatch' (by simp [hmatch])
        | name hname _ => exact hname text hentry
  | none =>
    have hname := patternText?_eq_none_iff.1 htext
    have hreadable : ¬Unreadable entry := fun ⟨text, _, hentry, _⟩ => hname text hentry
    by_cases hsame : entry = method
    · exact .inr (.inl ⟨.name hname hsame, hreadable, by simp [hsame]⟩)
    · refine .inr (.inr ⟨?_, by simp [hsame]⟩)
      intro hdecisive
      cases hdecisive with
      | unreadable h => exact hreadable h
      | matching hentry _ _ => exact hname _ hentry
      | name _ h => exact hsame h

theorem entryCovers_of_not_decisive (h : ¬Decisive method entry) :
    entryCovers method entry = .ok false := by
  rcases entryCovers_cases method entry with
    ⟨text, fault, hentry, hfault, _⟩ | ⟨hd, _⟩ | ⟨_, hfalse⟩
  · exact absurd (.unreadable ⟨text, fault, hentry, hfault⟩) h
  · exact absurd hd h
  · exact hfalse

theorem entryCovers_of_readable (h : Decisive method entry) (hread : ¬Unreadable entry) :
    entryCovers method entry = .ok true := by
  rcases entryCovers_cases method entry with
    ⟨text, fault, hentry, hfault, _⟩ | ⟨_, _, htrue⟩ | ⟨hd, _⟩
  · exact absurd ⟨text, fault, hentry, hfault⟩ hread
  · exact htrue
  · exact absurd h hd

theorem entryCovers_of_fault {fault : Pattern.Fault} (hentry : entry = "/" ++ text ++ "/")
    (hfault : Pattern.compile text = .error fault) :
    entryCovers method entry = .error (unreadableError entry fault) := by
  unfold entryCovers
  rw [patternText?_eq_some_iff.2 hentry]
  simp only [hfault]
  rfl

theorem not_decisive_of_entryCovers (h : entryCovers method entry = .ok false) :
    ¬Decisive method entry := by
  rcases entryCovers_cases method entry with ⟨_, _, _, _, herror⟩ | ⟨_, _, htrue⟩ | ⟨hd, _⟩
  · cases h.symm.trans herror
  · cases h.symm.trans htrue
  · exact hd

/-! ## The list of entries -/

/-- Entries that are not decisive are passed over. -/
theorem isExcluded_append (h : ∀ e ∈ before, ¬Decisive method e) :
    isExcluded method (before ++ rest) = isExcluded method rest := by
  induction before with
  | nil => rfl
  | cons e before ih =>
    rw [List.cons_append, isExcluded, entryCovers_of_not_decisive (h e List.mem_cons_self)]
    exact ih fun d hd => h d (List.mem_cons_of_mem e hd)

theorem isExcluded_of_none_decisive (h : ∀ e ∈ entries, ¬Decisive method e) :
    isExcluded method entries = .ok false := by
  have hall : isExcluded method (entries ++ []) = isExcluded method [] := isExcluded_append h
  rwa [List.append_nil] at hall

theorem isExcluded_cons_of_decisive (h : Decisive method entry) :
    isExcluded method (entry :: rest) = entryCovers method entry := by
  rw [isExcluded]
  rcases entryCovers_cases method entry with ⟨_, _, _, _, herror⟩ | ⟨_, _, htrue⟩ | ⟨hd, _⟩
  · rw [herror]
  · rw [htrue]
  · exact absurd h hd

theorem isExcluded_singleton (method entry : String) :
    isExcluded method [entry] = entryCovers method entry := by
  rw [isExcluded]
  cases entryCovers method entry with
  | error e => rfl
  | ok covers => cases covers <;> rfl

/-- Where all patterns can be read, one decisive entry is enough, wherever it stands. -/
theorem isExcluded_of_mem (hread : ∀ e ∈ entries, ¬Unreadable e) (hmem : entry ∈ entries)
    (h : Decisive method entry) : isExcluded method entries = .ok true := by
  induction entries with
  | nil => cases hmem
  | cons e rest ih =>
    by_cases he : Decisive method e
    · rw [isExcluded_cons_of_decisive he]
      exact entryCovers_of_readable he (hread e List.mem_cons_self)
    · have hrest : entry ∈ rest := by
        rcases List.mem_cons.1 hmem with rfl | hrest
        · exact absurd h he
        · exact hrest
      rw [isExcluded, entryCovers_of_not_decisive he]
      exact ih (fun d hd => hread d (List.mem_cons_of_mem e hd)) hrest

/-- **Where all patterns can be read, neither order nor repetition of the entries matters.** -/
theorem isExcluded_congr (hread : ∀ e ∈ entries, ¬Unreadable e)
    (hsame : ∀ e, e ∈ entries' ↔ e ∈ entries) :
    isExcluded method entries' = isExcluded method entries := by
  by_cases h : ∃ e ∈ entries, Decisive method e
  · obtain ⟨e, he, hd⟩ := h
    rw [isExcluded_of_mem hread he hd,
      isExcluded_of_mem (fun d hd => hread d ((hsame d).1 hd)) ((hsame e).2 he) hd]
  · have hnone : ∀ e ∈ entries, ¬Decisive method e := fun e he hd => h ⟨e, he, hd⟩
    rw [isExcluded_of_none_decisive hnone,
      isExcluded_of_none_decisive fun e he => hnone e ((hsame e).1 he)]

/-! ## Entries of slashes -/

theorem slash_ne (text : String) : "/" ≠ "/" ++ text ++ "/" := by
  intro h
  have hlength := congrArg String.length h
  simp at hlength

theorem compile_empty : Pattern.compile "" = .ok ⟨.empty⟩ := eq_ok_of_toOption (by decide)

/-- The empty pattern matches every text at its start. -/
theorem isMatch_empty (text : String) : (Pattern.mk .empty).isMatch text = true := by
  have hstart : ∀ cs : List Char, (Pattern.searchDirect .empty cs).isSome = true := by
    intro cs
    cases cs with
    | nil => rfl
    | cons c cs => rfl
  exact hstart text.toList

/-- **The first decisive entry decides.**  Without one the method is not exempted.  If the first one
is a pattern that cannot be read, that is reported as an error from which a run recovers; otherwise
the method is exempted.  So neither order nor repetition of the entries matters where all patterns
can be read.  A single slash is a name like any other, and two slashes are a pattern for every
name. -/
theorem first_decisive_entry_decides (method : String) (entries : List String) :
    ((∀ e ∈ entries, ¬Decisive method e) → isExcluded method entries = .ok false) ∧
    (∀ before entry rest, entries = before ++ entry :: rest →
      (∀ e ∈ before, ¬Decisive method e) → Decisive method entry →
      (∀ text fault, entry = "/" ++ text ++ "/" → Pattern.compile text = .error fault →
        isExcluded method entries = .error (unreadableError entry fault) ∧
          (unreadableError entry fault).isFatal = false) ∧
      (¬Unreadable entry → isExcluded method entries = .ok true)) ∧
    ((∀ e ∈ entries, ¬Unreadable e) → ∀ entries', (∀ e, e ∈ entries' ↔ e ∈ entries) →
      isExcluded method entries' = isExcluded method entries) ∧
    ((∀ text, "/" ≠ "/" ++ text ++ "/") ∧ isExcluded method ["/"] = .ok ("/" = method)) ∧
    ("//" = "/" ++ "" ++ "/" ∧
      (∃ p, Pattern.compile "" = .ok p ∧ ∀ name, p.isMatch name = true) ∧
      isExcluded method ["//"] = .ok true) := by
  refine ⟨isExcluded_of_none_decisive, ?_, fun hread _ => isExcluded_congr hread, ⟨slash_ne, ?_⟩,
    rfl, ⟨_, compile_empty, isMatch_empty⟩, ?_⟩
  · rintro before entry rest rfl hbefore hdecisive
    rw [isExcluded_append hbefore, isExcluded_cons_of_decisive hdecisive]
    exact ⟨fun text fault hentry hfault => ⟨entryCovers_of_fault hentry hfault, rfl⟩,
      entryCovers_of_readable hdecisive⟩
  · rw [isExcluded_singleton, entryCovers, patternText?_eq_none_iff.2 slash_ne]
  · rw [isExcluded_singleton]
    exact entryCovers_of_readable (.matching rfl compile_empty (isMatch_empty method))
      (not_unreadable_of_compile rfl compile_empty)

/-- A pattern that cannot be read does harm in front of an entry that covers the method, but not
behind it. -/
theorem first_decisive_entry_decides_cache :
    isExcluded "_cache" ["initialize", "/^_/", "/([/"] = .ok true ∧
      isExcluded "_cache" ["initialize", "/([/", "/^_/"] =
        .error (unreadableError "/([/" .classUnclosed) := by
  have hname : ∀ e ∈ ["initialize"], ¬Decisive "_cache" e := by
    intro e he
    cases List.mem_singleton.1 he
    exact not_decisive_of_entryCovers rfl
  have hfault : Pattern.compile "([" = .error .classUnclosed := rfl
  have hread : Pattern.compile "^_" = .ok ⟨.seq (.assert .textStart) (.literal ['_'])⟩ :=
    eq_ok_of_toOption (by decide)
  constructor
  · have hdecides := (first_decisive_entry_decides "_cache" ["initialize", "/^_/", "/([/"]).2.1
      ["initialize"] "/^_/" ["/([/"] rfl hname (.matching rfl hread rfl)
    exact hdecides.2 (not_unreadable_of_compile rfl hread)
  · have hdecides := (first_decisive_entry_decides "_cache" ["initialize", "/([/", "/^_/"]).2.1
      ["initialize"] "/([/" ["/^_/"] rfl hname (.unreadable ⟨"([", _, rfl, hfault⟩)
    exact (hdecides.1 "([" _ rfl hfault).1

end DocAudit.Undocumented

import DocAudit.Proofs.Text.ReadBack
import DocAudit.Proofs.Validator.InProcess

/-!
# Collected lines

What has been collected is handed on as one text.  A line that is read from a text has no line feed
in it (`feed_not_mem_of_mem_lines`) and has lost a carriage return at its end, so that the collected
lines come back only if they are such lines from the start (`lines_text_iff`).

Lines are also taken back.  As long as no edit goes below the length of an earlier moment, the lines
of that moment stay in front (`prefix_run`), and cutting off what came later restores them
(`truncate_run`).
-/

namespace DocAudit.Text

theorem feed_not_mem_closeLine {seen : List Char} (h : '\n' ∉ seen) : '\n' ∉ closeLine seen := by
  intro hm
  have hstart := chomp_prefix seen.reverse
  rw [chomp, List.reverse_reverse] at hstart
  exact h (List.mem_reverse.1 (hstart.subset hm))

theorem feed_not_mem_of_mem_linesFrom {l : List Char} : ∀ {cs seen : List Char}, '\n' ∉ seen →
    l ∈ linesFrom seen cs → '\n' ∉ l
  | [], seen, hseen, hl => by
    rw [linesFrom] at hl
    split at hl
    · cases hl
    · rw [List.mem_singleton.1 hl]
      exact fun h => hseen (List.mem_reverse.1 h)
  | c :: cs, seen, hseen, hl => by
    rw [linesFrom] at hl
    split at hl
    · rcases List.mem_cons.1 hl with rfl | hrest
      · exact feed_not_mem_closeLine hseen
      · exact feed_not_mem_of_mem_linesFrom List.not_mem_nil hrest
    · rename_i hc
      refine feed_not_mem_of_mem_linesFrom (fun h => ?_) hl
      rcases List.mem_cons.1 h with heq | hm
      · exact hc heq.symm
      · exact hseen hm

theorem feed_not_mem_of_mem_lines {s l : String} (h : l ∈ lines s) : '\n' ∉ l.toList := by
  obtain ⟨cs, hcs, rfl⟩ := List.mem_map.1 h
  rw [String.toList_ofList]
  exact feed_not_mem_of_mem_linesFrom List.not_mem_nil hcs

theorem chomp_eq_self_iff {cs : List Char} : chomp cs = cs ↔ cs.getLast? ≠ some '\r' := by
  refine ⟨fun h hlast => ?_, closeLine_reverse⟩
  obtain ⟨ds, rfl⟩ := List.getLast?_eq_some_iff.1 hlast
  rw [chomp_append_return] at h
  simpa using congrArg List.length h

/-- **Collected lines are read back exactly if they are plain.** -/
theorem lines_text_iff {c : Collector} :
    lines c.text = c.lines ↔
      ∀ l ∈ c.lines, '\n' ∉ l.toList ∧ l.toList.getLast? ≠ some '\r' := by
  constructor
  · intro h
    have hfeed : ∀ l ∈ c.lines, '\n' ∉ l.toList := fun l hl => feed_not_mem_of_mem_lines (h ▸ hl)
    have hchomp : (c.lines.map fun l => String.ofList (chomp l.toList)) = c.lines.map id := by
      rw [List.map_id, ← lines_ofList hfeed]
      exact h
    intro l hl
    have hl' : String.ofList (chomp l.toList) = l := List.map_inj_left.1 hchomp l hl
    refine ⟨hfeed l hl, chomp_eq_self_iff.1 ?_⟩
    rw [← String.toList_ofList (l := chomp l.toList), hl']
  · intro h
    exact lines_text fun l hl => ⟨(h l hl).1, (h l hl).2⟩

end DocAudit.Text

namespace DocAudit.Collector

/-- A change of a collector. -/
inductive Edit where
  | puts (line : String)
  | truncate (n : Nat)
  deriving DecidableEq, Repr

def apply (c : Collector) : Edit → Collector
  | .puts line => c.puts line
  | .truncate n => c.truncate n

def run (c : Collector) (edits : List Edit) : Collector := edits.foldl apply c

variable {c d : Collector}

theorem prefix_apply (h : c.lines <+: d.lines) {e : Edit} (he : ∀ n, e = .truncate n → c.size ≤ n) :
    c.lines <+: (d.apply e).lines := by
  cases e with
  | puts line => exact h.trans (List.prefix_append d.lines [line])
  | truncate n => exact List.prefix_take_iff.2 ⟨h, he n rfl⟩

theorem prefix_run {edits : List Edit} (h : c.lines <+: d.lines)
    (hkeep : ∀ n, .truncate n ∈ edits → c.size ≤ n) : c.lines <+: (d.run edits).lines := by
  induction edits generalizing d with
  | nil => exact h
  | cons e edits ih =>
    have hstep := prefix_apply h fun n he => hkeep n (he ▸ List.mem_cons_self)
    exact ih hstep fun n hn => hkeep n (List.mem_cons_of_mem e hn)

theorem truncate_of_prefix (h : c.lines <+: d.lines) : d.truncate c.size = c := by
  obtain ⟨later, hlater⟩ := h
  have hcut := truncate_append c later
  rw [hlater] at hcut
  exact hcut

theorem truncate_run {edits : List Edit} (hkeep : ∀ n, .truncate n ∈ edits → c.size ≤ n) :
    (c.run edits).truncate c.size = c :=
  truncate_of_prefix (prefix_run (List.prefix_refl c.lines) hkeep)

/-- **Plain lines survive the text, and earlier texts are restored.**  The lines that were put into
a collector are read from its text again exactly if none of them contains a line feed or ends in a
carriage return.  After any edits, cutting back to the length of an earlier moment restores the text
of that moment, unless an edit in between has cut deeper. -/
theorem text_keeps_plain_lines (ls : List String) (before between : List Edit) :
    (Text.lines (ls.foldl puts {}).text = ls ↔
      ∀ l ∈ ls, '\n' ∉ l.toList ∧ l.toList.getLast? ≠ some '\r') ∧
    ((∀ n, .truncate n ∈ between → (run {} before).size ≤ n) →
      ((run {} (before ++ between)).truncate (run {} before).size).text =
        (run {} before).text) := by
  constructor
  · rw [foldl_puts]
    exact Text.lines_text_iff
  · intro hkeep
    have hrun : run {} (before ++ between) = (run {} before).run between := List.foldl_append
    rw [hrun, truncate_run hkeep]

/-- An empty line and a carriage return inside of a line survive; a cut that is too long does no
harm. -/
theorem text_keeps_plain_lines_mixed :
    Text.lines (["a\rb", ""].foldl puts {}).text = ["a\rb", ""] ∧
      ((run {} [.puts "a", .puts "b", .truncate 1, .puts "c", .truncate 1, .puts "d",
        .truncate 9]).truncate 1).text = "a\n" := by
  constructor
  · exact (text_keeps_plain_lines _ [] []).1.2 (by decide)
  · refine (text_keeps_plain_lines [] [.puts "a", .puts "b", .truncate 1]
      [.puts "c", .truncate 1, .puts "d", .truncate 9]).2 ?_
    intro n hn
    simp only [List.mem_cons, List.not_mem_nil, Edit.truncate.injEq, reduceCtorEq, false_or,
      or_false] at hn
    rcases hn with rfl | rfl
    · decide
    · decide

end DocAudit.Collector

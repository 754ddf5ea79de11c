import DocAudit.Report
import Mathlib.Algebra.GroupWithZero.Nat
import Mathlib.Data.List.Flatten
import Mathlib.Data.List.Forall2
import Mathlib.Data.List.Perm.Basic

/-!
# Statistics, threshold and exit code of a report

A report counts its offenses in two ways, all of them and by severity, and it scans them once more
for one that reaches the threshold.  The three agree:

* `Statistics.sum_ofOffenses` reduces whatever is summed up from the statistics to a count of
  offenses, from the step that records one offense;
* `exceedsThreshold_iff` says that the threshold is reached exactly if the severities from it on
  have been counted at least once;
* `exitCode_eq_one_iff` and `exitCode_eq_zero_iff` are the two exit codes.

So the verdict on a report depends on how many offenses of each severity there are and on nothing
else: order plays no part in it, more results do not mend a failed check, and neither does a
threshold that is less strict (`verdict_follows_statistics`).
-/

namespace DocAudit

/-! ## Severities -/

namespace Severity

/-- The text names the severity, white space around it and the case of ASCII letters aside. -/
def Names (text : String) (s : Severity) : Prop := asciiLower (Text.trim text) = s.name

instance (text : String) (s : Severity) : Decidable (Names text s) :=
  inferInstanceAs (Decidable (asciiLower (Text.trim text) = s.name))

theorem ofText?_eq_some_iff {text : String} {s : Severity} :
    ofText? text = some s ↔ Names text s := by
  unfold ofText? Names
  split
  · rename_i h
    rw [h]
    cases s <;> simp [name]
  · rename_i h
    rw [h]
    cases s <;> simp [name]
  · rename_i h
    rw [h]
    cases s <;> simp [name]
  · rename_i herror hwarning hconvention
    constructor
    · intro h
      cases h
    · intro h
      cases s with
      | error => exact absurd h herror
      | warning => exact absurd h hwarning
      | convention => exact absurd h hconvention

theorem le_trans {a b c : Severity} (hab : a ≤ b) (hbc : b ≤ c) : a ≤ c :=
  Nat.le_trans hab hbc

end Severity

/-! ## Statistics -/

namespace Statistics

/-- Statistics are added severity by severity. -/
instance : Add Statistics :=
  ⟨fun a b => ⟨a.error + b.error, a.warning + b.warning, a.convention + b.convention⟩⟩

/-- The number of offenses that are at least as strict as `t`: the sum over these severities. -/
def atLeast (s : Statistics) (t : Severity) : Nat :=
  ((Severity.all.filter fun a => t ≤ a).map s.get).sum

theorem get_add (a b : Statistics) (s : Severity) : (a + b).get s = a.get s + b.get s := by
  cases s <;> rfl

theorem eq_of_get_eq {a b : Statistics} (h : ∀ s, a.get s = b.get s) : a = b := by
  obtain ⟨e, w, c⟩ := a
  obtain ⟨e', w', c'⟩ := b
  have he : e = e' := h .error
  have hw : w = w' := h .warning
  have hc : c = c' := h .convention
  rw [he, hw, hc]

theorem get_record (s : Statistics) (a b : Severity) :
    (s.record a).get b = s.get b + if a = b then 1 else 0 := by
  cases a <;> cases b <;> rfl

theorem total_record (s : Statistics) (a : Severity) : (s.record a).total = s.total + 1 := by
  cases a <;> simp only [record, total] <;> omega

theorem sum_get_record (s : Statistics) (a : Severity) (severities : List Severity) :
    (severities.map (s.record a).get).sum = (severities.map s.get).sum + severities.count a := by
  induction severities with
  | nil => rfl
  | cons b severities ih =>
    simp only [List.map_cons, List.sum_cons, ih, get_record, List.count_cons, beq_iff_eq,
      eq_comm (a := b)]
    omega

theorem atLeast_record (s : Statistics) (a t : Severity) :
    (s.record a).atLeast t = s.atLeast t + if t ≤ a then 1 else 0 := by
  have hcount : (Severity.all.filter fun b => t ≤ b).count a = if t ≤ a then 1 else 0 := by
    cases a <;> cases t <;> rfl
  unfold atLeast
  rw [sum_get_record, hcount]

/-- **What the statistics sum up is a number of offenses.**  A figure that grows by one with each
recorded offense of the kinds `p` is in the end the number of such offenses. -/
theorem sum_ofOffenses (figure : Statistics → Nat) (p : Severity → Bool)
    (hstart : figure {} = 0)
    (hrecord : ∀ s a, figure (s.record a) = figure s + if p a = true then 1 else 0)
    (os : List Offense) : figure (ofOffenses os) = os.countP fun o => p o.severity := by
  -- the statistics so far are handed on, so the induction is for any of them
  have hfold : ∀ (os : List Offense) (s : Statistics),
      figure (os.foldl (fun s o => s.record o.severity) s) =
        figure s + os.countP fun o => p o.severity := by
    intro os
    induction os with
    | nil =>
      intro s
      rfl
    | cons o os ih =>
      intro s
      rw [List.foldl_cons, ih, hrecord, List.countP_cons]
      omega
  unfold ofOffenses
  rw [hfold, hstart, Nat.zero_add]

theorem get_ofOffenses (os : List Offense) (s : Severity) :
    (ofOffenses os).get s = os.countP fun o => o.severity = s := by
  refine sum_ofOffenses (·.get s) (fun a => decide (a = s)) ?_ ?_ os
  · cases s <;> rfl
  · intro stats a
    simp only [get_record, decide_eq_true_eq]

theorem total_ofOffenses (os : List Offense) : (ofOffenses os).total = os.length := by
  rw [sum_ofOffenses total (fun _ => true) rfl (fun s a => total_record s a), List.countP_true]

theorem atLeast_ofOffenses (os : List Offense) (t : Severity) :
    (ofOffenses os).atLeast t = os.countP fun o => t ≤ o.severity := by
  refine sum_ofOffenses (·.atLeast t) (fun a => decide (t ≤ a)) ?_ ?_ os
  · cases t <;> rfl
  · intro stats a
    simp only [atLeast_record, decide_eq_true_eq]

theorem ofOffenses_append (os ps : List Offense) :
    ofOffenses (os ++ ps) = ofOffenses os + ofOffenses ps := by
  apply eq_of_get_eq
  intro s
  rw [get_add, get_ofOffenses, get_ofOffenses, get_ofOffenses, List.countP_append]

theorem ofOffenses_perm {os ps : List Offense} (h : os.Perm ps) :
    ofOffenses os = ofOffenses ps := by
  apply eq_of_get_eq
  intro s
  rw [get_ofOffenses, get_ofOffenses, h.countP_eq]

theorem atLeast_le_of_subperm {os ps : List Offense} (h : os.Subperm ps) (t : Severity) :
    (ofOffenses os).atLeast t ≤ (ofOffenses ps).atLeast t := by
  rw [atLeast_ofOffenses, atLeast_ofOffenses]
  exact h.countP_le _

/-- A less strict threshold leaves more to count. -/
theorem atLeast_antitone (os : List Offense) {t t' : Severity} (h : t' ≤ t) :
    (ofOffenses os).atLeast t ≤ (ofOffenses os).atLeast t' := by
  rw [atLeast_ofOffenses, atLeast_ofOffenses]
  apply List.countP_mono_left
  intro o _ ho
  simp only [decide_eq_true_eq] at ho ⊢
  exact Severity.le_trans h ho

end Statistics

/-! ## Reports -/

namespace Report

theorem count_eq_total (r : Report) : r.count = r.statistics.total :=
  (Statistics.total_ofOffenses r.offenses).symm

/-- **The threshold is reached exactly if severities from it on have been counted.** -/
theorem exceedsThreshold_iff (r : Report) :
    r.exceedsThreshold = true ↔
      ∃ t, Severity.Names r.failOn t ∧ 0 < r.statistics.atLeast t := by
  unfold exceedsThreshold statistics
  simp only [Statistics.atLeast_ofOffenses, ← Severity.ofText?_eq_some_iff]
  cases Severity.ofText? r.failOn with
  | none => simp
  | some t => simp [List.countP_pos_iff]

theorem exitCode_eq_one_iff (r : Report) :
    r.exitCode = 1 ↔ r.exceedsThreshold = true ∨ r.coveragePassed = false := by
  unfold exitCode
  cases r.exceedsThreshold <;> cases r.coveragePassed <;> simp

theorem exitCode_eq_zero_iff (r : Report) :
    r.exitCode = 0 ↔ ¬(r.exceedsThreshold = true ∨ r.coveragePassed = false) := by
  unfold exitCode
  cases r.exceedsThreshold <;> cases r.coveragePassed <;> simp

/-- A check that has failed fails again if the threshold is reached as before. -/
theorem exitCode_mono {r r' : Report} (hpassed : r'.coveragePassed = r.coveragePassed)
    (hexceeds : r.exceedsThreshold = true → r'.exceedsThreshold = true) (h : r.exitCode = 1) :
    r'.exitCode = 1 := by
  rw [exitCode_eq_one_iff] at h ⊢
  rcases h with h | h
  · exact .inl (hexceeds h)
  · exact .inr (hpassed.trans h)

/-! ## Results -/

/-- The report on results, for a threshold that is written as `failOn` and a coverage that may be
known. -/
def onResults (config : Config) (coverage : Option Coverage) (failOn : String)
    (results : List ValidatorResult) : Report :=
  { ofResults results { config with failOn } with coverage }

/-- The results differ in their order and in the order of the offenses within them. -/
def Rearranged (rs rs' : List ValidatorResult) : Prop :=
  ∃ ps, rs.Perm ps ∧ List.Forall₂ (fun a b => a.offenses.Perm b.offenses) ps rs'

theorem Rearranged.offenses_perm {rs rs' : List ValidatorResult} (h : Rearranged rs rs') :
    (rs.flatMap (·.offenses)).Perm (rs'.flatMap (·.offenses)) := by
  obtain ⟨ps, hperm, hall⟩ := h
  refine (hperm.flatMap_right _).trans ?_
  clear hperm
  induction hall with
  | nil => exact List.Perm.refl _
  | cons hab _ ih =>
    rw [List.flatMap_cons, List.flatMap_cons]
    exact hab.append ih

theorem offenses_subperm {rs rs' : List ValidatorResult} (h : rs.Subperm rs') :
    (rs.flatMap (·.offenses)).Subperm (rs'.flatMap (·.offenses)) := by
  obtain ⟨ps, hperm, hsub⟩ := h
  exact ⟨ps.flatMap (·.offenses), hperm.flatMap_right _, hsub.flatMap _⟩

/-- How the verdict on results goes with their statistics. -/
structure FollowsStatistics (config : Config) (coverage : Option Coverage) : Prop where
  count : ∀ failOn rs, (onResults config coverage failOn rs).count =
    (onResults config coverage failOn rs).statistics.total
  statistics_append : ∀ failOn rs rs',
    (onResults config coverage failOn (rs ++ rs')).statistics =
      (onResults config coverage failOn rs).statistics +
        (onResults config coverage failOn rs').statistics
  /-- A text that names no severity is never reached. -/
  exceedsThreshold : ∀ failOn rs,
    (onResults config coverage failOn rs).exceedsThreshold = true ↔
      ∃ t, Severity.Names failOn t ∧
        0 < (onResults config coverage failOn rs).statistics.atLeast t
  exitCode_one : ∀ failOn rs,
    (onResults config coverage failOn rs).exitCode = 1 ↔
      (onResults config coverage failOn rs).exceedsThreshold = true ∨
        (onResults config coverage failOn rs).coveragePassed = false
  exitCode_zero : ∀ failOn rs,
    (onResults config coverage failOn rs).exitCode = 0 ↔
      ¬((onResults config coverage failOn rs).exceedsThreshold = true ∨
        (onResults config coverage failOn rs).coveragePassed = false)
  rearranged : ∀ failOn rs rs', Rearranged rs rs' →
    (onResults config coverage failOn rs').exitCode =
        (onResults config coverage failOn rs).exitCode ∧
      (onResults config coverage failOn rs').count =
        (onResults config coverage failOn rs).count ∧
      (onResults config coverage failOn rs').statistics =
        (onResults config coverage failOn rs).statistics
  /-- More results, at whatever places, do not mend a failed check. -/
  more_results : ∀ failOn rs rs', rs.Subperm rs' →
    (onResults config coverage failOn rs).exitCode = 1 →
      (onResults config coverage failOn rs').exitCode = 1
  /-- Neither does a severity that is less strict than the one named before, if one was. -/
  less_strict : ∀ failOn failOn' t' rs, Severity.Names failOn' t' →
    (∀ t, Severity.Names failOn t → t' ≤ t) →
    (onResults config coverage failOn rs).exitCode = 1 →
      (onResults config coverage failOn' rs).exitCode = 1

/-- **The verdict on a report follows its statistics,** whatever the results, the threshold as it is
written, and the coverage. -/
theorem verdict_follows_statistics (config : Config) (coverage : Option Coverage) :
    FollowsStatistics config coverage where
  count failOn rs := count_eq_total _
  statistics_append failOn rs rs' := by
    show Statistics.ofOffenses ((rs ++ rs').flatMap (·.offenses)) = _
    rw [List.flatMap_append]
    exact Statistics.ofOffenses_append _ _
  exceedsThreshold failOn rs := exceedsThreshold_iff _
  exitCode_one failOn rs := exitCode_eq_one_iff _
  exitCode_zero failOn rs := exitCode_eq_zero_iff _
  rearranged failOn rs rs' h := by
    have hperm := h.offenses_perm
    have hstatistics : (onResults config coverage failOn rs').statistics =
        (onResults config coverage failOn rs).statistics :=
      Statistics.ofOffenses_perm hperm.symm
    have hexceeds : (onResults config coverage failOn rs').exceedsThreshold =
        (onResults config coverage failOn rs).exceedsThreshold := by
      rw [Bool.eq_iff_iff, exceedsThreshold_iff, exceedsThreshold_iff, hstatistics]
      rfl
    refine ⟨?_, ?_, hstatistics⟩
    · unfold exitCode
      rw [hexceeds]
      rfl
    · rw [count_eq_total, count_eq_total, hstatistics]
  more_results failOn rs rs' h := by
    refine exitCode_mono rfl fun hexceeds => ?_
    obtain ⟨t, ht, hpos⟩ := (exceedsThreshold_iff _).1 hexceeds
    have hle := Statistics.atLeast_le_of_subperm (offenses_subperm h) t
    exact (exceedsThreshold_iff _).2 ⟨t, ht, Nat.lt_of_lt_of_le hpos hle⟩
  less_strict failOn failOn' t' rs hnames hle := by
    refine exitCode_mono rfl fun hexceeds => ?_
    obtain ⟨t, ht, hpos⟩ := (exceedsThreshold_iff _).1 hexceeds
    have hanti := Statistics.atLeast_antitone (rs.flatMap (·.offenses)) (hle t ht)
    exact (exceedsThreshold_iff _).2 ⟨t', hnames, Nat.lt_of_lt_of_le hpos hanti⟩

/-- A warning is found whatever stands around it and around the name of the threshold, and it is
found again for a threshold that is less strict; a word that names no severity lets it pass. -/
theorem verdict_follows_statistics_warning :
    let offense (s : Severity) : Offense := ⟨s, "line", "Order", "out of order", "a.rb", 1⟩
    let rs : List ValidatorResult :=
      [⟨"Order", [offense .convention, offense .warning]⟩, ⟨"Tag", []⟩]
    let rs' : List ValidatorResult :=
      [⟨"Tag", []⟩, ⟨"Order", [offense .warning, offense .convention]⟩]
    Rearranged rs rs' ∧
      (onResults {} none " Warning\n" rs').exitCode = 1 ∧
      (onResults {} none "CONVENTION" rs').exitCode = 1 ∧
      (onResults {} none "CONVENTION" (rs ++ rs')).exitCode = 1 ∧
      (onResults {} none "warnings" rs').exitCode = 0 := by
  intro offense rs rs'
  have hlaws := verdict_follows_statistics {} none
  have hrearranged : Rearranged rs rs' :=
    ⟨_, List.Perm.swap _ _ _, .cons (.refl _) (.cons (.swap _ _ _) .nil)⟩
  have hwarning : (onResults {} none " Warning\n" rs').exitCode = 1 := by
    rw [(hlaws.rearranged _ rs rs' hrearranged).1, hlaws.exitCode_one, hlaws.exceedsThreshold]
    exact .inl ⟨.warning, by decide, by decide⟩
  have hconvention : (onResults {} none "CONVENTION" rs').exitCode = 1 :=
    hlaws.less_strict _ _ .convention rs' (by decide) (fun t _ => Nat.zero_le t.rank) hwarning
  refine ⟨hrearranged, hwarning, hconvention, ?_, ?_⟩
  · exact hlaws.more_results _ rs' _ (List.sublist_append_right rs rs').subperm hconvention
  · rw [hlaws.exitCode_zero, hlaws.exceedsThreshold]
    rintro (⟨t, ht, _⟩ | h)
    · cases t <;> exact absurd ht (by decide)
    · cases h

end Report

end DocAudit

import DocAudit.Proofs.Path.Segments
import DocAudit.Registry
import Mathlib.Data.List.Forall2

/-!
# Selected files

A relative file of a registry is selected by every path that ends in it, and an absolute one by
itself only.  What counts are whole segments (`isSelected_compares_segments`): `foo.rb` is not
selected by `xfoo.rb`, and `lib/./foo.rb` is selected by `/src//lib/foo.rb`.
-/

namespace DocAudit.Registry

open DocAudit.Path

variable {file file' path : String} {selection selection' : List String}

/-! ## One path -/

/-- No component of a relative file is the root, so that the root of a path plays no part. -/
theorem map_suffix_significant_iff (file path : String) :
    (segments file).map Component.ofSegment <:+ significant path ↔
      segments file <:+ segments path := by
  have hmap : (segments file).map Component.ofSegment <:+ (segments path).map Component.ofSegment ↔
      segments file <:+ segments path := by
    constructor
    · intro h
      obtain ⟨ss, hss, heq⟩ := List.suffix_map_iff.1 h
      rwa [Component.map_ofSegment_inj.1 heq]
    · intro h
      exact h.map Component.ofSegment
  rw [significant_eq]
  cases isAbsolute path with
  | false => exact hmap
  | true =>
    show _ <:+ Component.root :: (segments path).map Component.ofSegment ↔ _
    rw [List.suffix_cons_iff, hmap]
    constructor
    · rintro (heq | h)
      · have hroot : Component.root ∈ (segments file).map Component.ofSegment := by
          rw [heq]
          exact List.mem_cons_self
        exact absurd hroot (Component.root_not_mem_map_ofSegment _)
      · exact h
    · exact Or.inr

theorem isSelected_iff_of_relative (h : isAbsolute file = false) :
    isSelected file selection = true ↔
      segments file ≠ [] ∧ ∃ path ∈ selection, segments file <:+ segments path := by
  have hwanted : significant file = (segments file).map Component.ofSegment := by
    rw [significant_eq, h]
    rfl
  unfold isSelected
  rw [if_neg (by simp [h]), hwanted]
  simp only [Bool.and_eq_true, List.any_eq_true, List.isSuffixOf_iff_suffix,
    map_suffix_significant_iff]
  simp

theorem isSelected_iff_of_absolute (h : isAbsolute file = true) :
    isSelected file selection = true ↔
      ∃ path ∈ selection, isAbsolute path = true ∧ segments path = segments file := by
  unfold isSelected
  rw [if_pos h]
  simp only [List.any_eq_true, decide_eq_true_eq, components_eq_iff h]

/-! ## Consequences -/

theorem isSelected_of_join (dir : String) (h : isAbsolute file = false)
    (hne : segments file ≠ []) (hmem : join dir file ∈ selection) :
    isSelected file selection = true := by
  rw [isSelected_iff_of_relative h]
  refine ⟨hne, join dir file, hmem, ?_⟩
  rw [segments_join dir h]
  exact List.suffix_append _ _

/-- A path in another spelling selects the same. -/
theorem exists_path_congr (hselection : List.Forall₂ SameSpelling selection selection')
    (P : Bool → List String → Prop) :
    (∃ path ∈ selection', P (isAbsolute path) (segments path)) ↔
      ∃ path ∈ selection, P (isAbsolute path) (segments path) := by
  induction hselection with
  | nil => simp
  | cons hsame _ ih =>
    rw [List.exists_mem_cons_iff, List.exists_mem_cons_iff, ih, hsame.same.1, hsame.same.2]

/-- The spelling of paths plays no part. -/
theorem isSelected_congr (hfile : SameSpelling file file')
    (hselection : List.Forall₂ SameSpelling selection selection') :
    isSelected file' selection' = isSelected file selection := by
  obtain ⟨habs, hsegments⟩ := hfile.same
  rw [Bool.eq_iff_iff]
  cases h : isAbsolute file with
  | false =>
    rw [isSelected_iff_of_relative h, isSelected_iff_of_relative (habs.trans h), hsegments,
      exists_path_congr hselection fun _ ss => segments file <:+ ss]
  | true =>
    rw [isSelected_iff_of_absolute h, isSelected_iff_of_absolute (habs.trans h), hsegments,
      exists_path_congr hselection fun b ss => b = true ∧ ss = segments file]

theorem isSelected_singleton_of_last_ne
    (h : (segments path).getLast? ≠ (segments file).getLast?) :
    isSelected file [path] = false := by
  rw [Bool.eq_false_iff]
  intro hsel
  cases habs : isAbsolute file with
  | false =>
    obtain ⟨hne, path', hmem, front, hfront⟩ := (isSelected_iff_of_relative habs).1 hsel
    rw [List.mem_singleton.1 hmem] at hfront
    apply h
    rw [← hfront, List.getLast?_append_of_ne_nil _ hne]
  | true =>
    obtain ⟨path', hmem, _, hsame⟩ := (isSelected_iff_of_absolute habs).1 hsel
    rw [List.mem_singleton.1 hmem] at hsame
    exact h (congrArg List.getLast? hsame)

/-- **Selection compares whole segments.**  A relative file is selected if its segments are the
    last ones of a selected path, an absolute one if a selected path is absolute and has the same
    segments.  So a file is selected from within any directory, however file and paths are
    spelled, and never by a path that ends in another segment. -/
theorem isSelected_compares_segments (file : String) (selection : List String) :
    (isAbsolute file = false →
      (isSelected file selection = true ↔
        segments file ≠ [] ∧ ∃ path ∈ selection, segments file <:+ segments path)) ∧
    (isAbsolute file = true →
      (isSelected file selection = true ↔
        ∃ path ∈ selection, isAbsolute path = true ∧ segments path = segments file)) ∧
    (∀ dir, isAbsolute file = false → segments file ≠ [] → join dir file ∈ selection →
      isSelected file selection = true) ∧
    (∀ file' selection', SameSpelling file file' →
      List.Forall₂ SameSpelling selection selection' →
      isSelected file' selection' = isSelected file selection) ∧
    ∀ path, (segments path).getLast? ≠ (segments file).getLast? →
      isSelected file [path] = false :=
  ⟨isSelected_iff_of_relative, isSelected_iff_of_absolute, isSelected_of_join,
    fun _ _ => isSelected_congr, fun _ => isSelected_singleton_of_last_ne⟩

theorem isSelected_compares_segments_foo :
    isSelected "lib/foo.rb" ["../project/lib/foo.rb"] = true ∧
      isSelected "lib/foo.rb" [join "/src/other" "lib/foo.rb"] = true ∧
      isSelected "./lib/foo.rb" ["../project//lib/foo.rb/"] = true ∧
      isSelected "lib/foo.rb" ["/src/other/lib/xfoo.rb"] = false ∧
      isSelected "/lib/foo.rb" ["//lib/./foo.rb"] = true := by
  have hrel : isAbsolute "lib/foo.rb" = false := by decide
  have hproject : isSelected "lib/foo.rb" ["../project/lib/foo.rb"] = true :=
    ((isSelected_compares_segments _ _).1 hrel).2
      ⟨by decide, _, List.mem_singleton_self _, by decide⟩
  have hfile : SameSpelling "lib/foo.rb" "./lib/foo.rb" := .rel _ _ (.dotInFront _ hrel)
  have hpath : SameSpelling "../project/lib/foo.rb" "../project//lib/foo.rb/" :=
    .trans _ "../project//lib/foo.rb" _ (.rel _ _ (.doubleSlash "../project" "lib/foo.rb"))
      (.rel _ _ (.trailingSlash _ (by decide)))
  refine ⟨hproject, ?_, ?_, ?_, ?_⟩
  · exact (isSelected_compares_segments _ _).2.2.1 "/src/other" hrel (by decide)
      (List.mem_singleton_self _)
  · rw [(isSelected_compares_segments _ _).2.2.2.1 _ _ hfile (.cons hpath .nil), hproject]
  · exact (isSelected_compares_segments _ []).2.2.2.2 _ (by decide)
  · exact ((isSelected_compares_segments _ _).2.1 (by decide)).2
      ⟨_, List.mem_singleton_self _, by decide, by decide⟩

end DocAudit.Registry

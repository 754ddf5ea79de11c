import DocAudit.Report

/-!
# Laws of the look-up in a registry

A look-up keeps the objects of a registry that pass three tests: one for the visibility, one for the
excludes and one for the selection.  `isShown` puts them together.  The laws follow from how each
test takes its argument apart: the test for the excludes asks each pattern on its own
(`isExcluded_excludeGlobs`), and the test for the selection each path (`isSelected_append`).
`lookup_is_stable_filter` collects the laws, with what they mean for the coverage.
-/

namespace DocAudit.Registry

variable {visibility : Visibility} {excludes excludes' : List String}
  {selection : Option (List String)} {paths paths' : List String} {o : CodeObject}

/-! ## The tests -/

/-- Whether a pattern excludes the file; a text that is no glob does not. -/
def excludedBy (file pattern : String) : Bool :=
  match Glob.compile pattern with
  | .ok g => g.isMatch (Path.stripDotSlash file)
  | .error _ => false

/-- Whether none of the patterns excludes the object's file. -/
def isKept (excludes : List String) (o : CodeObject) : Bool :=
  o.file.all fun file => !excludes.any (excludedBy file)

/-- Whether a look-up returns an object of the registry. -/
def isShown (visibility : Visibility) (excludes : List String) (selection : Option (List String))
    (o : CodeObject) : Bool :=
  o.isVisibleAt visibility && isKept excludes o && inSelection selection o

theorem isExcluded_excludeGlobs (excludes : List String) (file : String) :
    isExcluded (excludeGlobs excludes) file = excludes.any (excludedBy file) := by
  unfold isExcluded excludeGlobs
  rw [List.any_filterMap]
  congr 1
  funext p
  unfold excludedBy
  cases Glob.compile p with
  | ok g => rfl
  | error e => rfl

theorem objectsFor_eq (r : Registry) (visibility : Visibility) (excludes : List String)
    (selection : Option (List String)) :
    r.objectsFor visibility excludes selection =
      r.objects.filter (isShown visibility excludes selection) := by
  unfold objectsFor
  refine List.filter_congr fun o _ => ?_
  unfold isShown isKept
  cases o.file with
  | none => rfl
  | some file => simp [isExcluded_excludeGlobs]

theorem mem_objectsFor {r : Registry} :
    o ∈ r.objectsFor visibility excludes selection ↔
      o ∈ r.objects ∧ isShown visibility excludes selection o = true := by
  rw [objectsFor_eq, List.mem_filter]

theorem isShown_iff :
    isShown visibility excludes selection o = true ↔
      o.isVisibleAt visibility = true ∧
        (∀ file, o.file = some file → ∀ p ∈ excludes, excludedBy file p = false) ∧
        inSelection selection o = true := by
  unfold isShown isKept
  rw [Bool.and_eq_true, Bool.and_eq_true, and_assoc, Option.all_eq_true]
  simp only [Bool.not_eq_true', List.any_eq_false, Bool.not_eq_true]

/-- For an object of the registry, being returned is passing the tests. -/
theorem decide_mem_objectsFor {r : Registry} (ho : o ∈ r.objects) :
    decide (o ∈ r.objectsFor visibility excludes selection) =
      isShown visibility excludes selection o := by
  rw [Bool.eq_iff_iff, decide_eq_true_eq, mem_objectsFor]
  exact ⟨fun h => h.2, fun h => ⟨ho, h⟩⟩

/-! ## Excludes -/

theorem isKept_append (excludes excludes' : List String) (o : CodeObject) :
    isKept (excludes ++ excludes') o = (isKept excludes o && isKept excludes' o) := by
  unfold isKept
  cases o.file with
  | none => rfl
  | some file => simp [List.any_append]

theorem isShown_append_excludes (o : CodeObject) :
    isShown visibility (excludes ++ excludes') selection o =
      (isShown visibility excludes selection o && isShown visibility excludes' selection o) := by
  unfold isShown
  rw [isKept_append]
  cases o.isVisibleAt visibility with
  | false => rfl
  | true =>
    cases inSelection selection o with
    | false => simp
    | true => simp

/-- Only the globs among the excludes count. -/
theorem isKept_congr
    (h : ∀ p, (Glob.compile p).isOk = true → (p ∈ excludes ↔ p ∈ excludes')) (o : CodeObject) :
    isKept excludes o = isKept excludes' o := by
  have hany : ∀ file, excludes.any (excludedBy file) = excludes'.any (excludedBy file) := by
    intro file
    rw [Bool.eq_iff_iff, List.any_eq_true, List.any_eq_true]
    -- a pattern that excludes something is a glob
    have hglob : ∀ p, excludedBy file p = true → (Glob.compile p).isOk = true := by
      intro p hp
      unfold excludedBy at hp
      cases hc : Glob.compile p with
      | ok g => rfl
      | error e =>
        rw [hc] at hp
        cases hp
    constructor
    · rintro ⟨p, hmem, hp⟩
      exact ⟨p, (h p (hglob p hp)).1 hmem, hp⟩
    · rintro ⟨p, hmem, hp⟩
      exact ⟨p, (h p (hglob p hp)).2 hmem, hp⟩
  unfold isKept
  simp only [hany]

/-! ## Selection -/

theorem isSelected_append (file : String) (paths paths' : List String) :
    isSelected file (paths ++ paths') = (isSelected file paths || isSelected file paths') := by
  unfold isSelected
  split
  · exact List.any_append
  · show (_ && _) = ((_ && _) || (_ && _))
    rw [List.any_append, Bool.and_or_distrib_left]

theorem isShown_append_selection (o : CodeObject) :
    isShown visibility excludes (some (paths ++ paths')) o =
      (isShown visibility excludes (some paths) o ||
        isShown visibility excludes (some paths') o) := by
  unfold isShown inSelection
  cases o.file with
  | none => simp
  | some file =>
    simp only [isSelected_append]
    rw [Bool.and_or_distrib_left]

/-! ## The laws -/

section Laws

variable (r : Registry)

theorem objectsFor_sublist (visibility : Visibility) (excludes : List String)
    (selection : Option (List String)) :
    (r.objectsFor visibility excludes selection).Sublist r.objects := by
  rw [objectsFor_eq]
  exact List.filter_sublist

theorem objectsFor_publicOnly (excludes : List String) (selection : Option (List String)) :
    r.objectsFor .publicOnly excludes selection =
      (r.objectsFor .all excludes selection).filter (·.access = .publicAccess) := by
  rw [objectsFor_eq, objectsFor_eq, List.filter_filter]
  refine List.filter_congr fun o _ => ?_
  show ((decide _ && _) && _) = (decide _ && ((true && _) && _))
  rw [Bool.true_and, Bool.and_assoc]

theorem objectsFor_append_excludes (visibility : Visibility) (excludes excludes' : List String)
    (selection : Option (List String)) :
    r.objectsFor visibility (excludes ++ excludes') selection =
      (r.objectsFor visibility excludes selection).filter
        (· ∈ r.objectsFor visibility excludes' selection) := by
  rw [objectsFor_eq, objectsFor_eq r visibility excludes, List.filter_filter]
  refine List.filter_congr fun o ho => ?_
  rw [isShown_append_excludes, decide_mem_objectsFor ho, Bool.and_comm]

theorem objectsFor_congr_excludes (visibility : Visibility) (selection : Option (List String))
    (h : ∀ p, (Glob.compile p).isOk = true → (p ∈ excludes ↔ p ∈ excludes')) :
    r.objectsFor visibility excludes selection = r.objectsFor visibility excludes' selection := by
  rw [objectsFor_eq, objectsFor_eq]
  refine List.filter_congr fun o _ => ?_
  unfold isShown
  rw [isKept_congr h]

/-- More globs among the excludes leave fewer objects. -/
theorem objectsFor_sublist_of_globs (visibility : Visibility) (selection : Option (List String))
    (h : ∀ p ∈ excludes, (Glob.compile p).isOk = true → p ∈ excludes') :
    (r.objectsFor visibility excludes' selection).Sublist
      (r.objectsFor visibility excludes selection) := by
  have hsame : ∀ p, (Glob.compile p).isOk = true → (p ∈ excludes' ↔ p ∈ excludes ++ excludes') := by
    intro p hp
    rw [List.mem_append]
    exact ⟨Or.inr, fun hm => hm.elim (fun hm => h p hm hp) id⟩
  rw [r.objectsFor_congr_excludes visibility selection hsame, objectsFor_append_excludes]
  exact List.filter_sublist

theorem objectsFor_append_selection (visibility : Visibility) (excludes : List String)
    (paths paths' : List String) :
    r.objectsFor visibility excludes (some (paths ++ paths')) =
      r.objects.filter fun o =>
        o ∈ r.objectsFor visibility excludes (some paths) ∨
          o ∈ r.objectsFor visibility excludes (some paths') := by
  rw [objectsFor_eq]
  refine List.filter_congr fun o ho => ?_
  rw [isShown_append_selection, Bool.decide_or, decide_mem_objectsFor ho, decide_mem_objectsFor ho]

theorem objectsFor_selection_sublist (visibility : Visibility) (excludes paths : List String) :
    (r.objectsFor visibility excludes (some paths)).Sublist
      (r.objectsFor visibility excludes none) := by
  have hfilter : r.objectsFor visibility excludes (some paths) =
      (r.objectsFor visibility excludes none).filter (inSelection (some paths)) := by
    rw [objectsFor_eq, objectsFor_eq, List.filter_filter]
    refine List.filter_congr fun o _ => ?_
    show (_ && _ && _) = (_ && (_ && _ && true))
    rw [Bool.and_true, Bool.and_comm]
  rw [hfilter]
  exact List.filter_sublist

theorem file_of_mem_selection {r : Registry}
    (ho : o ∈ r.objectsFor visibility excludes (some paths)) : o.file ≠ none := by
  have hshown := (mem_objectsFor.1 ho).2
  intro hfile
  unfold isShown inSelection at hshown
  simp [hfile] at hshown

theorem objectsFor_without_file (visibility : Visibility) (excludes : List String)
    (selection : Option (List String)) :
    (r.objectsFor visibility excludes selection).filter (·.file.isNone) =
      (r.objectsFor visibility [] selection).filter (·.file.isNone) := by
  rw [objectsFor_eq, objectsFor_eq, List.filter_filter, List.filter_filter]
  refine List.filter_congr fun o _ => ?_
  unfold isShown isKept
  cases o.file with
  | none => rfl
  | some file => rfl

end Laws

/-- The laws of a look-up. -/
structure StableFilter (r : Registry) : Prop where
  mem_iff : ∀ visibility excludes selection o,
    o ∈ r.objectsFor visibility excludes selection ↔
      o ∈ r.objects ∧ o.isVisibleAt visibility = true ∧
        (∀ file, o.file = some file → ∀ p ∈ excludes, excludedBy file p = false) ∧
        inSelection selection o = true
  /-- Objects keep their order, and none is added. -/
  sublist : ∀ visibility excludes selection,
    (r.objectsFor visibility excludes selection).Sublist r.objects
  atPublic : ∀ excludes selection,
    r.objectsFor .publicOnly excludes selection =
      (r.objectsFor .all excludes selection).filter (·.access = .publicAccess)
  append_excludes : ∀ visibility excludes excludes' selection,
    r.objectsFor visibility (excludes ++ excludes') selection =
      (r.objectsFor visibility excludes selection).filter
        (· ∈ r.objectsFor visibility excludes' selection)
  /-- Order, repetition and texts that are no globs do not matter. -/
  congr_excludes : ∀ visibility excludes excludes' selection,
    (∀ p, (Glob.compile p).isOk = true → (p ∈ excludes ↔ p ∈ excludes')) →
      r.objectsFor visibility excludes selection = r.objectsFor visibility excludes' selection
  /-- A validator's own excludes only remove objects. -/
  own_excludes : ∀ visibility (config : Config) name selection,
    (r.objectsFor visibility (config.excludesFor name) selection).Sublist
      (r.objectsFor visibility config.allValidators.exclude selection)
  append_selection : ∀ visibility excludes paths paths',
    r.objectsFor visibility excludes (some (paths ++ paths')) =
      r.objects.filter fun o =>
        o ∈ r.objectsFor visibility excludes (some paths) ∨
          o ∈ r.objectsFor visibility excludes (some paths')
  selected_sublist : ∀ visibility excludes paths,
    (r.objectsFor visibility excludes (some paths)).Sublist
      (r.objectsFor visibility excludes none)
  selected_file : ∀ visibility excludes paths,
    ∀ o ∈ r.objectsFor visibility excludes (some paths), o.file ≠ none
  /-- Excludes remove no object without a file. -/
  without_file : ∀ visibility excludes selection,
    (r.objectsFor visibility excludes selection).filter (·.file.isNone) =
      (r.objectsFor visibility [] selection).filter (·.file.isNone)
  /-- More globs among the excludes leave less to count. -/
  coverage_antitone : ∀ visibility excludes excludes' selection,
    (∀ p ∈ excludes, (Glob.compile p).isOk = true → p ∈ excludes') →
      (Coverage.ofRegistry r visibility excludes' selection).total ≤
        (Coverage.ofRegistry r visibility excludes selection).total ∧
      (Coverage.ofRegistry r visibility excludes' selection).documented ≤
        (Coverage.ofRegistry r visibility excludes selection).documented
  documented_le_total : ∀ visibility excludes selection,
    (Coverage.ofRegistry r visibility excludes selection).documented ≤
      (Coverage.ofRegistry r visibility excludes selection).total

/-- **A look-up is a stable filter that is monotone in each argument.** -/
theorem lookup_is_stable_filter (r : Registry) : StableFilter r where
  mem_iff visibility excludes selection o := by
    rw [mem_objectsFor, isShown_iff]
  sublist := r.objectsFor_sublist
  atPublic := r.objectsFor_publicOnly
  append_excludes := r.objectsFor_append_excludes
  congr_excludes visibility _ _ selection h := r.objectsFor_congr_excludes visibility selection h
  own_excludes visibility config name selection := by
    unfold Config.excludesFor
    rw [objectsFor_append_excludes]
    exact List.filter_sublist
  append_selection := r.objectsFor_append_selection
  selected_sublist := r.objectsFor_selection_sublist
  selected_file _ _ _ _ ho := file_of_mem_selection ho
  without_file := r.objectsFor_without_file
  coverage_antitone visibility excludes excludes' selection h := by
    have hsublist := r.objectsFor_sublist_of_globs visibility selection h
    exact ⟨hsublist.length_le, (hsublist.filter _).length_le⟩
  documented_le_total visibility excludes selection := List.length_filter_le _ _

/-- The object of another file is excluded, an exclude that is no glob changes nothing, and of the
objects that are left those without a file are not selected. -/
theorem lookup_is_stable_filter_of_four :
    let placed (path file : String) (access : Access) : CodeObject :=
      { path, kind := .classDef, access, file := some file }
    let a := placed "A" "lib/a.rb" .publicAccess
    let hidden := placed "A::Hidden" "./lib/a.rb" .privateAccess
    let m : CodeObject := { path := "M", kind := .moduleDef }
    let r : Registry := ⟨[a, hidden, m, placed "B" "lib/b.rb" .publicAccess]⟩
    r.objectsFor .all ["lib/b*"] none = [a, hidden, m] ∧
      r.objectsFor .publicOnly ["[", "lib/b*", "lib/b*"] none = [a, m] ∧
      a ∈ r.objectsFor .publicOnly ["lib/b*"] (some ["lib/a.rb"]) ∧
      m ∉ r.objectsFor .publicOnly ["lib/b*"] (some ["lib/a.rb"]) := by
  intro placed a hidden m r
  have hlaws := lookup_is_stable_filter r
  have hall : r.objectsFor .all ["lib/b*"] none = [a, hidden, m] := by decide
  have hglobs : ∀ p, (Glob.compile p).isOk = true →
      (p ∈ ["[", "lib/b*", "lib/b*"] ↔ p ∈ ["lib/b*"]) := by
    intro p hp
    have hne : p ≠ "[" := by
      rintro rfl
      exact absurd hp (by decide)
    simp [hne]
  refine ⟨hall, ?_, (hlaws.mem_iff _ _ _ a).2 (by decide), fun hm => ?_⟩
  · rw [hlaws.congr_excludes _ _ _ _ hglobs, hlaws.atPublic, hall]
    decide
  · exact hlaws.selected_file _ _ _ m hm rfl

end DocAudit.Registry

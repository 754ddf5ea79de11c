import DocAudit.Files.Sources
import DocAudit.Proofs.Lists
import DocAudit.Proofs.Path.Order
import Mathlib.Data.List.Forall2
import Mathlib.Data.List.Sort

/-!
# The list of source files is canonical

Sorting puts the spellings of one path next to each other, so that dropping repeats leaves each path
once: the list increases strictly in the order of paths (`pairwise_canonicalList`), holds nothing
new (`mem_of_mem_canonicalList`) and loses no path (`mem_map_canonicalList`).  A strictly increasing
list is determined by its members, so the list depends on which paths there are, and not on how
often or in which order they come (`canonicalList_congr`).

`Sought` says which files the arguments of a check ask for; the list holds these and no others.
-/

namespace DocAudit.Files

open DocAudit.Path (components SamePath)

/-! ## Sorting and dropping repeats -/

theorem comesBefore_iff {p q : String} : comesBefore p q = true ↔ components p ≤ components q := by
  unfold comesBefore
  rw [← Ordering.ne_gt_iff_isLE]
  exact (Path.compare_compares p q).ne_gt

theorem dropRepeats_sublist (ps : List String) : (dropRepeats ps).Sublist ps := by
  fun_induction dropRepeats ps with
  | case1 => exact .refl []
  | case2 p => exact .refl [p]
  | case3 p q rest _ ih => exact ih.trans ((List.sublist_cons_self q rest).cons_cons p)
  | case4 p q rest _ ih => exact ih.cons_cons p

theorem mem_map_dropRepeats (ps : List String) (c : List Path.Component) :
    c ∈ (dropRepeats ps).map components ↔ c ∈ ps.map components := by
  fun_induction dropRepeats ps with
  | case1 => rfl
  | case2 p => rfl
  | case3 p q rest hsame ih =>
    have hpq : components p = components q := Path.compare_eq_eq_iff.1 hsame
    rw [ih, List.map_cons, List.map_cons, List.map_cons, hpq, List.mem_cons, List.mem_cons,
      List.mem_cons, or_self_left]
  | case4 p q rest _ ih => rw [List.map_cons, List.map_cons, List.mem_cons, List.mem_cons, ih]

theorem pairwise_dropRepeats {ps : List String}
    (h : ps.Pairwise fun p q => components p ≤ components q) :
    (dropRepeats ps).Pairwise fun p q => components p < components q := by
  fun_induction dropRepeats ps with
  | case1 => exact .nil
  | case2 p => exact List.pairwise_singleton _ p
  | case3 p q rest _ ih => exact ih (h.sublist ((List.sublist_cons_self q rest).cons_cons p))
  | case4 p q rest hne ih =>
    obtain ⟨hp, htail⟩ := List.pairwise_cons.1 h
    have hpq : components p < components q :=
      lt_of_le_of_ne (hp q List.mem_cons_self) fun heq => hne (Path.compare_eq_eq_iff.2 heq)
    refine List.pairwise_cons.2 ⟨?_, ih htail⟩
    intro r hr
    rcases List.mem_cons.1 ((dropRepeats_sublist _).subset hr) with rfl | hrest
    · exact hpq
    · exact hpq.trans_le ((List.pairwise_cons.1 htail).1 r hrest)

theorem pairwise_canonicalList (ps : List String) :
    (canonicalList ps).Pairwise fun p q => components p < components q := by
  have htrans : ∀ p q r, comesBefore p q = true → comesBefore q r = true →
      comesBefore p r = true := by
    intro p q r hpq hqr
    rw [comesBefore_iff] at *
    exact hpq.trans hqr
  have htotal : ∀ p q, (comesBefore p q || comesBefore q p) = true := by
    intro p q
    rw [Bool.or_eq_true, comesBefore_iff, comesBefore_iff]
    exact le_total (components p) (components q)
  have hsorted := List.pairwise_mergeSort htrans htotal ps
  exact pairwise_dropRepeats (hsorted.imp comesBefore_iff.1)

theorem mem_of_mem_canonicalList {ps : List String} {q : String} (h : q ∈ canonicalList ps) :
    q ∈ ps :=
  List.mem_mergeSort.1 ((dropRepeats_sublist _).subset h)

theorem mem_map_canonicalList (ps : List String) (c : List Path.Component) :
    c ∈ (canonicalList ps).map components ↔ c ∈ ps.map components := by
  unfold canonicalList
  rw [mem_map_dropRepeats]
  exact ((List.mergeSort_perm ps comesBefore).map components).mem_iff

theorem exists_mem_canonicalList {ps : List String} {q : String} (h : q ∈ ps) :
    ∃ p ∈ canonicalList ps, SamePath p q :=
  List.mem_map.1 ((mem_map_canonicalList ps _).2 (List.mem_map_of_mem h))

/-- **The list depends only on which paths there are.** -/
theorem canonicalList_congr {ps qs : List String} (h : ∀ p, p ∈ ps ↔ p ∈ qs) :
    List.Forall₂ SamePath (canonicalList ps) (canonicalList qs) := by
  have hmem : ∀ c, c ∈ (canonicalList ps).map components ↔
      c ∈ (canonicalList qs).map components := by
    intro c
    rw [mem_map_canonicalList, mem_map_canonicalList, List.mem_map, List.mem_map]
    simp only [h]
  -- by their components, both lists increase strictly and have the same members
  have hps := List.pairwise_map.2 (pairwise_canonicalList ps)
  have hqs := List.pairwise_map.2 (pairwise_canonicalList qs)
  have hmaps := hps.eq_of_mem_iff hqs hmem
  have hpointwise : List.Forall₂ (· = ·) ((canonicalList ps).map components)
      ((canonicalList qs).map components) := hmaps ▸ List.forall₂_refl _
  rwa [List.forall₂_map_left_iff, List.forall₂_map_right_iff] at hpointwise

/-! ## The files of the arguments -/

/-- The files that the arguments of a check ask for. -/
inductive Sought (isFile : String → Bool) (walk : List IgnoreRule → String → Walk.Result)
    (paths excludes : List String) : String → Prop where
  /-- An argument that is a file, whatever its name and the excluded patterns. -/
  | argument {p : String} : p ∈ paths → isFile p = true → Sought isFile walk paths excludes p
  /-- A source file that is visited on the walk through another argument. -/
  | visited {p q : String} {rules : List IgnoreRule} :
      p ∈ paths → isFile p = false → excludeRules excludes = .ok rules →
      q ∈ (walk rules p).files → isFile q = true → Path.extension? q = some "rb" →
      Sought isFile walk paths excludes q

/-- Outcomes that list the same paths or refuse the same pattern. -/
inductive SameOutcome : Except ExcludeError (List String × Log) →
    Except ExcludeError (List String × Log) → Prop where
  | listed {files files' : List String} {log log' : Log} :
      List.Forall₂ SamePath files files' → SameOutcome (.ok (files, log)) (.ok (files', log'))
  | refused (e : ExcludeError) : SameOutcome (.error e) (.error e)

variable {isFile : String → Bool} {walk : List IgnoreRule → String → Walk.Result}
  {paths paths' excludes files : List String} {log : Log}

theorem isSource_iff {path : String} : isSource path = true ↔ Path.extension? path = some "rb" :=
  decide_eq_true_iff

theorem mem_filesOf {visit : String → List String} {p q : String} :
    q ∈ filesOf isFile visit p ↔
      isFile p = true ∧ q = p ∨
        isFile p = false ∧ q ∈ visit p ∧ isFile q = true ∧ Path.extension? q = some "rb" := by
  unfold filesOf
  cases isFile p with
  | true => simp
  | false => simp [isSource_iff]

/-- If all arguments are files, the excluded patterns are not even read. -/
theorem gather_of_files (h : ∀ p ∈ paths, isFile p = true) :
    gather isFile walk paths excludes = .ok (canonicalList paths, []) := by
  have hwalked : (paths.filter fun p => !isFile p) = [] := by
    rw [List.filter_eq_nil_iff]
    intro p hp
    simp [h p hp]
  have hfound : ∀ visit, paths.flatMap (filesOf isFile visit) = paths := by
    intro visit
    have hself : ∀ p ∈ paths, filesOf isFile visit p = [p] := fun p hp => if_pos (h p hp)
    rw [List.flatMap_def, List.map_congr_left hself, ← List.flatMap_def, List.flatMap_singleton']
  unfold gather expand
  simp only [hwalked, hfound]
  rfl

theorem gather_of_walk (h : ∃ p ∈ paths, isFile p = false) :
    gather isFile walk paths excludes = (excludeRules excludes).map fun rules =>
      (expand isFile (fun p => (walk rules p).files) paths,
        (paths.filter fun p => !isFile p).flatMap fun p => (walk rules p).log) := by
  obtain ⟨p, hp, hwalk⟩ := h
  have hwalked : (paths.filter fun p => !isFile p).isEmpty = false := by
    rw [List.isEmpty_eq_false_iff_exists_mem]
    exact ⟨p, List.mem_filter.2 ⟨hp, by simp [hwalk]⟩⟩
  unfold gather
  simp only [hwalked]
  cases excludeRules excludes with
  | ok rules => rfl
  | error e => rfl

/-- Either all arguments are files or there is one to walk through. -/
theorem files_or_walk (isFile : String → Bool) (paths : List String) :
    (∀ p ∈ paths, isFile p = true) ∨ ∃ p ∈ paths, isFile p = false := by
  by_cases h : ∀ p ∈ paths, isFile p = true
  · exact .inl h
  · simp only [not_forall, Bool.not_eq_true, exists_prop] at h
    exact .inr h

/-- **What is listed is what is sought.** -/
theorem exists_found (h : gather isFile walk paths excludes = .ok (files, log)) :
    ∃ found, files = canonicalList found ∧
      ∀ q, q ∈ found ↔ Sought isFile walk paths excludes q := by
  rcases files_or_walk isFile paths with hfiles | hwalk
  · rw [gather_of_files hfiles] at h
    cases h
    refine ⟨paths, rfl, fun q => ⟨fun hq => .argument hq (hfiles q hq), ?_⟩⟩
    intro hq
    cases hq with
    | argument hp _ => exact hp
    | visited hp hno _ _ _ _ => exact absurd (hfiles _ hp) (by simp [hno])
  · rw [gather_of_walk hwalk] at h
    cases hrules : excludeRules excludes with
    | error e =>
      rw [hrules] at h
      cases h
    | ok rules =>
      rw [hrules] at h
      cases h
      refine ⟨_, rfl, fun q => ?_⟩
      rw [List.mem_flatMap]
      simp only [mem_filesOf]
      constructor
      · rintro ⟨p, hp, ⟨hfile, rfl⟩ | ⟨hno, hvisit, hfile, hext⟩⟩
        · exact .argument hp hfile
        · exact .visited hp hno hrules hvisit hfile hext
      · intro hq
        cases hq with
        | argument hp hfile => exact ⟨q, hp, .inl ⟨hfile, rfl⟩⟩
        | visited hp hno hr hvisit hfile hext =>
          cases hrules.symm.trans hr
          exact ⟨_, hp, .inr ⟨hno, hvisit, hfile, hext⟩⟩

theorem gather_eq_ok_iff : (∃ r, gather isFile walk paths excludes = .ok r) ↔
    (∀ p ∈ paths, isFile p = true) ∨ ∃ rules, excludeRules excludes = .ok rules := by
  rcases files_or_walk isFile paths with hfiles | hwalk
  · exact ⟨fun _ => .inl hfiles, fun _ => ⟨_, gather_of_files hfiles⟩⟩
  · obtain ⟨p, hp, hno⟩ := hwalk
    have hall : ¬∀ p ∈ paths, isFile p = true := fun h => absurd (h p hp) (by simp [hno])
    rw [gather_of_walk ⟨p, hp, hno⟩, or_iff_right hall]
    cases excludeRules excludes with
    | ok rules => exact ⟨fun _ => ⟨rules, rfl⟩, fun _ => ⟨_, rfl⟩⟩
    | error e =>
      constructor
      · rintro ⟨_, h⟩
        cases h
      · rintro ⟨_, h⟩
        cases h

theorem gather_congr (hsame : ∀ p, p ∈ paths' ↔ p ∈ paths) :
    SameOutcome (gather isFile walk paths excludes) (gather isFile walk paths' excludes) := by
  rcases files_or_walk isFile paths with hfiles | ⟨p, hp, hno⟩
  · have hfiles' : ∀ p ∈ paths', isFile p = true := fun p hp => hfiles p ((hsame p).1 hp)
    rw [gather_of_files hfiles, gather_of_files hfiles']
    exact .listed (canonicalList_congr fun p => (hsame p).symm)
  · rw [gather_of_walk ⟨p, hp, hno⟩, gather_of_walk ⟨p, (hsame p).2 hp, hno⟩]
    cases excludeRules excludes with
    | error e => exact .refused e
    | ok rules =>
      refine .listed (canonicalList_congr fun q => ?_)
      rw [List.mem_flatMap, List.mem_flatMap]
      simp only [hsame]

/-- **The list of files is canonical.**  It is refused only if there is something to walk through
and an excluded pattern cannot be read.  Otherwise it increases strictly in the order of paths, and
its entries are the files that are sought, each path once.  Arguments in another order, or given
more than once, lead to the same refusal or to the same paths in the same places. -/
theorem gather_is_canonical (isFile : String → Bool)
    (walk : List IgnoreRule → String → Walk.Result) (paths excludes : List String) :
    ((∃ r, gather isFile walk paths excludes = .ok r) ↔
      (∀ p ∈ paths, isFile p = true) ∨ ∃ rules, excludeRules excludes = .ok rules) ∧
    (∀ files log, gather isFile walk paths excludes = .ok (files, log) →
      files.Pairwise (fun p q => components p < components q) ∧
      (∀ p ∈ files, Sought isFile walk paths excludes p) ∧
      (∀ q, Sought isFile walk paths excludes q → ∃ p ∈ files, SamePath p q)) ∧
    (∀ paths', (∀ p, p ∈ paths' ↔ p ∈ paths) →
      SameOutcome (gather isFile walk paths excludes) (gather isFile walk paths' excludes)) := by
  refine ⟨gather_eq_ok_iff, ?_, fun paths' => gather_congr⟩
  intro files log h
  obtain ⟨found, rfl, hfound⟩ := exists_found h
  refine ⟨pairwise_canonicalList found, ?_, ?_⟩
  · intro p hp
    exact (hfound p).1 (mem_of_mem_canonicalList hp)
  · intro q hq
    exact exists_mem_canonicalList ((hfound q).2 hq)

/-- A project with sources of its own and of others. -/
def project : FileSystem where
  root := .dir [("project", .dir
    [("lib", .dir [("a.rb", .file ""), ("b.md", .file ""), ("c.rb", .file ""),
      ("vendor", .dir [("d.rb", .file "")])]),
     ("lib-a", .dir [("x.md", .file "")])])]
  workingDir := ["project"]

/-- Of two spellings the one that was met first stays, a slash comes before a hyphen, and what is
visited counts only if it is a source file and its directory is not excluded. -/
theorem gather_is_canonical_mixed :
    let walk (rules : List IgnoreRule) (path : String) : Walk.Result :=
      Walk.run project (fun _ => none) (RuleSet.ofRules path rules) path
    let paths := ["lib-a/x.md", "lib//a.rb", "lib"]
    "lib/vendor/d.rb" ∈ (walk [] "lib").files ∧
      gather project.isFile walk paths ["vendor/"] =
        .ok (["lib//a.rb", "lib/c.rb", "lib-a/x.md"], []) ∧
      components "lib/c.rb" < components "lib-a/x.md" ∧
      SameOutcome (gather project.isFile walk paths ["vendor/"])
        (gather project.isFile walk ["lib", "lib//a.rb", "lib", "lib-a/x.md"] ["vendor/"]) := by
  intro walk paths
  have hsort : ["lib-a/x.md", "lib//a.rb", "lib/a.rb", "lib/c.rb"].mergeSort comesBefore =
      ["lib//a.rb", "lib/a.rb", "lib/c.rb", "lib-a/x.md"] := by
    have h₁ : comesBefore "lib-a/x.md" "lib//a.rb" = false := by decide
    have h₂ : comesBefore "lib/a.rb" "lib/c.rb" = true := by decide
    have h₃ : comesBefore "lib//a.rb" "lib/a.rb" = true := by decide
    have h₄ : comesBefore "lib-a/x.md" "lib/a.rb" = false := by decide
    have h₅ : comesBefore "lib-a/x.md" "lib/c.rb" = false := by decide
    simp [List.mergeSort, List.MergeSort.Internal.splitInTwo, h₁, h₂, h₃, h₄, h₅]
  have hlist : canonicalList ["lib-a/x.md", "lib//a.rb", "lib/a.rb", "lib/c.rb"] =
      ["lib//a.rb", "lib/c.rb", "lib-a/x.md"] := by
    rw [canonicalList, hsort, dropRepeats, if_pos (by decide), dropRepeats, if_neg (by decide),
      dropRepeats, if_neg (by decide), dropRepeats]
  obtain ⟨rules, hrules⟩ : ∃ rules, rules = (excludeRules ["vendor/"]).toOption.getD [] :=
    ⟨_, rfl⟩
  have hread : excludeRules ["vendor/"] = .ok rules :=
    eq_ok_of_toOption (by rw [hrules]; decide +kernel)
  have hfound : paths.flatMap (filesOf project.isFile fun p => (walk rules p).files) =
      ["lib-a/x.md", "lib//a.rb", "lib/a.rb", "lib/c.rb"] := by
    rw [hrules]
    decide +kernel
  have hlog : ((paths.filter fun p => !project.isFile p).flatMap fun p => (walk rules p).log) =
      [] := by
    rw [hrules]
    decide +kernel
  have hgather : gather project.isFile walk paths ["vendor/"] =
      .ok (["lib//a.rb", "lib/c.rb", "lib-a/x.md"], []) := by
    rw [gather_of_walk ⟨"lib", by decide, by decide⟩, hread]
    unfold expand Except.map
    simp only
    rw [hfound, hlist, hlog]
  refine ⟨by decide +kernel, hgather, ?_, (gather_is_canonical _ _ _ _).2.2 _ fun p => ?_⟩
  · have hstrict := ((gather_is_canonical _ _ _ _).2.1 _ _ hgather).1
    exact List.rel_of_pairwise_cons (List.pairwise_cons.1 hstrict).2 List.mem_cons_self
  · simp only [paths, List.mem_cons, List.not_mem_nil, or_false]
    tauto

end DocAudit.Files

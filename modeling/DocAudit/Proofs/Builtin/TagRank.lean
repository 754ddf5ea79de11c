import DocAudit.Proofs.Builtin.TagOrder
import Mathlib.Data.List.Destutter

/-!
# Tags are in order if their ranks increase

The validator compares two lists: the names that the order is about, groups of equal ones taken
together, and the names of the order that occur at all.  If the order names nothing twice, the
lists are equal exactly if of any two tags that the order is about the later one does not come
earlier in the order (`actual_eq_expected_iff`).  So nothing else about the tags counts: neither
tags that the order does not name, nor how often a tag is repeated in its place.
-/

namespace DocAudit.TagOrder

variable {enforced names : List String} {tags : List Tag} {n : String}

/-! ## Groups -/

theorem collapse_eq_destutter (names : List String) : collapse names = names.destutter (· ≠ ·) := by
  fun_induction collapse names with
  | case1 => rfl
  | case2 a => rfl
  | case3 a rest ih =>
    rw [ih, List.destutter_cons_cons, if_neg (not_not_intro rfl), List.destutter_cons']
  | case4 a b rest hab ih => rw [ih, List.destutter_cons_cons, if_pos hab, List.destutter_cons']

theorem collapse_sublist (names : List String) : (collapse names).Sublist names := by
  rw [collapse_eq_destutter]
  exact List.destutter_sublist _ names

theorem isChain_collapse (names : List String) : (collapse names).IsChain (· ≠ ·) := by
  rw [collapse_eq_destutter]
  exact List.isChain_destutter _ names

theorem mem_collapse : n ∈ collapse names ↔ n ∈ names := by
  fun_induction collapse names with
  | case1 => rfl
  | case2 a => rfl
  | case3 a rest ih => simp [ih]
  | case4 a b rest _ ih => simp [ih]

/-- What holds between all groups holds between all names, if it holds inside of a group. -/
theorem pairwise_of_collapse {R : String → String → Prop} (hrefl : ∀ a, R a a)
    (h : (collapse names).Pairwise R) : names.Pairwise R := by
  fun_induction collapse names with
  | case1 => exact h
  | case2 a => exact h
  | case3 a rest ih =>
    have hrest := ih h
    refine List.pairwise_cons.2 ⟨fun b hb => ?_, hrest⟩
    rcases List.mem_cons.1 hb with rfl | hb
    · exact hrefl _
    · exact List.rel_of_pairwise_cons hrest hb
  | case4 a b rest _ ih =>
    obtain ⟨ha, hrest⟩ := List.pairwise_cons.1 h
    exact List.pairwise_cons.2 ⟨fun c hc => ha c (mem_collapse.2 hc), ih hrest⟩

/-! ## Ranks -/

/-- The names of the tags that the order is about. -/
def listed (enforced : List String) (tags : List Tag) : List String :=
  (tags.map (·.name)).filter enforced.contains

/-- Of any two tags that the order is about, the later one has no lower rank. -/
def InOrder (enforced : List String) (tags : List Tag) : Prop :=
  tags.Pairwise fun t u => t.name ∈ enforced → u.name ∈ enforced →
    enforced.idxOf t.name ≤ enforced.idxOf u.name

instance (enforced : List String) : DecidablePred (InOrder enforced) :=
  fun tags => inferInstanceAs (Decidable (tags.Pairwise _))

theorem mem_listed : n ∈ listed enforced tags ↔ n ∈ enforced ∧ ∃ t ∈ tags, t.name = n := by
  simp [listed, and_comm]

theorem mem_expected : n ∈ expected enforced tags ↔ n ∈ enforced ∧ ∃ t ∈ tags, t.name = n := by
  simp [expected]

theorem listed_eq_map_filter (enforced : List String) (tags : List Tag) :
    listed enforced tags = (tags.filter (·.name ∈ enforced)).map (·.name) := by
  unfold listed
  rw [List.filter_map]
  congr 2
  funext t
  simp

theorem inOrder_iff_listed :
    InOrder enforced tags ↔
      (listed enforced tags).Pairwise fun a b => enforced.idxOf a ≤ enforced.idxOf b := by
  unfold InOrder listed
  rw [List.pairwise_filter, List.pairwise_map]
  simp only [List.contains_eq_mem, decide_eq_true_eq]

theorem eq_of_idxOf_eq {a b : String} (ha : a ∈ enforced)
    (h : enforced.idxOf a = enforced.idxOf b) : a = b := (List.idxOf_inj ha).1 h

/-- Without repetitions, ranks increase along the order. -/
theorem idxOf_pairwise (hnodup : enforced.Nodup) :
    enforced.Pairwise fun a b => enforced.idxOf a ≤ enforced.idxOf b := by
  rw [List.pairwise_iff_getElem]
  intro i j hi hj hij
  rw [hnodup.idxOf_getElem, hnodup.idxOf_getElem]
  exact Nat.le_of_lt hij

theorem expected_pairwise (hnodup : enforced.Nodup) (tags : List Tag) :
    (expected enforced tags).Pairwise fun a b => enforced.idxOf a ≤ enforced.idxOf b :=
  (idxOf_pairwise hnodup).filter _

theorem dedup_perm_expected (hnodup : enforced.Nodup) (tags : List Tag) :
    (listed enforced tags).dedup.Perm (expected enforced tags) := by
  refine (List.perm_ext_iff_of_nodup (List.nodup_dedup _) (hnodup.filter _)).2 fun n => ?_
  rw [List.mem_dedup, mem_listed]
  exact mem_expected.symm

/-- Where ranks do not decrease, equal names stand together. -/
theorem collapse_eq_dedup
    (h : (listed enforced tags).Pairwise fun a b => enforced.idxOf a ≤ enforced.idxOf b) :
    collapse (listed enforced tags) = (listed enforced tags).dedup := by
  let r : String → String → Prop := fun a b => a ∈ enforced ∧ enforced.idxOf a ≤ enforced.idxOf b
  have hantisymm : Std.Antisymm r :=
    ⟨fun _ _ hab hba => eq_of_idxOf_eq hab.1 (Nat.le_antisymm hab.2 hba.2)⟩
  have hr : (listed enforced tags).Pairwise r :=
    h.imp_of_mem fun ha _ hab => ⟨(mem_listed.1 ha).1, hab⟩
  rw [collapse_eq_destutter, hr.destutter_eq_dedup]

/-- **The two lists are equal exactly if the tags are in order.** -/
theorem actual_eq_expected_iff (hnodup : enforced.Nodup) :
    actual enforced tags = expected enforced tags ↔ InOrder enforced tags := by
  rw [inOrder_iff_listed]
  constructor
  · intro h
    refine pairwise_of_collapse (fun _ => Nat.le_refl _) ?_
    have hgroups : collapse (listed enforced tags) = expected enforced tags := h
    rw [hgroups]
    exact expected_pairwise hnodup tags
  · intro h
    calc actual enforced tags
        = (listed enforced tags).dedup := collapse_eq_dedup h
      _ = expected enforced tags := by
        -- both are sorted by rank and have the same names
        refine (dedup_perm_expected hnodup tags).eq_of_pairwise ?_
          (h.sublist (List.dedup_sublist _)) (expected_pairwise hnodup tags)
        intro a b ha _ hab hba
        exact eq_of_idxOf_eq (mem_listed.1 (List.mem_dedup.1 ha)).1 (Nat.le_antisymm hab hba)

/-! ## What does not count -/

theorem inOrder_of_same_listed {tags' : List Tag}
    (h : tags'.filter (·.name ∈ enforced) = tags.filter (·.name ∈ enforced)) :
    InOrder enforced tags' ↔ InOrder enforced tags := by
  rw [inOrder_iff_listed, inOrder_iff_listed, listed_eq_map_filter, listed_eq_map_filter, h]

theorem inOrder_repeat {t u : Tag} (before after : List Tag) (h : t.name = u.name) :
    InOrder enforced (before ++ t :: u :: after) ↔ InOrder enforced (before ++ t :: after) := by
  unfold InOrder
  simp only [List.pairwise_append, List.pairwise_cons, List.mem_cons, forall_eq_or_imp, ← h]
  constructor
  · rintro ⟨hbefore, ⟨_, hafter⟩, hacross⟩
    exact ⟨hbefore, hafter, fun x hx => ⟨(hacross x hx).1, (hacross x hx).2.2⟩⟩
  · rintro ⟨hbefore, hafter, hacross⟩
    exact ⟨hbefore, ⟨⟨fun _ _ => Nat.le_refl _, hafter.1⟩, hafter⟩,
      fun x hx => ⟨(hacross x hx).1, (hacross x hx).1, (hacross x hx).2⟩⟩

/-- A group that another one divides is out of order. -/
theorem not_inOrder_of_divided {t u v : Tag} (hsub : [t, u, v].Sublist tags)
    (hname : t.name = v.name) (hne : u.name ≠ t.name) (ht : t.name ∈ enforced)
    (hu : u.name ∈ enforced) : ¬InOrder enforced tags := by
  intro h
  have hthree : [t, u, v].Pairwise _ := h.sublist hsub
  simp only [List.pairwise_cons, List.mem_cons, forall_eq_or_imp] at hthree
  have htu := hthree.1.1 ht hu
  have huv := hthree.2.1.1 hu (hname ▸ ht)
  rw [← hname] at huv
  exact hne (eq_of_idxOf_eq hu (Nat.le_antisymm huv htu))

/-! ## The validator -/

theorem query_silent_iff (o : CodeObject) (s : Settings) :
    (query o s).lines = [] ↔
      actual (enforcedOrder s) o.tags = expected (enforcedOrder s) o.tags := by
  rw [lines_query]
  constructor
  · intro h
    split at h
    · cases h
    · rename_i hin
      exact Classical.not_not.1 hin
  · intro h
    exact if_neg (not_not_intro h)

/-- **The validator accepts exactly the objects whose tags are sorted by rank.**  Tags that the
order does not name may stand anywhere, a tag may be repeated in its place, and a group that a tag
of another group divides is always reported. -/
theorem silent_iff_inOrder (enforced : List String) (hnodup : enforced.Nodup) (o : CodeObject) :
    (actual enforced o.tags = expected enforced o.tags ↔ InOrder enforced o.tags) ∧
      ∀ s : Settings, enforcedOrder s = enforced →
        ((query o s).lines = [] ↔ InOrder enforced o.tags) ∧
        (∀ tags, tags.filter (·.name ∈ enforced) = o.tags.filter (·.name ∈ enforced) →
          ((query { o with tags := tags } s).lines = [] ↔ (query o s).lines = [])) ∧
        (∀ before t u after, o.tags = before ++ t :: u :: after → t.name = u.name →
          ((query { o with tags := before ++ t :: after } s).lines = [] ↔
            (query o s).lines = [])) ∧
        ∀ t u v, [t, u, v].Sublist o.tags → t.name = v.name → u.name ≠ t.name →
          t.name ∈ enforced → u.name ∈ enforced → (query o s).lines ≠ [] := by
  refine ⟨actual_eq_expected_iff hnodup, ?_⟩
  rintro s rfl
  have hsilent : ∀ p : CodeObject, (query p s).lines = [] ↔ InOrder (enforcedOrder s) p.tags :=
    fun p => (query_silent_iff p s).trans (actual_eq_expected_iff hnodup)
  refine ⟨hsilent o, ?_, ?_, ?_⟩
  · intro tags htags
    rw [hsilent, hsilent]
    exact inOrder_of_same_listed htags
  · intro before t u after htags hname
    rw [hsilent, hsilent, htags]
    exact (inOrder_repeat before after hname).symm
  · intro t u v hsub hname hne ht hu
    rw [Ne, hsilent]
    exact not_inOrder_of_divided hsub hname hne ht hu

/-- The settings in which an order is configured. -/
def settingsFor (enforced : List String) : Settings where
  config :=
    { validators := [(name, { options := [("enforced_order", .array (enforced.map .string))] })] }
  name := name

/-- Any list of names can be configured. -/
theorem enforcedOrder_settingsFor (enforced : List String) :
    enforcedOrder (settingsFor enforced) = enforced := by
  have htexts : (enforced.map Toml.Value.string).mapM Toml.Value.asText? = some enforced := by
    induction enforced with
    | nil => rfl
    | cons n enforced ih => simp [List.mapM_cons, ih, Toml.Value.asText?]
  have hoption : (settingsFor enforced).option? "enforced_order" =
      some (.array (enforced.map .string)) := rfl
  unfold enforcedOrder
  rw [hoption]
  simp [Toml.Value.asTexts?, Toml.Value.asArray?, htexts]

/-- Two further names and a repeated one do no harm, a divided group does. -/
theorem silent_iff_inOrder_divided :
    let s := settingsFor ["param", "return"]
    let method (names : List String) : CodeObject :=
      { path := "A#x", kind := .methodDef, tags := names.map fun n => { name := n } }
    ["param", "return"].Nodup ∧
      (query (method ["api", "param", "param", "note", "return"]) s).lines = [] ∧
      (query (method ["param", "api", "return", "param"]) s).lines ≠ [] := by
  intro s method
  have hnodup : ["param", "return"].Nodup := by decide
  have horder : enforcedOrder s = ["param", "return"] := enforcedOrder_settingsFor _
  have hsilent := fun o => ((silent_iff_inOrder _ hnodup o).2 s horder).1
  refine ⟨hnodup, (hsilent _).2 (by decide), fun h => ?_⟩
  exact absurd ((hsilent _).1 h) (by decide)

end DocAudit.TagOrder

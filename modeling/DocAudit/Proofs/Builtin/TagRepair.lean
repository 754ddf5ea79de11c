import DocAudit.Proofs.Builtin.TagRank
import Mathlib.Data.List.Count
import Mathlib.Data.List.Perm.Basic

/-!
# Tags that can be put in order

An object that is reported for the order of its tags should be accepted once its tags have been put
in order.  `arrange` does this: it takes the names that are wanted one after the other and puts the
tags of each name there.  If the order names nothing twice, the arranged tags are always accepted.
An order that names something twice asks for more than one group of a name, and no arrangement of
the tags gives two groups in a row, or more groups than tags.  `repairable_of_enough_tags` says that
nothing else stands in the way.
-/

namespace DocAudit.TagOrder

variable {enforced wanted names : List String} {tags group rest : List Tag} {n : String}

/-- Whether the tags of an object can be put in an order that the validator accepts. -/
def Repairable (s : Settings) (o : CodeObject) : Prop :=
  ∃ tags : List Tag, tags.Perm o.tags ∧ (query { o with tags := tags } s).lines = []

/-- The tags in groups with the wanted names.  Each group of a name has one tag, and the last group
all that are left; tags that are not wanted come last. -/
def arrange : List String → List Tag → List Tag
  | [], tags => tags
  | n :: wanted, tags =>
    if n ∈ wanted then
      (tags.find? (·.name = n)).toList ++ arrange wanted (tags.eraseP (·.name = n))
    else tags.filter (·.name = n) ++ arrange wanted (tags.filter (·.name ≠ n))

/-! ## Nothing is lost -/

theorem find?_append_eraseP_perm (p : Tag → Bool) (tags : List Tag) :
    ((tags.find? p).toList ++ tags.eraseP p).Perm tags := by
  induction tags with
  | nil => exact List.Perm.refl []
  | cons t tags ih =>
    rw [List.find?_cons, List.eraseP_cons]
    cases hp : p t with
    | true => exact List.Perm.refl (t :: tags)
    | false => exact List.perm_middle.trans (ih.cons t)

theorem filter_append_filter_perm (n : String) (tags : List Tag) :
    (tags.filter (·.name = n) ++ tags.filter (·.name ≠ n)).Perm tags := by
  have h := List.filter_append_perm (fun t : Tag => decide (t.name = n)) tags
  simpa only [decide_not] using h

theorem arrange_perm : ∀ (wanted : List String) (tags : List Tag), (arrange wanted tags).Perm tags
  | [], tags => List.Perm.refl tags
  | n :: wanted, tags => by
    rw [arrange]
    split
    · exact ((arrange_perm wanted _).append_left _).trans (find?_append_eraseP_perm _ tags)
    · exact ((arrange_perm wanted _).append_left _).trans (filter_append_filter_perm n tags)

/-! ## The groups come as wanted -/

theorem head?_collapse (names : List String) : (collapse names).head? = names.head? := by
  fun_induction collapse names with
  | case1 => rfl
  | case2 a => rfl
  | case3 a rest ih => exact ih
  | case4 a b rest _ ih => rfl

theorem collapse_cons_of_ne (h : names.head? ≠ some n) :
    collapse (n :: names) = n :: collapse names := by
  cases names with
  | nil => rfl
  | cons m names =>
    have hne : n ≠ m := by
      rintro rfl
      exact h rfl
    rw [collapse, if_neg hne]

theorem collapse_replicate_append (h : names.head? ≠ some n) : ∀ k : Nat,
    collapse (List.replicate (k + 1) n ++ names) = n :: collapse names
  | 0 => collapse_cons_of_ne h
  | k + 1 => by
    rw [List.replicate_succ, List.replicate_succ, List.cons_append, List.cons_append, collapse,
      if_pos rfl, ← List.cons_append, ← List.replicate_succ, collapse_replicate_append h k]

theorem map_name_group (hgroup : ∀ t ∈ group, t.name = n) :
    group.map (·.name) = List.replicate group.length n := by
  rw [List.eq_replicate_iff, List.length_map]
  refine ⟨rfl, fun m hm => ?_⟩
  obtain ⟨t, ht, rfl⟩ := List.mem_map.1 hm
  exact hgroup t ht

/-- Tags of one name in front of others are one more group. -/
theorem collapse_listed_append (hgroup : ∀ t ∈ group, t.name = n) (hne : group ≠ [])
    (hn : n ∈ enforced) (hrest : (collapse (listed enforced rest)).head? ≠ some n) :
    collapse (listed enforced (group ++ rest)) = n :: collapse (listed enforced rest) := by
  obtain ⟨k, hk⟩ := Nat.exists_eq_succ_of_ne_zero (mt List.length_eq_zero_iff.1 hne)
  have hlisted : listed enforced group = List.replicate (k + 1) n := by
    unfold listed
    rw [map_name_group hgroup, hk]
    simp [hn]
  have happend : listed enforced (group ++ rest) =
      listed enforced group ++ listed enforced rest := by
    unfold listed
    rw [List.map_append, List.filter_append]
  rw [happend, hlisted]
  exact collapse_replicate_append (head?_collapse _ ▸ hrest) k

/-- What `arrange` needs: no name is wanted twice in a row, there is a tag for each group, and the
names are those of the order that occur. -/
structure Attainable (enforced wanted : List String) (tags : List Tag) : Prop where
  chain : wanted.IsChain (· ≠ ·)
  count : ∀ n, wanted.count n ≤ (tags.map (·.name)).count n
  listed : ∀ n ∈ wanted, n ∈ enforced
  covers : ∀ t ∈ tags, t.name ∈ enforced → t.name ∈ wanted

theorem Attainable.exists_tag (h : Attainable enforced (n :: wanted) tags) :
    ∃ t ∈ tags, t.name = n := by
  have hpos : 0 < (n :: wanted).count n := List.count_pos_iff.2 List.mem_cons_self
  have hmem : n ∈ tags.map (·.name) :=
    List.count_pos_iff.1 (Nat.lt_of_lt_of_le hpos (h.count n))
  simpa using hmem

/-- What is left after a group has been taken away is attainable too. -/
theorem Attainable.tail (h : Attainable enforced (n :: wanted) tags)
    (hgroup : ∀ t ∈ group, t.name = n) (hperm : (group ++ rest).Perm tags)
    (hone : n ∈ wanted → group.length = 1) (hall : n ∉ wanted → ∀ t ∈ rest, t.name ≠ n) :
    Attainable enforced wanted rest := by
  refine ⟨h.chain.tail, fun m => ?_, fun m hm => h.listed m (List.mem_cons_of_mem n hm), ?_⟩
  · have hsplit : (tags.map (·.name)).count m =
        (group.map (·.name)).count m + (rest.map (·.name)).count m := by
      rw [← (hperm.map _).count_eq, List.map_append, List.count_append]
    have hcount := h.count m
    rw [hsplit, map_name_group hgroup, List.count_replicate, List.count_cons] at hcount
    by_cases hn : n ∈ wanted
    · rw [hone hn] at hcount
      omega
    · by_cases hm : n = m
      · have hzero : wanted.count m = 0 := List.count_eq_zero.2 (hm ▸ hn)
        omega
      · simp only [beq_iff_eq, hm, if_false] at hcount
        omega
  · intro t ht hlisted
    have htags : t ∈ tags := hperm.mem_iff.1 (List.mem_append_right group ht)
    rcases List.mem_cons.1 (h.covers t htags hlisted) with hname | hmem
    · exact Classical.byContradiction fun hn => hall (hname ▸ hn) t ht hname
    · exact hmem

theorem collapse_arrange : ∀ {wanted : List String} {tags : List Tag},
    Attainable enforced wanted tags → collapse (listed enforced (arrange wanted tags)) = wanted
  | [], tags, h => by
    have hnone : listed enforced tags = [] := by
      rw [List.eq_nil_iff_forall_not_mem]
      intro n hn
      obtain ⟨hmem, t, ht, rfl⟩ := mem_listed.1 hn
      cases h.covers t ht hmem
    rw [arrange, hnone]
    rfl
  | n :: wanted, tags, h => by
    -- one group, and what comes after it does not begin with the same name
    have hstep : ∀ group rest : List Tag, (∀ t ∈ group, t.name = n) → group ≠ [] →
        Attainable enforced wanted rest →
          collapse (listed enforced (group ++ arrange wanted rest)) = n :: wanted := by
      intro group rest hgroup hne hrest
      have ih := collapse_arrange hrest
      have hhead : (collapse (listed enforced (arrange wanted rest))).head? ≠ some n := by
        rw [ih]
        intro hhead
        obtain ⟨ws, rfl⟩ := List.head?_eq_some_iff.1 hhead
        exact (List.isChain_cons_cons.1 h.chain).1 rfl
      rw [collapse_listed_append hgroup hne (h.listed n List.mem_cons_self) hhead, ih]
    obtain ⟨t, ht, hname⟩ := h.exists_tag
    rw [arrange]
    split
    · rename_i hmem
      have hsome : (tags.find? (·.name = n)).isSome := by
        rw [List.find?_isSome]
        exact ⟨t, ht, by simp [hname]⟩
      obtain ⟨u, hu⟩ := Option.isSome_iff_exists.1 hsome
      have hgroup : ∀ t ∈ (tags.find? (·.name = n)).toList, t.name = n := by
        rw [hu]
        exact List.forall_mem_singleton.2 (by simpa using List.find?_some hu)
      refine hstep _ _ hgroup (by simp [hu]) (h.tail hgroup (find?_append_eraseP_perm _ tags) ?_ ?_)
      · exact fun _ => by rw [hu]; rfl
      · exact fun hn => absurd hmem hn
    · rename_i hmem
      have hgroup : ∀ t ∈ tags.filter (·.name = n), t.name = n := by simp
      have hne : tags.filter (·.name = n) ≠ [] :=
        List.ne_nil_of_mem (List.mem_filter.2 ⟨ht, by simp [hname]⟩)
      refine hstep _ _ hgroup hne (h.tail hgroup (filter_append_filter_perm n tags) ?_ ?_)
      · exact fun hn => absurd hn hmem
      · exact fun _ t ht => by simpa using (List.mem_filter.1 ht).2

/-! ## When an object can be repaired -/

theorem expected_congr {tags' : List Tag} (h : tags'.Perm tags) :
    expected enforced tags' = expected enforced tags := by
  unfold expected
  congr 1
  funext n
  exact h.any_eq

variable {s : Settings} {o : CodeObject}

theorem Repairable.exists_actual (h : Repairable s o) :
    ∃ tags : List Tag, tags.Perm o.tags ∧
      actual (enforcedOrder s) tags = expected (enforcedOrder s) o.tags := by
  obtain ⟨tags, hperm, hsilent⟩ := h
  exact ⟨tags, hperm, ((query_silent_iff _ s).1 hsilent).trans (expected_congr hperm)⟩

/-- There are never two groups of one name in a row. -/
theorem Repairable.isChain_expected (h : Repairable s o) :
    (expected (enforcedOrder s) o.tags).IsChain (· ≠ ·) := by
  obtain ⟨tags, _, hgroups⟩ := h.exists_actual
  rw [← hgroups]
  exact isChain_collapse _

/-- There are never more groups of a name than tags. -/
theorem Repairable.count_expected_le (h : Repairable s o) (n : String) :
    (expected (enforcedOrder s) o.tags).count n ≤ (o.tags.map (·.name)).count n := by
  obtain ⟨tags, hperm, hgroups⟩ := h.exists_actual
  have hsub : (actual (enforcedOrder s) tags).Sublist (tags.map (·.name)) :=
    (collapse_sublist _).trans List.filter_sublist
  rw [← hgroups, ← (hperm.map _).count_eq]
  exact hsub.count_le n

/-- **Where nothing stands in the way, arranging the tags repairs the object.** -/
theorem repairable_of_enough_tags (hchain : (expected (enforcedOrder s) o.tags).IsChain (· ≠ ·))
    (hcount : ∀ n, (expected (enforcedOrder s) o.tags).count n ≤
      (o.tags.map (·.name)).count n) : Repairable s o := by
  let wanted := expected (enforcedOrder s) o.tags
  have hperm : (arrange wanted o.tags).Perm o.tags := arrange_perm wanted o.tags
  have hattainable : Attainable (enforcedOrder s) wanted o.tags :=
    ⟨hchain, hcount, fun n hn => (mem_expected.1 hn).1,
      fun t ht hlisted => mem_expected.2 ⟨hlisted, t, ht, rfl⟩⟩
  refine ⟨arrange wanted o.tags, hperm, (query_silent_iff _ s).2 ?_⟩
  exact (collapse_arrange hattainable).trans (expected_congr hperm).symm

theorem repairable_of_nodup (hnodup : (enforcedOrder s).Nodup) : Repairable s o := by
  have hexpected : (expected (enforcedOrder s) o.tags).Nodup := hnodup.filter _
  refine repairable_of_enough_tags hexpected.isChain fun n => ?_
  by_cases hn : n ∈ expected (enforcedOrder s) o.tags
  · obtain ⟨_, t, ht, hname⟩ := mem_expected.1 hn
    have hmem : n ∈ o.tags.map (·.name) := List.mem_map.2 ⟨t, ht, hname⟩
    exact (List.nodup_iff_count_le_one.1 hexpected n).trans (List.count_pos_iff.2 hmem)
  · rw [List.count_eq_zero.2 hn]
    exact Nat.zero_le _

/-- **When tags can be put in order.**  If the order names nothing twice, always.  In general, if
the names of the order that occur do not repeat one in a row, and none of them is asked for more
often than there are tags of it. -/
theorem repairable_iff_enough_tags (s : Settings) (o : CodeObject) :
    ((enforcedOrder s).Nodup → Repairable s o) ∧
      (Repairable s o ↔
        (expected (enforcedOrder s) o.tags).IsChain (· ≠ ·) ∧
          ∀ n, (expected (enforcedOrder s) o.tags).count n ≤ (o.tags.map (·.name)).count n) :=
  ⟨repairable_of_nodup, fun h => ⟨h.isChain_expected, h.count_expected_le⟩,
    fun ⟨hchain, hcount⟩ => repairable_of_enough_tags hchain hcount⟩

/-- With `param` named twice in the order, a method with one `@param` is reported, and there is
nothing to put in order. -/
theorem not_repairable_single_tag :
    ¬Repairable (settingsFor ["param", "param"])
      { path := "Foo#bar", kind := .methodDef, file := some "lib/foo.rb", line := some 3,
        tags := [{ name := "param" }] } := by
  intro h
  have hchain := h.isChain_expected
  rw [enforcedOrder_settingsFor] at hchain
  exact absurd hchain (by decide)

end DocAudit.TagOrder

import DocAudit.Path
import DocAudit.Proofs.Text.ReadBack
import Mathlib.Logic.Function.Basic
import Mathlib.Logic.Relation

/-!
# Segments of a path

The segments of a path are its parts without the empty ones and the dots.  With the root, if there
is one, they are all that the components say, apart from a dot that begins a relative path
(`significant_eq`).  `Respelled` lists the ways to write a path otherwise: a dot more, a slash
doubled, a slash at the end.  None of them changes the segments or makes a relative path absolute
(`Respelled.same`), and a path that is joined to a directory adds its segments to those of the
directory (`segments_join`).
-/

namespace DocAudit.Path

variable {p q : String}

/-- Whether a part of a path counts. -/
def counts (part : String) : Bool := part ≠ "" && part ≠ "."

/-- The parts of a path that count. -/
def segments (path : String) : List String := (parts path).filter counts

/-- The component that a segment stands for. -/
def Component.ofSegment (segment : String) : Component :=
  if segment = ".." then .parent else .normal segment

theorem Component.ofSegment_injective : Function.Injective Component.ofSegment := by
  intro a b h
  unfold ofSegment at h
  by_cases ha : a = ".."
  · by_cases hb : b = ".."
    · rw [ha, hb]
    · rw [if_pos ha, if_neg hb] at h
      cases h
  · by_cases hb : b = ".."
    · rw [if_neg ha, if_pos hb] at h
      cases h
    · rw [if_neg ha, if_neg hb] at h
      exact Component.normal.inj h

theorem Component.map_ofSegment_inj {ss ts : List String} :
    ss.map ofSegment = ts.map ofSegment ↔ ss = ts :=
  List.map_inj_right fun _ _ h => ofSegment_injective h

/-- Neither the root nor a dot is a segment. -/
theorem Component.ofSegment_ne (s : String) : ofSegment s ≠ .root ∧ ofSegment s ≠ .current := by
  unfold ofSegment
  split <;> simp

theorem Component.root_not_mem_map_ofSegment (ss : List String) : root ∉ ss.map ofSegment := by
  intro h
  obtain ⟨s, _, hs⟩ := List.mem_map.1 h
  exact (ofSegment_ne s).1 hs

/-! ## Components from segments -/

theorem componentOf?_eq (part : String) :
    componentOf? part = if counts part then some (Component.ofSegment part) else none := by
  unfold componentOf? counts Component.ofSegment
  by_cases hempty : part = ""
  · simp [hempty]
  · by_cases hdot : part = "."
    · simp [hdot]
    · by_cases hparent : part = ".."
      · simp [hparent]
      · simp [hempty, hdot, hparent]

theorem filterMap_componentOf? (path : String) :
    (parts path).filterMap componentOf? = (segments path).map Component.ofSegment := by
  unfold segments
  induction parts path with
  | nil => rfl
  | cons s ss ih =>
    rw [List.filterMap_cons, List.filter_cons, componentOf?_eq]
    cases counts s with
    | true => simp [ih]
    | false => simp [ih]

theorem components_of_isAbsolute (h : isAbsolute p = true) :
    components p = .root :: (segments p).map Component.ofSegment := by
  rw [components, if_pos h, filterMap_componentOf?]

/-- The significant components are the root, if the path starts there, and the segments. -/
theorem significant_eq (p : String) :
    significant p =
      (if isAbsolute p then [.root] else []) ++ (segments p).map Component.ofSegment := by
  have hstay : ((segments p).map Component.ofSegment).filter (· ≠ .current) =
      (segments p).map Component.ofSegment := by
    rw [List.filter_eq_self]
    intro c hc
    obtain ⟨s, _, rfl⟩ := List.mem_map.1 hc
    simpa using (Component.ofSegment_ne s).2
  unfold significant components
  simp only [filterMap_componentOf?]
  split
  · rw [List.filter_cons_of_pos (by decide), hstay]
    rfl
  · split
    · rw [List.filter_cons_of_neg (by decide), hstay]
      rfl
    · exact hstay

theorem components_eq_iff (hp : isAbsolute p = true) :
    components q = components p ↔ isAbsolute q = true ∧ segments q = segments p := by
  constructor
  · intro h
    rw [components_of_isAbsolute hp] at h
    by_cases hq : isAbsolute q = true
    · rw [components_of_isAbsolute hq] at h
      exact ⟨hq, Component.map_ofSegment_inj.1 (List.cons.inj h).2⟩
    · -- a relative path has no root among its components
      have hroot : Component.root ∈ components q := by
        rw [h]
        exact List.mem_cons_self
      have hnone := Component.root_not_mem_map_ofSegment (segments q)
      rw [components, if_neg hq, filterMap_componentOf?] at hroot
      split at hroot
      · rcases List.mem_cons.1 hroot with heq | hm
        · cases heq
        · exact absurd hm hnone
      · exact absurd hroot hnone
  · rintro ⟨hq, hs⟩
    rw [components_of_isAbsolute hp, components_of_isAbsolute hq, hs]

/-! ## Joined texts -/

theorem parts_append_slash (a b : String) : parts (a ++ "/" ++ b) = parts a ++ parts b := by
  have hchars : (a ++ "/" ++ b).toList = a.toList ++ '/' :: b.toList := by simp
  unfold parts Text.split
  rw [hchars, Text.splitChars_append_sep, List.map_append]

theorem segments_append_slash (a b : String) :
    segments (a ++ "/" ++ b) = segments a ++ segments b := by
  unfold segments
  rw [parts_append_slash, List.filter_append]

theorem segments_slash_append (b : String) : segments ("/" ++ b) = segments b :=
  segments_append_slash "" b

theorem segments_append_trailing (a : String) : segments (a ++ "/") = segments a := by
  have h := segments_append_slash a ""
  rwa [String.append_empty, show segments "" = [] from rfl, List.append_nil] at h

theorem segments_dotSlash_append (b : String) : segments ("./" ++ b) = segments b :=
  segments_append_slash "." b

theorem isAbsolute_append (h : p ≠ "") (q : String) : isAbsolute (p ++ q) = isAbsolute p := by
  have hchars : p.toList ≠ [] := by simpa using h
  obtain ⟨c, cs, hp⟩ := List.exists_cons_of_ne_nil hchars
  unfold isAbsolute
  rw [String.toList_append, hp, List.cons_append, List.head?_cons, List.head?_cons]

theorem isAbsolute_append_slash (a b c : String) :
    isAbsolute (a ++ "/" ++ b) = isAbsolute (a ++ "/" ++ c) := by
  have hne : a ++ "/" ≠ "" := by simp
  rw [isAbsolute_append hne, isAbsolute_append hne]

/-! ## Respelling -/

/-- One more dot or slash, where it makes no other path. -/
inductive Respelled : String → String → Prop where
  /-- A dot in front of the first segment of a relative path. -/
  | dotInFront (b : String) : isAbsolute b = false → Respelled b ("./" ++ b)
  /-- A dot in front of another segment. -/
  | dotInside (a b : String) : Respelled (a ++ "/" ++ b) (a ++ "/./" ++ b)
  | doubleSlash (a b : String) : Respelled (a ++ "/" ++ b) (a ++ "//" ++ b)
  | trailingSlash (a : String) : a ≠ "" → Respelled a (a ++ "/")

/-- Paths that come from each other by adding and removing dots and slashes. -/
def SameSpelling : String → String → Prop := Relation.EqvGen Respelled

theorem Respelled.same (h : Respelled p q) :
    isAbsolute q = isAbsolute p ∧ segments q = segments p := by
  cases h with
  | dotInFront b hb =>
    have habs : isAbsolute ("./" ++ p) = false := isAbsolute_append (by decide) p
    exact ⟨habs.trans hb.symm, segments_dotSlash_append p⟩
  | dotInside a b =>
    have hq : a ++ "/./" ++ b = a ++ "/" ++ ("./" ++ b) := by
      rw [show "/./" = "/" ++ "./" from rfl, String.append_assoc, String.append_assoc,
        String.append_assoc]
    rw [hq]
    refine ⟨isAbsolute_append_slash a _ _, ?_⟩
    rw [segments_append_slash, segments_append_slash, segments_dotSlash_append]
  | doubleSlash a b =>
    have hq : a ++ "//" ++ b = a ++ "/" ++ ("/" ++ b) := by
      rw [show "//" = "/" ++ "/" from rfl, String.append_assoc, String.append_assoc,
        String.append_assoc]
    rw [hq]
    refine ⟨isAbsolute_append_slash a _ _, ?_⟩
    rw [segments_append_slash, segments_append_slash, segments_slash_append]
  | trailingSlash a ha => exact ⟨isAbsolute_append ha "/", segments_append_trailing p⟩

theorem SameSpelling.same (h : SameSpelling p q) :
    isAbsolute q = isAbsolute p ∧ segments q = segments p := by
  induction h with
  | rel p q h => exact h.same
  | refl p => exact ⟨rfl, rfl⟩
  | symm p q _ ih => exact ⟨ih.1.symm, ih.2.symm⟩
  | trans p q r _ _ ih₁ ih₂ => exact ⟨ih₂.1.trans ih₁.1, ih₂.2.trans ih₁.2⟩

/-! ## Joining -/

theorem segments_join (dir : String) (h : isAbsolute q = false) :
    segments (join dir q) = segments dir ++ segments q := by
  unfold join
  rw [if_neg (by simp [h])]
  split
  · rename_i hdir
    rw [Bool.or_eq_true, decide_eq_true_eq, decide_eq_true_eq] at hdir
    rcases hdir with rfl | hslash
    · rw [String.empty_append]
      rfl
    · -- the slash at the end of the directory takes the place of a separator
      obtain ⟨cs, hcs⟩ := List.getLast?_eq_some_iff.1 hslash
      have hd : dir = String.ofList cs ++ "/" := by
        apply String.toList_injective
        rw [hcs, String.toList_append, String.toList_ofList]
        rfl
      rw [hd, segments_append_slash, segments_append_trailing]
  · exact segments_append_slash dir q

end DocAudit.Path

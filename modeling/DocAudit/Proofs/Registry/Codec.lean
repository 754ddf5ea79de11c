import Mathlib.Data.List.Rotate
import Mathlib.Logic.Relation
import DocAudit.Proofs.Json.Decode
import DocAudit.Proofs.Json.ReadBack
import DocAudit.Proofs.Text.ReadBack
import DocAudit.Report

/-!
# Code objects and offenses in JSON

The encoder writes every field, the decoder asks for the values of the keys.

* `Tag.ofJson?_toJson`, `CodeObject.ofJson?_toJson`, `Offense.ofJson?_toJson`: what is encoded is
  decoded again, if the line numbers are counts.
* `Tag.ofJson?_respelled`, `CodeObject.ofJson?_respelled`: what is decoded does not depend on the
  order of the members, on members that say what is meant without them, or on unknown members.
* `Registry.decode_encode_up_to_spelling`: both hold of the texts of whole lists.

A decoder of a record is opened once, by `decodesBy`, as a function of the value of each key.
-/

namespace DocAudit

open Json Relation

/-! ## Values -/

theorem ObjectKind.ofName?_name (k : ObjectKind) : ofName? k.name = some k := by cases k <;> rfl

theorem Access.ofName?_name (a : Access) : ofName? a.name = some a := by cases a <;> rfl

theorem Severity.ofText?_name (s : Severity) : ofText? s.name = some s := by cases s <;> decide

theorem Json.nullable?_text (t : Option String) :
    nullable? text? (ofOption ofText t) = some t := by
  cases t <;> rfl

theorem Json.count?_ofNat {n : Nat} (h : n < Text.countLimit) : count? (ofNat n) = some n := by
  have hdigits : ∀ c ∈ Nat.toDigits 10 n, c.isDigit = true := fun c => Text.isDigit_of_mem_decimal
  have hchars : (toString n).toList = Nat.toDigits 10 n := by simp [Nat.toString_eq_repr]
  unfold count? ofNat Number.ofNat Number.toCount?
  simp only [Number.isInteger, hchars, Text.readDigits_eq_ofDigitChars 0 hdigits,
    Nat.ofDigitChars_toDigits (by decide : 1 < 10) (by decide : 10 ≤ 10)]
  simp [h]

theorem Json.nullable?_count {t : Option Nat} (h : ∀ n ∈ t, n < Text.countLimit) :
    nullable? count? (ofOption ofNat t) = some t := by
  cases t with
  | none => rfl
  | some n =>
    have hn := count?_ofNat (h n rfl)
    simp only [ofOption]
    unfold ofNat at *
    simp [nullable?, hn]

theorem Json.Number.written_ofNat (n : Nat) : (Number.ofNat n).Written where
  integer := by
    intro c hc
    have hmem : c ∈ Nat.toDigits 10 n := by simpa [Number.ofNat, Nat.toString_eq_repr] using hc
    exact Text.isDigit_of_mem_decimal hmem
  leading := by
    simp only [Number.ofNat, Nat.toString_eq_repr, Nat.toList_repr]
    rcases Nat.eq_zero_or_pos n with rfl | hpos
    · exact .inl rfl
    · exact .inr (Text.exists_toDigits_eq_cons hpos)
  fraction := by simp [Number.ofNat]
  exponent := by simp [Number.ofNat]

theorem Json.writable_ofText (s : String) : Writable (ofText s) := .str s

theorem Json.writable_ofNat (n : Nat) : Writable (ofNat n) := .number (Number.written_ofNat n)

theorem Json.writable_ofOption {α : Type} {f : α → Json} {t : Option α}
    (h : ∀ x ∈ t, Writable (f x)) : Writable (ofOption f t) := by
  cases t with
  | none => exact .null
  | some x => exact h x rfl

theorem Json.writable_map {α : Type} {f : α → Json} {xs : List α}
    (h : ∀ x ∈ xs, Writable (f x)) : Writable (.arr (xs.map f)) := by
  refine .arr fun v hv => ?_
  obtain ⟨x, hx, rfl⟩ := List.mem_map.1 hv
  exact h x hx

/-! ## Tags -/

namespace Tag

theorem ofJson?_toJson (t : Tag) : ofJson? t.toJson = some t := by
  have htypes : list? text? (.arr (t.types.map .ofText)) = some t.types :=
    list?_map fun _ _ => rfl
  simp [ofJson?, toJson, fields?, memberValues_eq, named?, value?, keys, required, defaulted,
    htypes, nullable?_text, ofText, text?]

/-- Decodes a tag from the values of its keys. -/
def ofLookup? (get : String → Option Json) : Option Tag := do
  some
    { name := ← required text? (get "name")
      param := ← defaulted none (nullable? text?) (get "param_name")
      types := ← defaulted [] (list? text?) (get "types")
      text := ← defaulted "" text? (get "text") }

theorem decodesBy : DecodesBy keys ofJson? ofLookup? where
  values := by
    intro ms ms' hvalues
    unfold ofJson?
    rw [fields?_obj, fields?_obj, hvalues]
  lookups := by
    intro ms
    unfold ofJson?
    rw [fields?_obj, memberValues_eq]
    cases named? ms with
    | none => rfl
    | some named =>
      rw [Option.bind_some, Option.bind_some, mapM_value?]
      split <;> rfl

/-- The members that may be left out: what they say is what is meant without them. -/
def defaultMembers : List (String × Json) :=
  [("param_name", .null), ("types", .arr []), ("text", .ofText "")]

theorem ofLookup?_default {key : String} {v : Json} {get : String → Option Json}
    (h : (key, v) ∈ defaultMembers) (hmissing : get key = none) :
    ofLookup? (Function.update get key (some v)) = ofLookup? get := by
  simp only [defaultMembers, List.mem_cons, Prod.mk.injEq, List.not_mem_nil, or_false] at h
  rcases h with ⟨rfl, rfl⟩ | ⟨rfl, rfl⟩ | ⟨rfl, rfl⟩
  all_goals
    simp only [ofLookup?, ne_eq, String.reduceEq, not_false_eq_true, Function.update_of_ne,
      Function.update_self, hmissing, defaulted, nullable?, list?, text?, ofText, List.mapM_nil,
      Option.pure_def, Option.bind_eq_bind, Option.bind_some]

/-- The same tag, written as another object. -/
inductive Respelled : Json → Json → Prop
  | members {ms ms' : List (Option String × Json)} :
      Json.Respelled keys defaultMembers ms ms' → Respelled (.obj ms) (.obj ms')

theorem ofJson?_respelled {v w : Json} (h : Respelled v w) : ofJson? v = ofJson? w := by
  obtain ⟨hmembers⟩ := h
  exact decodesBy.eq_of_respelled hmembers ofLookup?_default

theorem writable_toJson (t : Tag) : Writable t.toJson := by
  have hparam : Writable (ofOption ofText t.param) := writable_ofOption fun s _ => writable_ofText s
  have htypes : Writable (.arr (t.types.map ofText)) := writable_map fun s _ => writable_ofText s
  refine .obj (by simp) ?_
  simp [hparam, htypes, writable_ofText]

end Tag

/-! ## Code objects -/

namespace CodeObject

theorem ofJson?_toJson {o : CodeObject} (h : ∀ n ∈ o.line, n < Text.countLimit) :
    ofJson? o.toJson = some o := by
  have htags : list? Tag.ofJson? (.arr (o.tags.map Tag.toJson)) = some o.tags :=
    list?_map fun t _ => Tag.ofJson?_toJson t
  simp [ofJson?, toJson, fields?, memberValues_eq, named?, value?, keys, required, defaulted,
    htags, nullable?_text, nullable?_count h, ofText, text?, variant?, ObjectKind.ofName?_name,
    Access.ofName?_name]

/-- Decodes a code object from the values of its keys. -/
def ofLookup? (get : String → Option Json) : Option CodeObject := do
  some
    { path := ← required text? (get "path")
      kind := ← required (fun v => (variant? v).bind ObjectKind.ofName?) (get "kind")
      access := ← defaulted .publicAccess (fun v => (variant? v).bind Access.ofName?)
        (get "visibility")
      file := ← defaulted none (nullable? text?) (get "file")
      line := ← defaulted none (nullable? count?) (get "line")
      docstring := ← defaulted "" text? (get "docstring")
      tags := ← defaulted [] (list? Tag.ofJson?) (get "tags") }

theorem decodesBy : DecodesBy keys ofJson? ofLookup? where
  values := by
    intro ms ms' hvalues
    unfold ofJson?
    rw [fields?_obj, fields?_obj, hvalues]
  lookups := by
    intro ms
    unfold ofJson?
    rw [fields?_obj, memberValues_eq]
    cases named? ms with
    | none => rfl
    | some named =>
      rw [Option.bind_some, Option.bind_some, mapM_value?]
      split <;> rfl

/-- The members that may be left out: what they say is what is meant without them. -/
def defaultMembers : List (String × Json) :=
  [("visibility", .ofText "public"), ("visibility", .obj [(some "public", .null)]),
    ("file", .null), ("line", .null), ("docstring", .ofText ""), ("tags", .arr [])]

theorem ofLookup?_default {key : String} {v : Json} {get : String → Option Json}
    (h : (key, v) ∈ defaultMembers) (hmissing : get key = none) :
    ofLookup? (Function.update get key (some v)) = ofLookup? get := by
  simp only [defaultMembers, List.mem_cons, Prod.mk.injEq, List.not_mem_nil, or_false] at h
  rcases h with ⟨rfl, rfl⟩ | ⟨rfl, rfl⟩ | ⟨rfl, rfl⟩ | ⟨rfl, rfl⟩ | ⟨rfl, rfl⟩ | ⟨rfl, rfl⟩
  all_goals
    simp only [ofLookup?, ne_eq, String.reduceEq, not_false_eq_true, Function.update_of_ne,
      Function.update_self, hmissing, defaulted, nullable?, list?, text?, ofText, variant?,
      Access.ofName?, List.mapM_nil, Option.pure_def, Option.bind_eq_bind, Option.bind_some]

/-- A tag may be replaced by one that is decoded in the same way. -/
theorem ofJson?_replaceTag {v w : Json} (h : Tag.ofJson? v = Tag.ofJson? w)
    (before after : List Json) (members : List (Option String × Json)) :
    ofJson? (.obj ((some "tags", .arr (before ++ v :: after)) :: members)) =
      ofJson? (.obj ((some "tags", .arr (before ++ w :: after)) :: members)) := by
  refine decodesBy.replace (by decide) (fun get => ?_) members
  simp only [ofLookup?, ne_eq, String.reduceEq, not_false_eq_true, Function.update_of_ne,
    Function.update_self, defaulted, list?_congr h before after, Option.bind_eq_bind]

/-- The same code object, written as another object or with another spelling of a tag. -/
inductive Respelled : Json → Json → Prop
  | members {ms ms' : List (Option String × Json)} :
      Json.Respelled keys defaultMembers ms ms' → Respelled (.obj ms) (.obj ms')
  | tag {v w : Json} (before after : List Json) (ms : List (Option String × Json)) :
      Tag.Respelled v w →
      Respelled (.obj ((some "tags", .arr (before ++ v :: after)) :: ms))
        (.obj ((some "tags", .arr (before ++ w :: after)) :: ms))

theorem ofJson?_respelled {v w : Json} (h : Respelled v w) : ofJson? v = ofJson? w := by
  cases h with
  | members hmembers => exact decodesBy.eq_of_respelled hmembers ofLookup?_default
  | tag before after ms htag =>
    exact ofJson?_replaceTag (Tag.ofJson?_respelled htag) before after ms

theorem writable_toJson (o : CodeObject) : Writable o.toJson := by
  have hfile : Writable (ofOption ofText o.file) := writable_ofOption fun s _ => writable_ofText s
  have hline : Writable (ofOption ofNat o.line) := writable_ofOption fun n _ => writable_ofNat n
  have htags : Writable (.arr (o.tags.map Tag.toJson)) :=
    writable_map fun t _ => t.writable_toJson
  refine .obj (by simp) ?_
  simp [hfile, hline, htags, writable_ofText]

end CodeObject

/-! ## Offenses -/

namespace Offense

theorem ofJson?_toJson {o : Offense} (h : o.line < Text.countLimit) :
    ofJson? o.toJson = some o := by
  simp [ofJson?, toJson, fields?, memberValues_eq, named?, value?, required, count?_ofNat h,
    ofText, text?, Severity.ofText?_name]

theorem writable_toJson (o : Offense) : Writable o.toJson := by
  refine .obj (by simp) ?_
  simp [writable_ofText, writable_ofNat]

end Offense

/-! ## Registries -/

namespace Registry

/-- The same list of code objects, with another spelling of one of them. -/
inductive Respelled : Json → Json → Prop
  | object {v w : Json} (before after : List Json) : CodeObject.Respelled v w →
      Respelled (.arr (before ++ v :: after)) (.arr (before ++ w :: after))

theorem list?_respelled {v w : Json} (h : EqvGen Respelled v w) :
    list? CodeObject.ofJson? v = list? CodeObject.ofJson? w := by
  have hstep : ∀ v w, Respelled v w →
      list? CodeObject.ofJson? v = list? CodeObject.ofJson? w := by
    rintro _ _ ⟨before, after, hobject⟩
    exact list?_congr (CodeObject.ofJson?_respelled hobject) before after
  exact (eq_equivalence.comap (list? CodeObject.ofJson?)).eqvGen_iff.1 (h.mono hstep)

theorem ofText?_of_parse {text : String} {v : Json} (h : parse text = some v) :
    ofText? text = (list? CodeObject.ofJson? v).map Registry.mk := by
  unfold ofText?
  rw [h, Option.map_eq_bind]
  rfl

/-- **What is written is read back, in every spelling.**  The text that is written for a list of
code objects or of offenses is decoded to that list.  So is any other text for the same value; and
for code objects it does not matter in which order the members of an object or a tag stand, whether
those that say what is meant without them are there, and which others there are. -/
theorem decode_encode_up_to_spelling {objects : List CodeObject} {offenses : List Offense}
    (hobjects : ∀ o ∈ objects, ∀ n ∈ o.line, n < Text.countLimit)
    (hoffenses : ∀ o ∈ offenses, o.line < Text.countLimit) :
    ofText? (pretty (.arr (objects.map CodeObject.toJson))) = some ⟨objects⟩ ∧
    Offense.listOfText? (pretty (.arr (offenses.map Offense.toJson))) = some offenses ∧
    (∀ text v, parse text = some v →
      EqvGen Respelled (.arr (objects.map CodeObject.toJson)) v → ofText? text = some ⟨objects⟩) ∧
    (∀ text, parse text = some (.arr (offenses.map Offense.toJson)) →
      Offense.listOfText? text = some offenses) ∧
    ∀ text text' v v', parse text = some v → parse text' = some v' → EqvGen Respelled v v' →
      ofText? text = ofText? text' := by
  have hdecode : list? CodeObject.ofJson? (.arr (objects.map CodeObject.toJson)) = some objects :=
    list?_map fun o ho => CodeObject.ofJson?_toJson (hobjects o ho)
  have hread : ∀ text v, parse text = some v →
      EqvGen Respelled (.arr (objects.map CodeObject.toJson)) v →
        ofText? text = some ⟨objects⟩ := by
    intro text v hparse hsame
    rw [ofText?_of_parse hparse, ← list?_respelled hsame, hdecode]
    rfl
  have hlist : ∀ text, parse text = some (.arr (offenses.map Offense.toJson)) →
      Offense.listOfText? text = some offenses := by
    intro text hparse
    unfold Offense.listOfText?
    rw [hparse, Option.bind_some, list?_map fun o ho => Offense.ofJson?_toJson (hoffenses o ho)]
  refine ⟨?_, ?_, hread, hlist, ?_⟩
  · exact hread _ _ (parse_pretty (writable_map fun o _ => o.writable_toJson)) (.refl _)
  · exact hlist _ (parse_pretty (writable_map fun o _ => o.writable_toJson))
  · intro text text' v v' hparse hparse' hsame
    rw [ofText?_of_parse hparse, ofText?_of_parse hparse', list?_respelled hsame]

/-- A method with a tag. -/
def method : CodeObject :=
  { path := "A#b"
    kind := .methodDef
    file := some "a.rb"
    line := some 3
    tags := [{ name := "param", param := some "x", types := ["Int"] }] }

/-- The tag of the method without its text. -/
def tagSpelling : Json :=
  .obj [(some "name", .ofText "param"), (some "param_name", .ofText "x"),
    (some "types", .arr [.ofText "Int"])]

/-- The method without its access level, and with one more member. -/
def methodSpelling : Json :=
  .obj [(some "file", .ofText "a.rb"), (some "line", .ofNat 3), (some "docstring", .ofText ""),
    (some "since", .bool true), (some "tags", .arr [tagSpelling]), (some "path", .ofText "A#b"),
    (some "kind", .ofText "method")]

theorem respelled_method : EqvGen Respelled (.arr [method.toJson]) (.arr [methodSpelling]) := by
  have hfirst : ∀ {v w : Json}, CodeObject.Respelled v w →
      EqvGen Respelled (.arr [v]) (.arr [w]) := fun h => .rel _ _ (.object [] [] h)
  -- the tags come first, then their text comes first and is left out
  refine .trans _ _ _ (hfirst (.members (.permute (List.rotate_perm _ 6).symm))) ?_
  refine .trans _ _ _
    (hfirst (.tag [] [] _ (.members (.permute (List.rotate_perm _ 3).symm)))) ?_
  refine .trans _ _ _
    (hfirst (.tag [] [] _ (.members (.leaveOut (by simp [Tag.defaultMembers]) (by simp))))) ?_
  -- then the new member is there, and the access level comes first and is left out
  refine .trans _ _ _ (hfirst (.members (.extend (.bool true) (by decide : "since" ∉ _)))) ?_
  refine .trans _ _ _ (hfirst (.members (.permute (List.rotate_perm _ 4).symm))) ?_
  exact hfirst (.members (.leaveOut (by simp [CodeObject.defaultMembers, method, Access.name])
    (by simp)))

theorem writable_methodSpelling : Writable methodSpelling := by
  have htypes : Writable (.arr [.ofText "Int"]) := .arr (by simp [writable_ofText])
  have htag : Writable tagSpelling := .obj (by simp) (by simp [htypes, writable_ofText])
  have htags : Writable (.arr [tagSpelling]) := .arr (by simpa using htag)
  exact .obj (by simp) (by simp [htags, writable_ofText, writable_ofNat, Writable.bool])

/-- An offense in the method. -/
def untyped : Offense := ⟨.error, "Method", "Tags", "untyped", "a.rb", 3⟩

/-- The method is decoded from the text without its defaults, and the offense from its own text. -/
theorem decode_encode_up_to_spelling_method :
    ofText? (pretty (.arr [methodSpelling])) = some ⟨[method]⟩ ∧
      Offense.listOfText? (pretty (.arr [untyped.toJson])) = some [untyped] := by
  have hobjects : ∀ o ∈ [method], ∀ n ∈ o.line, n < Text.countLimit := by decide
  have hoffenses : ∀ o ∈ [untyped], o.line < Text.countLimit := by decide
  have hparse : parse (pretty (.arr [methodSpelling])) = some (.arr [methodSpelling]) :=
    parse_pretty (.arr (by simpa using writable_methodSpelling))
  obtain ⟨_, hlist, hread, _, _⟩ := decode_encode_up_to_spelling hobjects hoffenses
  exact ⟨hread _ _ hparse respelled_method, hlist⟩

end Registry

end DocAudit

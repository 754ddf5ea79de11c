import DocAudit.Builtin.YardWarning
import DocAudit.Proofs.Output.Pair
import DocAudit.Proofs.Pattern.Leftmost
import DocAudit.Proofs.Text.ReadBack

/-!
# Dividing the warnings of the documentation tool

The output of the tool is a mixture of warnings about tags, warnings about parameters and other
lines.  `parse_output` says that each of the two validators gets its own warnings and nothing else,
whatever the mixture: one record for each warning, in order, with the name and the place that the
warning gives.

The patterns are not anchored, so that names and files are the places where something could go
wrong.  For each pattern it is shown that no match starts before the one that is meant
(`NoMatchIn`), and what that match takes up (`Takes`).
-/

namespace DocAudit.YardWarning

open Pattern

/-! ## What the tool prints -/

/-- The name of a tag or a parameter. -/
structure Name where
  text : String
  ne_empty : text ≠ ""
  noBlank : ∀ c ∈ text.toList, Text.isBlank c = false

/-- The place of a warning. -/
structure Place where
  file : String
  line : Nat
  file_ne : file ≠ ""
  noFeed : '\n' ∉ file.toList
  noBackquote : '`' ∉ file.toList
  noQuote : '\'' ∉ file.toList
  noLine : ∀ d, Unicode.isDecimalDigit d = true → ¬ "near line ".toList ++ [d] <:+: file.toList
  line_lt : line < Text.countLimit

def Place.text (p : Place) : String := "in file `" ++ p.file ++ "' near line " ++ toString p.line

/-- A line that is the start of no warning. -/
structure Noise where
  text : String
  noFeed : '\n' ∉ text.toList
  notTag : Output.isHeader UnknownTag.patterns text = false
  notParameter : Output.isHeader UnknownParameter.patterns text = false

/-- What the tool prints about one thing. -/
inductive Item where
  | tag (name : Name) (place : Place)
  | parameter (name : Name) (place : Place)
  | noise (line : Noise)

/-- The line of a warning about a tag. -/
def tagLine (name : Name) (place : Place) : String :=
  "[warn]: Unknown tag @" ++ name.text ++ " " ++ place.text

/-- The first line of a warning about a parameter. -/
def parameterLine (name : Name) : String :=
  "[warn]: @param tag has unknown parameter name: " ++ name.text

/-- The second line of a warning about a parameter. -/
def placeLine (place : Place) : String := "    " ++ place.text

def Item.lines : Item → List String
  | tag name place => [tagLine name place]
  | parameter name place => [parameterLine name, placeLine place]
  | noise line => [line.text]

def output (items : List Item) : String :=
  String.ofList ((items.flatMap Item.lines).flatMap fun l => l.toList ++ ['\n'])

/-- The record that a warning about a tag is to have. -/
def Item.tagRecord? : Item → Option Record
  | tag name place =>
    some
      { message := some ("@" ++ name.text)
        location := some place.file
        line := some place.line }
  | _ => none

/-- The record that a warning about a parameter is to have. -/
def Item.parameterRecord? : Item → Option Record
  | parameter name place =>
    some
      { message := some name.text
        location := some place.file
        line := some place.line }
  | _ => none

/-! ## The patterns, as they have been read -/

def quoteSet : CharSet := ⟨[(0x27, 0x27), (0x60, 0x60)]⟩

def nameExpr : Expr := .repeated (.set .notBlank) 1 none true

def fileExpr : Expr :=
  .seq (.literal "in file ".toList) (.seq (.set quoteSet)
    (.seq (.group 1 (.repeated (.set quoteSet.compl) 1 none true)) (.set quoteSet)))

def lineExpr : Expr :=
  .seq (.literal "near line ".toList) (.group 1 (.repeated (.set digitSet) 1 none true))

/-- The start of a warning about a tag. -/
def tagHeader : Expr :=
  .seq (.assert .textStart) (.seq (.literal "[warn]: Unknown tag @".toList) nameExpr)

/-- The tag that a warning is about. -/
def tagMessage : Expr :=
  .seq (.literal "Unknown tag ".toList) (.group 1 (.seq (.literal ['@']) nameExpr))

/-- The start of a warning about a parameter. -/
def parameterHeader : Expr :=
  .seq (.assert .textStart) (.literal "[warn]: @param tag has unknown parameter name".toList)

/-- The parameter that a warning is about. -/
def parameterMessage : Expr :=
  .seq (.literal "unknown parameter name: ".toList) (.group 1 nameExpr)

/-- Patterns with those of places and others for the start and the message of warnings. -/
def patternsWith (header message : Expr) : PatternSet :=
  ⟨[(PatternSet.general, ⟨header⟩), (PatternSet.line, ⟨lineExpr⟩),
    (PatternSet.location, ⟨fileExpr⟩), (PatternSet.message, ⟨message⟩)]⟩

theorem tagPatterns_eq : UnknownTag.patterns = patternsWith tagHeader tagMessage := by
  decide +kernel

theorem parameterPatterns_eq :
    UnknownParameter.patterns = patternsWith parameterHeader parameterMessage := by
  decide +kernel

variable {header message : Expr}

theorem get?_general :
    Assoc.get? PatternSet.general (patternsWith header message).entries = some ⟨header⟩ := rfl

theorem get?_line :
    Assoc.get? PatternSet.line (patternsWith header message).entries = some ⟨lineExpr⟩ := rfl

theorem get?_location :
    Assoc.get? PatternSet.location (patternsWith header message).entries = some ⟨fileExpr⟩ := rfl

theorem get?_message :
    Assoc.get? PatternSet.message (patternsWith header message).entries = some ⟨message⟩ := rfl

theorem Name.toList_ne_nil (name : Name) : name.text.toList ≠ [] := fun h =>
  name.ne_empty (String.toList_eq_nil_iff.1 h)

/-! ## The start of a warning -/

theorem isHeader_tag_iff {line : String} :
    Output.isHeader UnknownTag.patterns line = true ↔
      ∃ c rest, line.toList = "[warn]: Unknown tag @".toList ++ c :: rest ∧
        Text.isBlank c = false := by
  have hmatch : Output.isHeader UnknownTag.patterns line =
      (search tagHeader line.toList).isSome := by
    rw [tagPatterns_eq]
    exact isMatch_of_get? get?_general line
  rw [hmatch, tagHeader, isSome_search_textStart rfl rfl]
  simp only [mem_ways_seq, mem_ways_literal, nameExpr, mem_ways_repeated_set]
  constructor
  · rintro ⟨t, u, hu, cs, hlen, hcs, ht⟩
    obtain ⟨c, cs, rfl⟩ := List.exists_cons_of_length_pos hlen
    refine ⟨c, cs ++ t.cursor.rest, ?_, ?_⟩
    · exact (State.rest_of_read? hu).trans (congrArg _ (State.rest_of_read? ht))
    · have hc := hcs c List.mem_cons_self
      rw [CharSet.contains_notBlank] at hc
      simpa using hc
  · rintro ⟨c, rest, hline, hc⟩
    obtain ⟨u, hu, hrest⟩ := State.exists_read? "[warn]: Unknown tag @".toList
      (s := ⟨⟨line.toList.length, none, line.toList⟩, []⟩) hline
    obtain ⟨t, ht, _⟩ := State.exists_read? [c] hrest
    refine ⟨t, u, hu, [c], Nat.le_refl 1, ?_, ht⟩
    intro d hd
    cases List.mem_singleton.1 hd
    rw [CharSet.contains_notBlank, hc]
    rfl

theorem isHeader_parameter_iff {line : String} :
    Output.isHeader UnknownParameter.patterns line = true ↔
      "[warn]: @param tag has unknown parameter name".toList <+: line.toList := by
  have hmatch : Output.isHeader UnknownParameter.patterns line =
      (search parameterHeader line.toList).isSome := by
    rw [parameterPatterns_eq]
    exact isMatch_of_get? get?_general line
  rw [hmatch, parameterHeader, isSome_search_textStart rfl rfl]
  simp only [mem_ways_literal]
  constructor
  · rintro ⟨t, ht⟩
    exact ⟨t.cursor.rest, (State.rest_of_read? ht).symm⟩
  · rintro ⟨rest, hline⟩
    obtain ⟨t, ht, _⟩ := State.exists_read? "[warn]: @param tag has unknown parameter name".toList
      (s := ⟨⟨line.toList.length, none, line.toList⟩, []⟩) hline.symm
    exact ⟨t, ht⟩

/-! ## The place of a warning -/

theorem contains_quoteSet (c : Char) : quoteSet.contains c = decide (c = '\'' ∨ c = '`') := by
  have hsorted : quoteSet.ranges.Pairwise (fun r s => r.1 ≤ s.1) := by decide
  rw [CharSet.contains_eq_any hsorted, Bool.eq_iff_iff, decide_eq_true_iff, ← Char.toNat_inj,
    ← Char.toNat_inj]
  have hquote : '\''.toNat = 0x27 := rfl
  have hback : '`'.toNat = 0x60 := rfl
  simp only [quoteSet, List.any_cons, List.any_nil, Bool.or_false, Bool.or_eq_true,
    Bool.and_eq_true, decide_eq_true_eq, hquote, hback]
  omega

namespace Place

variable (p : Place)

/-- The text up to the file and what comes after it. -/
theorem toList_text_file :
    p.text.toList = ("in file ".toList ++ (['`'] ++ (p.file.toList ++ ['\'']))) ++
      ' ' :: ("near line ".toList ++ Nat.toDigits 10 p.line) := by
  unfold text
  simp [toString, Nat.toList_repr]

/-- The text up to the line and the line. -/
theorem toList_text_line :
    p.text.toList = ("in file `".toList ++ (p.file.toList ++ ['\'', ' '])) ++
      ("near line ".toList ++ Nat.toDigits 10 p.line) := by
  unfold text
  simp [toString, Nat.toList_repr]

theorem takes_file :
    Takes fileExpr ("in file ".toList ++ (['`'] ++ (p.file.toList ++ ['\''])))
      (' ' :: ("near line ".toList ++ Nat.toDigits 10 p.line)) [(1, p.file.toList)] := by
  have hquotes : quoteSet.ranges.Pairwise CharSet.Apart := by decide
  have hfile : Takes (.repeated (.set quoteSet.compl) 1 none true) p.file.toList
      (['\''] ++ ' ' :: ("near line ".toList ++ Nat.toDigits 10 p.line)) [] := by
    apply takes_repeated
    · exact List.length_pos_iff.2 fun hnil => p.file_ne (String.toList_eq_nil_iff.1 hnil)
    · intro c hc
      have hquote : c ≠ '\'' := fun h => p.noQuote (h ▸ hc)
      have hback : c ≠ '`' := fun h => p.noBackquote (h ▸ hc)
      rw [CharSet.contains_compl hquotes, contains_quoteSet]
      simp [hquote, hback]
    · intro c hc
      cases hc
      rw [CharSet.contains_compl hquotes, contains_quoteSet]
      rfl
  exact (takes_literal _ _).seq <| (takes_set (by rw [contains_quoteSet]; rfl) _).seq <|
    (hfile.group 1).seq (takes_set (by rw [contains_quoteSet]; rfl) _)

theorem takes_line :
    Takes lineExpr ("near line ".toList ++ Nat.toDigits 10 p.line) []
      [(1, Nat.toDigits 10 p.line)] := by
  have hdigits : Takes (.repeated (.set digitSet) 1 none true) (Nat.toDigits 10 p.line) [] [] := by
    apply takes_repeated
    · exact List.length_pos_iff.2 Nat.toDigits_ne_nil
    · intro c hc
      rw [CharSet.contains_digitSet]
      exact Text.isDecimalDigit_of_isDigit (Text.isDigit_of_mem_decimal hc)
    · intro c hc
      cases hc
  exact (takes_literal _ _).seq (hdigits.group 1)

/-- The only line number in the text of a place is the one at its end. -/
theorem noMatchIn_line :
    NoMatchIn lineExpr ("in file `".toList ++ (p.file.toList ++ ['\'', ' ']))
      ("near line ".toList ++ Nat.toDigits 10 p.line) := by
  -- the file stands between two pieces of fixed text, and the quote ends what could begin in it
  refine noMatchIn_append (noMatchIn_of_clashes _ (by decide))
    (noMatchIn_append ?_ (noMatchIn_of_clashes _ (by decide)))
  refine noMatchIn_of_not_infix (by decide) ?_ _ ?_
  · rw [CharSet.contains_digitSet]
    decide
  · intro d hd
    rw [CharSet.contains_digitSet] at hd
    exact p.noLine d hd

/-- **The place at the end of a line is found,** if nothing before it looks like one. -/
theorem captured (header message : Expr) {line : String} {front : List Char}
    (hline : line.toList = front ++ p.text.toList)
    (hfile : NoMatchIn fileExpr front p.text.toList)
    (hnumber : NoMatchIn lineExpr front p.text.toList) :
    (patternsWith header message).lastCapture? line PatternSet.location = some p.file ∧
      (patternsWith header message).lineNumber? line PatternSet.line = some p.line := by
  constructor
  · rw [p.toList_text_file] at hline hfile
    have hfound : (patternsWith header message).lastCapture? line PatternSet.location =
        some (String.ofList p.file.toList) :=
      lastCapture?_of_takes get?_location rfl rfl rfl p.takes_file hfile hline
    rwa [String.ofList_toList] at hfound
  · rw [p.toList_text_line] at hline hnumber
    rw [← List.append_assoc, ← List.append_nil ("near line ".toList ++ _)] at hline
    have hnone := noMatchIn_append hnumber p.noMatchIn_line
    rw [← List.append_nil ("near line ".toList ++ _)] at hnone
    have hfound : (patternsWith header message).lastCapture? line PatternSet.line =
        some (String.ofList (Nat.toDigits 10 p.line)) :=
      lastCapture?_of_takes get?_line rfl rfl rfl p.takes_line hnone hline
    have hdigits : ∀ c ∈ Nat.toDigits 10 p.line, Text.isBlank c = false := fun c hc =>
      Text.isBlank_of_isDigit (Text.isDigit_of_mem_decimal hc)
    unfold PatternSet.lineNumber?
    rw [hfound, Option.bind_some, String.toList_ofList, Text.trimChars_of_not_blank hdigits,
      Text.readCountChars_toDigits p.line_lt]

end Place

/-! ## The lines of warnings -/

variable (name : Name) (place : Place)

theorem Name.takes (tail : List Char) (htail : ∀ c ∈ tail.head?, Text.isBlank c = true) :
    Takes nameExpr name.text.toList tail [] := by
  apply takes_repeated
  · exact List.length_pos_iff.2 name.toList_ne_nil
  · intro c hc
    rw [CharSet.contains_notBlank, name.noBlank c hc]
    rfl
  · intro c hc
    rw [CharSet.contains_notBlank, htail c hc]
    rfl

theorem Name.blank_not_mem : ' ' ∉ name.text.toList := fun h =>
  absurd (name.noBlank ' ' h) (by decide)

/-! ### Tags -/

theorem toList_tagLine :
    (tagLine name place).toList = "[warn]: ".toList ++
      (("Unknown tag ".toList ++ ('@' :: name.text.toList)) ++ ' ' :: place.text.toList) := by
  unfold tagLine
  simp

theorem toList_tagLine_place :
    (tagLine name place).toList =
      ("[warn]: Unknown tag @".toList ++ (name.text.toList ++ [' '])) ++ place.text.toList := by
  unfold tagLine
  simp

theorem isHeader_tagLine : Output.isHeader UnknownTag.patterns (tagLine name place) = true := by
  obtain ⟨c, cs, hname⟩ := List.exists_cons_of_ne_nil name.toList_ne_nil
  refine isHeader_tag_iff.2 ⟨c, cs ++ ' ' :: place.text.toList, ?_, ?_⟩
  · rw [toList_tagLine_place, hname]
    simp
  · exact name.noBlank c (hname ▸ List.mem_cons_self)

theorem captured_tagLine :
    UnknownTag.patterns.lastCapture? (tagLine name place) PatternSet.message =
      some ("@" ++ name.text) := by
  have hname : Takes nameExpr name.text.toList (' ' :: place.text.toList) [] := by
    apply name.takes
    intro c hc
    cases hc
    decide
  have htakes : Takes tagMessage ("Unknown tag ".toList ++ ('@' :: name.text.toList))
      (' ' :: place.text.toList) [(1, '@' :: name.text.toList)] :=
    (takes_literal _ _).seq (((takes_literal ['@'] _).seq hname).group 1)
  have hsame : String.ofList ('@' :: name.text.toList) = "@" ++ name.text := by
    apply String.toList_inj.1
    simp
  rw [tagPatterns_eq, lastCapture?_of_takes get?_message rfl rfl rfl htakes
    (noMatchIn_of_clashes _ (by decide)) (toList_tagLine name place), hsame]

/-- The name of a tag is no part of a place: it is followed by a blank, and what comes after the
blank is not what comes after the first blank of the literal. -/
theorem noMatchIn_tagLine {l : List Char} {e : Expr} (xs ds : List Char)
    (hl : l = xs ++ ' ' :: ds) (hxs : ' ' ∉ xs) (hds : ¬ ds <+: place.text.toList)
    (hstart : clashes l "[warn]: Unknown tag @".toList = true) (hblank : clashes l [' '] = true) :
    NoMatchIn (.seq (.literal l) e) ("[warn]: Unknown tag @".toList ++ (name.text.toList ++ [' ']))
      place.text.toList :=
  noMatchIn_append (noMatchIn_of_clashes _ hstart)
    (noMatchIn_append (noMatchIn_word xs ds hl hxs hds name.blank_not_mem)
      (noMatchIn_of_clashes _ hblank))

theorem lineRecord_tagLine :
    Output.lineRecord UnknownTag.patterns (tagLine name place) =
      { message := some ("@" ++ name.text), location := some place.file,
        line := some place.line } := by
  have hfile : ¬ "file ".toList <+: place.text.toList := by
    rw [place.toList_text_file]
    simp
  have hline : ¬ "line ".toList <+: place.text.toList := by
    rw [place.toList_text_file]
    simp
  obtain ⟨hlocation, hnumber⟩ := place.captured tagHeader tagMessage
    (toList_tagLine_place name place)
    (noMatchIn_tagLine name place "in".toList "file ".toList rfl (by decide) hfile (by decide)
      (by decide))
    (noMatchIn_tagLine name place "near".toList "line ".toList rfl (by decide) hline (by decide)
      (by decide))
  rw [← tagPatterns_eq] at hlocation hnumber
  unfold Output.lineRecord
  rw [captured_tagLine, hlocation, hnumber]

/-! ### Parameters -/

theorem toList_parameterLine :
    (parameterLine name).toList = "[warn]: @param tag has ".toList ++
      (("unknown parameter name: ".toList ++ name.text.toList) ++ []) := by
  unfold parameterLine
  simp

theorem toList_placeLine : (placeLine place).toList = "    ".toList ++ place.text.toList := by
  unfold placeLine
  simp

theorem isHeader_parameterLine :
    Output.isHeader UnknownParameter.patterns (parameterLine name) = true := by
  rw [isHeader_parameter_iff, toList_parameterLine]
  refine ⟨": ".toList ++ name.text.toList, ?_⟩
  simp

theorem captured_parameterLine :
    UnknownParameter.patterns.lastCapture? (parameterLine name) PatternSet.message =
      some name.text := by
  have hname : Takes nameExpr name.text.toList [] [] := by
    apply name.takes
    intro c hc
    cases hc
  have htakes : Takes parameterMessage ("unknown parameter name: ".toList ++ name.text.toList) []
      [(1, name.text.toList)] :=
    (takes_literal _ _).seq (hname.group 1)
  rw [parameterPatterns_eq, lastCapture?_of_takes get?_message rfl rfl rfl htakes
    (noMatchIn_of_clashes _ (by decide)) (toList_parameterLine name), String.ofList_toList]

theorem pairRecord_parameterLine :
    Output.pairRecord UnknownParameter.patterns (parameterLine name) (placeLine place) =
      { message := some name.text, location := some place.file, line := some place.line } := by
  obtain ⟨hlocation, hnumber⟩ := place.captured parameterHeader parameterMessage
    (toList_placeLine place)
    (noMatchIn_of_clashes _ (by decide)) (noMatchIn_of_clashes _ (by decide))
  rw [← parameterPatterns_eq] at hlocation hnumber
  unfold Output.pairRecord
  rw [captured_parameterLine, hlocation, hnumber]
  rfl

/-! ## Which line starts which warning -/

theorem not_isHeader_tagLine :
    Output.isHeader UnknownParameter.patterns (tagLine name place) = false := by
  rw [← Bool.not_eq_true, isHeader_parameter_iff, toList_tagLine]
  simp

theorem not_isHeader_parameterLine :
    Output.isHeader UnknownTag.patterns (parameterLine name) = false := by
  rw [← Bool.not_eq_true, isHeader_tag_iff, toList_parameterLine]
  simp

theorem not_isHeader_placeLine :
    Output.isHeader UnknownTag.patterns (placeLine place) = false ∧
      Output.isHeader UnknownParameter.patterns (placeLine place) = false := by
  rw [← Bool.not_eq_true, ← Bool.not_eq_true, isHeader_tag_iff, isHeader_parameter_iff,
    toList_placeLine]
  simp

theorem isHeader_of_prefix {line longer : String} (h : line.toList <+: longer.toList) :
    (Output.isHeader UnknownTag.patterns line = true →
        Output.isHeader UnknownTag.patterns longer = true) ∧
      (Output.isHeader UnknownParameter.patterns line = true →
        Output.isHeader UnknownParameter.patterns longer = true) := by
  simp only [isHeader_tag_iff, isHeader_parameter_iff]
  constructor
  · rintro ⟨c, rest, hline, hc⟩
    obtain ⟨back, hback⟩ := h
    refine ⟨c, rest ++ back, ?_, hc⟩
    rw [← hback, hline, List.append_assoc, List.cons_append]
  · intro hprefix
    exact hprefix.trans h

/-- A line that loses a carriage return does not become the start of a warning. -/
theorem Noise.not_isHeader_chomp (line : Noise) :
    Output.isHeader UnknownTag.patterns (String.ofList (Text.chomp line.text.toList)) = false ∧
      Output.isHeader UnknownParameter.patterns
        (String.ofList (Text.chomp line.text.toList)) = false := by
  have hprefix : (String.ofList (Text.chomp line.text.toList)).toList <+: line.text.toList := by
    rw [String.toList_ofList]
    exact Text.chomp_prefix _
  obtain ⟨htag, hparameter⟩ := isHeader_of_prefix hprefix
  rw [line.notTag] at htag
  rw [line.notParameter] at hparameter
  exact ⟨Bool.eq_false_iff.2 fun h => Bool.false_ne_true (htag h),
    Bool.eq_false_iff.2 fun h => Bool.false_ne_true (hparameter h)⟩

/-! ## Lines that are read -/

theorem Name.noFeed : '\n' ∉ name.text.toList := fun h =>
  absurd (name.noBlank '\n' h) (by decide)

/-- A line that ends with a place is read as it is. -/
theorem Place.isLine {front : List Char} (hfront : '\n' ∉ front) :
    Text.IsLine (front ++ place.text.toList) := by
  rw [place.toList_text_line, ← List.append_assoc, ← List.append_assoc]
  refine Text.isLine_append ?_ Nat.toDigits_ne_nil fun c hc => ?_
  · have hfile := place.noFeed
    simp [hfront, hfile]
  · have hdigit := Text.isDigit_of_mem_decimal hc
    constructor <;> rintro rfl <;> exact absurd hdigit (by decide)

theorem isLine_tagLine : Text.IsLine (tagLine name place).toList := by
  rw [toList_tagLine_place]
  refine place.isLine ?_
  simp [name.noFeed]

theorem isLine_placeLine : Text.IsLine (placeLine place).toList := by
  rw [toList_placeLine]
  exact place.isLine (by decide)

theorem isLine_parameterLine : Text.IsLine (parameterLine name).toList := by
  rw [toList_parameterLine, List.append_nil, ← List.append_assoc]
  refine Text.isLine_append (by decide) name.toList_ne_nil fun c hc => ?_
  have hblank := name.noBlank c hc
  constructor <;> rintro rfl <;> exact absurd hblank (by decide)

/-- The lines of an item as they are read. -/
def Item.read : Item → List String
  | tag name place => [tagLine name place]
  | parameter name place => [parameterLine name, placeLine place]
  | noise line => [String.ofList (Text.chomp line.text.toList)]

theorem Item.map_chomp_lines (i : Item) :
    (i.lines.map fun l => String.ofList (Text.chomp l.toList)) = i.read := by
  cases i with
  | tag name place => simp [lines, read, Text.chomp_of_isLine (isLine_tagLine name place)]
  | parameter name place =>
    simp [lines, read, Text.chomp_of_isLine (isLine_parameterLine name),
      Text.chomp_of_isLine (isLine_placeLine place)]
  | noise line => rfl

theorem Item.noFeed (i : Item) : ∀ l ∈ i.lines, '\n' ∉ l.toList := by
  cases i with
  | tag name place => simpa [lines] using (isLine_tagLine name place).noFeed
  | parameter name place =>
    simpa [lines] using ⟨(isLine_parameterLine name).noFeed, (isLine_placeLine place).noFeed⟩
  | noise line => simpa [lines] using line.noFeed

theorem lines_output (items : List Item) :
    Text.lines (output items) = items.flatMap Item.read := by
  have hfeed : ∀ l ∈ items.flatMap Item.lines, '\n' ∉ l.toList := by
    intro l hl
    obtain ⟨i, _, hl⟩ := List.mem_flatMap.1 hl
    exact i.noFeed l hl
  unfold output
  rw [Text.lines_ofList hfeed, List.map_flatMap]
  simp only [Item.map_chomp_lines]

/-! ## Reading an item -/

/-- The one-line layout takes the lines of an item by themselves. -/
theorem Item.oneLine_read (i : Item) :
    (i.read.filter (Output.isHeader UnknownTag.patterns)).map
      (Output.lineRecord UnknownTag.patterns) = i.tagRecord?.toList := by
  cases i with
  | tag name place => simp [read, tagRecord?, isHeader_tagLine, lineRecord_tagLine]
  | parameter name place =>
    simp [read, tagRecord?, not_isHeader_parameterLine, not_isHeader_placeLine]
  | noise line => simp [read, tagRecord?, line.not_isHeader_chomp]

/-- The two-line layout goes on after an item as if it had not been there. -/
theorem Item.pairRecords_read_append (i : Item) (rest : List String) :
    Output.pairRecords UnknownParameter.patterns (i.read ++ rest) =
      i.parameterRecord?.toList ++ Output.pairRecords UnknownParameter.patterns rest := by
  cases i with
  | tag name place =>
    exact Output.pairRecords_cons_of_not_header (not_isHeader_tagLine name place) rest
  | parameter name place =>
    have hplace := (not_isHeader_placeLine place).2
    simp [read, parameterRecord?, Output.pairRecords, isHeader_parameterLine, hplace,
      pairRecord_parameterLine]
  | noise line => exact Output.pairRecords_cons_of_not_header line.not_isHeader_chomp.2 rest

/-! ## Reading the output -/

theorem oneLine_flatMap_read (items : List Item) :
    ((items.flatMap Item.read).filter (Output.isHeader UnknownTag.patterns)).map
      (Output.lineRecord UnknownTag.patterns) = items.filterMap Item.tagRecord? := by
  induction items with
  | nil => rfl
  | cons i items ih =>
    rw [List.flatMap_cons, List.filter_append, List.map_append, ih, i.oneLine_read,
      List.filterMap_cons]
    cases i.tagRecord? <;> rfl

theorem pairRecords_flatMap_read (items : List Item) :
    Output.pairRecords UnknownParameter.patterns (items.flatMap Item.read) =
      items.filterMap Item.parameterRecord? := by
  induction items with
  | nil => rfl
  | cons i items ih =>
    rw [List.flatMap_cons, i.pairRecords_read_append, ih, List.filterMap_cons]
    cases i.parameterRecord? <;> rfl

/-- **Each warning goes to its validator.**  Whatever the output is a mixture of, each validator
reads exactly the warnings of its kind, in order, with their names and places. -/
theorem parse_output (items : List Item) :
    UnknownTag.parse (output items) = items.filterMap Item.tagRecord? ∧
      UnknownParameter.parse (output items) = items.filterMap Item.parameterRecord? := by
  unfold UnknownTag.parse UnknownParameter.parse Output.oneLine Output.twoLine
  rw [lines_output]
  exact ⟨oneLine_flatMap_read items, pairRecords_flatMap_read items⟩

/-- A warning about a tag, in a file with a misleading name. -/
def sampleTag : Item :=
  .tag ⟨"in", by decide, by simp [Text.isBlank, Text.blankRanges]⟩
    { file := "near line x"
      line := 18446744073709551615
      file_ne := by decide
      noFeed := by decide
      noBackquote := by decide
      noQuote := by decide
      noLine := by
        intro d hd hin
        have heq := hin.eq_of_length rfl
        have hx : d = 'x' := by simpa using heq
        subst hx
        exact absurd hd (by decide)
      line_lt := by decide }

/-- A warning about a parameter, in a file with a misleading name. -/
def sampleParameter : Item :=
  .parameter ⟨"@param", by decide, by simp [Text.isBlank, Text.blankRanges]⟩
    { file := "[warn]: Unknown tag @y"
      line := 7
      file_ne := by decide
      noFeed := by decide
      noBackquote := by decide
      noQuote := by decide
      noLine := fun d _ hin => absurd (hin.subset (by simp : 'l' ∈ _)) (by decide)
      line_lt := by decide }

/-- A line that would be a warning if it gave a tag. -/
def sampleNoise : Item :=
  .noise
    { text := "[warn]: Unknown tag @\r"
      noFeed := by decide
      notTag := by
        rw [← Bool.not_eq_true, isHeader_tag_iff]
        rintro ⟨c, rest, hline, hc⟩
        have hreturn : '\r' = c ∧ rest = [] := by simpa using hline
        rw [← hreturn.1] at hc
        exact absurd hc (by decide)
      notParameter := by
        rw [← Bool.not_eq_true, isHeader_parameter_iff]
        simp }

theorem parse_output_misleading :
    let items := [sampleNoise, sampleTag, sampleParameter]
    items.flatMap Item.lines =
        ["[warn]: Unknown tag @\r",
         "[warn]: Unknown tag @in in file `near line x' near line 18446744073709551615",
         "[warn]: @param tag has unknown parameter name: @param",
         "    in file `[warn]: Unknown tag @y' near line 7"] ∧
      UnknownTag.parse (output items) =
        [{ message := some "@in", location := some "near line x",
           line := some 18446744073709551615 }] ∧
      UnknownParameter.parse (output items) =
        [{ message := some "@param", location := some "[warn]: Unknown tag @y",
           line := some 7 }] := by
  intro items
  obtain ⟨htag, hparameter⟩ := parse_output items
  rw [htag, hparameter]
  decide +kernel

end DocAudit.YardWarning

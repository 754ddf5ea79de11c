import DocAudit.Proofs.Registry.Lookup
import DocAudit.Proofs.Registry.Selection

/-!
# Files that begin with a dot

The same file may be written with and without a dot and a slash in front.  Selection takes away
every dot, so that it never sees a difference.  Exclusion takes away one `./` and matches what is
left, so that it sees none if the file does not begin with `./` already.  If it does, the file and
the one with another `./` are different texts to a glob, and some glob tells them apart
(`interchangeable_dotSlash_iff`).
-/

namespace DocAudit

namespace Path

variable {file : String} {rest : List Char}

theorem stripDotSlash_of_eq (h : file.toList = '.' :: '/' :: rest) :
    stripDotSlash file = String.ofList rest := by
  unfold stripDotSlash
  rw [h]
  rfl

theorem stripDotSlash_dotSlash_append (file : String) : stripDotSlash ("./" ++ file) = file := by
  have hchars : ("./" ++ file).toList = '.' :: '/' :: file.toList := by simp
  rw [stripDotSlash_of_eq hchars, String.ofList_toList]

theorem stripDotSlash_eq_self (h : ¬['.', '/'] <+: file.toList) : stripDotSlash file = file := by
  unfold stripDotSlash
  split
  · rename_i rest heq
    exact absurd ⟨rest, heq.symm⟩ h
  · rfl

end Path

/-! ## Question marks

A glob of question marks only matches by length. -/

namespace Glob

variable {cs : List Char}

theorem readTokens_questionMarks : ∀ (n pos : Nat) (before : Option Char) (tokens : List Token),
    readTokens (n + 1) pos before tokens (List.replicate n '?') =
      .ok (tokens.reverse ++ List.replicate n .anyChar)
  | 0, _, _, tokens => by
    rw [List.replicate_zero, List.replicate_zero, List.append_nil]
    rfl
  | n + 1, pos, before, tokens => by
    have ih := readTokens_questionMarks n (pos + 1) (some '?') (.anyChar :: tokens)
    rw [List.reverse_cons, List.append_assoc, List.singleton_append, ← List.replicate_succ] at ih
    exact ih

theorem compile_questionMarks (n : Nat) :
    compile (String.ofList (List.replicate n '?')) = .ok ⟨List.replicate n .anyChar⟩ := by
  unfold compile
  simp only [String.toList_ofList, List.length_replicate, readTokens_questionMarks]
  rfl

theorem marksBehind_true : ∀ {cs : List Char} {marks : Marks}, marks.length = cs.length + 1 →
    marksBehind (fun _ => true) cs marks = marks.dropLast
  | [], [_], _ => rfl
  | c :: cs, m :: m' :: marks, h => by
    have ih : marksBehind (fun _ => true) cs (m' :: marks) = (m' :: marks).dropLast :=
      marksBehind_true (by simpa using h)
    show (m && true) :: marksBehind (fun _ => true) cs (m' :: marks) = m :: (m' :: marks).dropLast
    rw [ih, Bool.and_true]

/-- A question mark moves a single mark on by one. -/
theorem move_anyChar {i m : Nat} (h : i + (m + 1) = cs.length) :
    Token.move cs (List.replicate i false ++ true :: List.replicate (m + 1) false) .anyChar =
      List.replicate (i + 1) false ++ true :: List.replicate m false := by
  have hlength : (List.replicate i false ++ true :: List.replicate (m + 1) false).length =
      cs.length + 1 := by
    simp only [List.length_append, List.length_cons, List.length_replicate]
    omega
  show false :: marksBehind (fun _ => true) cs _ = _
  rw [marksBehind_true hlength, List.replicate_succ', ← List.cons_append, ← List.append_assoc,
    List.dropLast_concat]
  rfl

theorem foldl_move_anyChar (m : Nat) : ∀ (n i : Nat), i + (n + m) = cs.length →
    (List.replicate n Token.anyChar).foldl (Token.move cs)
        (List.replicate i false ++ true :: List.replicate (n + m) false) =
      List.replicate (i + n) false ++ true :: List.replicate m false
  | 0, i, _ => by
    rw [Nat.zero_add, Nat.add_zero]
    rfl
  | n + 1, i, h => by
    have ih := foldl_move_anyChar m n (i + 1) (by omega)
    rw [List.replicate_succ, List.foldl_cons, show n + 1 + m = (n + m) + 1 by omega,
      move_anyChar (by omega), ih, show i + 1 + n = i + (n + 1) by omega]

/-- Question marks match a text that is as long, and no longer one. -/
theorem isMatch_questionMarks {path : String} {n m : Nat} (h : path.toList.length = n + m) :
    isMatch ⟨List.replicate n .anyChar⟩ path = decide (m = 0) := by
  have hstart : (true :: path.toList.map fun _ => false) =
      List.replicate 0 false ++ true :: List.replicate (n + m) false := by
    rw [List.map_const', h]
    rfl
  unfold isMatch matchesTokens
  rw [hstart, foldl_move_anyChar m n 0 (by omega)]
  cases m with
  | zero => simp
  | succ m =>
    rw [List.replicate_succ', ← List.cons_append, ← List.append_assoc, List.getLast?_concat]
    simp

end Glob

namespace Registry

open DocAudit.Path

variable {file : String} {excludes : List String}

/-! ## An object in two files -/

/-- The object in another file. -/
def inFile (o : CodeObject) (file : String) : CodeObject := { o with file := some file }

/-- Whether every look-up with the excludes treats an object alike in both files, wherever it
stands in a registry. -/
def Interchangeable (excludes : List String) (file file' : String) : Prop :=
  ∀ (before after : List CodeObject) (o : CodeObject) (visibility : Visibility)
    (selection : Option (List String)),
    inFile o file ∈ objectsFor ⟨before ++ inFile o file :: after⟩ visibility excludes selection ↔
      inFile o file' ∈
        objectsFor ⟨before ++ inFile o file' :: after⟩ visibility excludes selection

theorem mem_objectsFor_append_cons {before after : List CodeObject} {o : CodeObject}
    {visibility : Visibility} {selection : Option (List String)} :
    o ∈ objectsFor ⟨before ++ o :: after⟩ visibility excludes selection ↔
      isShown visibility excludes selection o = true := by
  rw [mem_objectsFor]
  exact ⟨fun h => h.2, fun h => ⟨List.mem_append_right before List.mem_cons_self, h⟩⟩

/-- A dot in front makes no difference to a selection. -/
theorem inSelection_dotSlash (h : isAbsolute file = false) (selection : Option (List String))
    (o : CodeObject) :
    inSelection selection (inFile o ("./" ++ file)) = inSelection selection (inFile o file) := by
  cases selection with
  | none => rfl
  | some paths =>
    have hfile : SameSpelling file ("./" ++ file) := .rel _ _ (.dotInFront file h)
    exact isSelected_congr hfile (List.forall₂_same.2 fun path _ => .refl path)

theorem interchangeable_iff (h : isAbsolute file = false) :
    Interchangeable excludes file ("./" ++ file) ↔
      excludes.any (excludedBy file) = excludes.any (excludedBy ("./" ++ file)) := by
  unfold Interchangeable
  simp only [mem_objectsFor_append_cons]
  constructor
  · intro halike
    have hsame := halike [] [] { path := "", kind := .moduleDef } .all none
    rw [← Bool.eq_iff_iff] at hsame
    simpa [isShown, isKept, inSelection, inFile, CodeObject.isVisibleAt] using hsame
  · intro hsame _ _ o visibility selection
    unfold isShown
    rw [inSelection_dotSlash h, show isKept excludes (inFile o ("./" ++ file)) =
      isKept excludes (inFile o file) from congrArg (!·) hsame.symm]
    rfl

theorem excludedBy_questionMarks {n m : Nat} (h : (stripDotSlash file).toList.length = n + m) :
    excludedBy file (String.ofList (List.replicate n '?')) = decide (m = 0) := by
  unfold excludedBy
  rw [Glob.compile_questionMarks]
  exact Glob.isMatch_questionMarks h

/-- Some glob tells a file that begins with `./` from the one with another `./` in front. -/
theorem exists_not_interchangeable (hrel : isAbsolute file = false)
    (h : ['.', '/'] <+: file.toList) :
    ∃ excludes, ¬Interchangeable excludes file ("./" ++ file) := by
  obtain ⟨rest, hrest⟩ := h
  have hstrip : stripDotSlash file = String.ofList rest := stripDotSlash_of_eq hrest.symm
  have hshort : (stripDotSlash file).toList.length = rest.length + 0 := by
    rw [hstrip, String.toList_ofList, Nat.add_zero]
  have hlong : (stripDotSlash ("./" ++ file)).toList.length = rest.length + 2 := by
    rw [stripDotSlash_dotSlash_append, ← hrest]
    simp
  refine ⟨[String.ofList (List.replicate rest.length '?')], ?_⟩
  rw [interchangeable_iff hrel]
  simp [excludedBy_questionMarks hshort, excludedBy_questionMarks hlong]

/-- **When a dot in front makes no difference.**  Objects in a relative file and in the same file
    with `./` in front are treated alike exactly if the excludes match the file as it is written
    where they match it without a leading `./`.  That is so for all excludes if the file does not
    begin with `./`, and only then. -/
theorem interchangeable_dotSlash_iff (file : String) (hrel : isAbsolute file = false) :
    (∀ excludes, Interchangeable excludes file ("./" ++ file) ↔
      (excludeGlobs excludes).any (·.isMatch (stripDotSlash file)) =
        (excludeGlobs excludes).any (·.isMatch file)) ∧
    ((∀ excludes, Interchangeable excludes file ("./" ++ file)) ↔
      ¬['.', '/'] <+: file.toList) := by
  constructor
  · intro excludes
    have hplain := isExcluded_excludeGlobs excludes file
    have hdotted := isExcluded_excludeGlobs excludes ("./" ++ file)
    unfold isExcluded at hplain hdotted
    rw [stripDotSlash_dotSlash_append] at hdotted
    rw [interchangeable_iff hrel, hplain, hdotted]
  · constructor
    · intro hall hprefix
      obtain ⟨excludes, hnot⟩ := exists_not_interchangeable hrel hprefix
      exact hnot (hall excludes)
    · intro hprefix excludes
      have hsame : excludedBy file = excludedBy ("./" ++ file) := by
        funext p
        unfold excludedBy
        rw [stripDotSlash_dotSlash_append, stripDotSlash_eq_self hprefix]
      rw [interchangeable_iff hrel, hsame]

theorem interchangeable_dotSlash_iff_plain :
    ¬['.', '/'] <+: "lib/a.rb".toList ∧
      Interchangeable ["lib/?.rb", "vendor/**"] "lib/a.rb" "./lib/a.rb" := by
  have hplain : ¬['.', '/'] <+: "lib/a.rb".toList := by decide
  exact ⟨hplain, (interchangeable_dotSlash_iff "lib/a.rb" (by decide)).2.2 hplain _⟩

/-- The exclude `lib/a.rb` matches `./lib/a.rb`, and does not match it with another dot. -/
theorem not_interchangeable_dotted :
    isAbsolute "./lib/a.rb" = false ∧
      ¬Interchangeable ["lib/a.rb"] "./lib/a.rb" ("./" ++ "./lib/a.rb") := by
  have hrel : isAbsolute "./lib/a.rb" = false := by decide
  refine ⟨hrel, ?_⟩
  rw [interchangeable_iff hrel]
  decide

end Registry

end DocAudit

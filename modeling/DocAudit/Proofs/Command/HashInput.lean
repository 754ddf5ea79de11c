import DocAudit.Proofs.Command.Cache
import DocAudit.Proofs.Digest.Hex
import DocAudit.Proofs.Text.ReadBack

/-!
# Which commands have the same fingerprint

The bytes that are hashed for a command are the UTF-8 bytes of one text: the program and its
arguments with null characters between them (`hashInput_eq_utf8`).  From such a text the pieces
between null characters can be read off and nothing more (`map_splitChars_joined`), so that two
commands have the same bytes exactly if their pieces are the same.  Commands without null
characters are told apart by their bytes, whatever else stands in them.
-/

namespace DocAudit.Command

def components (c : Command) : List String := c.program :: c.args

/-- The parts of program and arguments between null characters, in order. -/
def pieces (c : Command) : List String := c.components.flatMap (Text.split '\x00')

/-- Neither the program nor an argument contains a null character. -/
def NulFree (c : Command) : Prop := ∀ s ∈ c.components, '\x00' ∉ s.toList

instance : DecidablePred NulFree := fun c =>
  inferInstanceAs (Decidable (∀ s ∈ c.components, '\x00' ∉ s.toList))

/-- The characters of program and arguments with null characters between them. -/
def joined (c : Command) : List Char :=
  c.program.toList ++ c.args.flatMap fun a => '\x00' :: a.toList

theorem hashInput_eq_utf8 (c : Command) :
    c.hashInput = c.joined.flatMap String.utf8EncodeChar := by
  have hnull : String.utf8EncodeChar '\x00' = [0] := by decide
  unfold hashInput joined Text.utf8
  rw [List.flatMap_append, List.flatMap_assoc]
  simp only [List.flatMap_cons, hnull, List.singleton_append]

theorem splitChars_flatMap : ∀ (part xs : List Char) (args : List String),
    Text.splitChars '\x00' part (xs ++ args.flatMap fun a => '\x00' :: a.toList) =
      Text.splitChars '\x00' part xs ++ args.flatMap fun a => Text.splitChars '\x00' [] a.toList
  | part, xs, [] => by simp
  | part, xs, a :: args => by
    rw [List.flatMap_cons, List.cons_append, Text.splitChars_append_sep,
      splitChars_flatMap [] a.toList args, List.flatMap_cons]

theorem map_splitChars_joined (c : Command) :
    (Text.splitChars '\x00' [] c.joined).map String.ofList = c.pieces := by
  unfold joined pieces components Text.split
  rw [splitChars_flatMap, List.map_append, List.map_flatMap, List.flatMap_cons]

/-- **The bytes of a command are determined by its pieces, and determine them.** -/
theorem hashInput_eq_iff {c d : Command} : c.hashInput = d.hashInput ↔ c.pieces = d.pieces := by
  rw [hashInput_eq_utf8, hashInput_eq_utf8, ← map_splitChars_joined, ← map_splitChars_joined]
  constructor
  · intro h
    rw [Text.flatMap_utf8EncodeChar_injective h]
  · intro h
    have hparts := (List.map_inj_right fun _ _ => String.ofList_injective).1 h
    rw [Text.splitChars_injective hparts]

theorem pieces_of_nulFree {c : Command} (h : c.NulFree) : c.pieces = c.components := by
  have hsingle : ∀ s ∈ c.components, Text.split '\x00' s = [s] := fun s hs =>
    Text.split_of_not_mem (h s hs)
  unfold pieces
  rw [List.flatMap_def, List.map_congr_left hsingle, ← List.flatMap_def, List.flatMap_singleton']

theorem eq_of_hashInput_eq {c d : Command} (hc : c.NulFree) (hd : d.NulFree)
    (h : c.hashInput = d.hashInput) : c = d := by
  rw [hashInput_eq_iff, pieces_of_nulFree hc, pieces_of_nulFree hd] at h
  cases c
  cases d
  cases h
  rfl

theorem sha256_eq_of_fingerprint_eq {c d : Command} (h : c.fingerprint = d.fingerprint) :
    Digest.sha256 c.hashInput = Digest.sha256 d.hashInput :=
  Digest.hex_injective (congrArg Fingerprint.text h)

/-- Different commands with one fingerprint have a null character, or their bytes collide. -/
theorem confused_cases {c d : Command} (hne : c ≠ d) (h : c.fingerprint = d.fingerprint) :
    ¬c.NulFree ∨ ¬d.NulFree ∨
      (c.hashInput ≠ d.hashInput ∧ Digest.sha256 c.hashInput = Digest.sha256 d.hashInput) := by
  by_cases hc : c.NulFree
  · by_cases hd : d.NulFree
    · have hbytes : c.hashInput ≠ d.hashInput := fun h => hne (eq_of_hashInput_eq hc hd h)
      exact .inr (.inr ⟨hbytes, sha256_eq_of_fingerprint_eq h⟩)
    · exact .inr (.inl hd)
  · exact .inl hc

/-- **Commands are confused only by null characters and by collisions.**  Their bytes are the same
exactly if their pieces between null characters are; without null characters this means that
program and arguments are the same.  The execution of one command stores an answer to another one
exactly if they have one fingerprint, and different commands have it only if one of them has a null
character in it or the digests of different bytes collide. -/
theorem hashInput_separates {σ : Type} (c d : Command) :
    (c.hashInput = d.hashInput ↔ c.pieces = d.pieces) ∧
    (c.NulFree → d.NulFree → c.hashInput = d.hashInput → c.program = d.program ∧ c.args = d.args) ∧
    (∀ (spawn : Spawner σ) (cache : Cache) (st : σ), cache.get? d.fingerprint = none →
      ((∃ x, (cache.execute spawn c st).cache.get? d.fingerprint = some x) ↔
        c.fingerprint = d.fingerprint)) ∧
    (c ≠ d → c.fingerprint = d.fingerprint →
      ¬c.NulFree ∨ ¬d.NulFree ∨
        (c.hashInput ≠ d.hashInput ∧
          Digest.sha256 c.hashInput = Digest.sha256 d.hashInput)) := by
  refine ⟨hashInput_eq_iff, ?_, ?_, confused_cases⟩
  · intro hc hd h
    rw [eq_of_hashInput_eq hc hd h]
    exact ⟨rfl, rfl⟩
  · intro spawn cache st hmiss
    rw [Cache.get?_execute, hmiss]
    by_cases hsame : c.fingerprint = d.fingerprint
    · simp [hsame]
    · simp [hsame]

/-- The boundary between two arguments shows in the bytes, one that a null character imitates does
not. -/
theorem hashInput_separates_arguments :
    (Command.mk "yard" ["stats --private", ""]).hashInput ≠
        (Command.mk "yard" ["stats", "--private"]).hashInput ∧
      (Command.mk "yard\x00stats" ["--private"]).hashInput =
        (Command.mk "yard" ["stats", "--private"]).hashInput := by
  constructor
  · intro h
    have hargs := (hashInput_separates (σ := Unit) _ _).2.1 (by decide) (by decide) h
    exact absurd hargs (by decide)
  · exact (hashInput_separates (σ := Unit) _ _).1.2 (by decide)

end DocAudit.Command

import DocAudit.Command
import DocAudit.Proofs.Digest.Hex

/-!
# The text of a fingerprint and what is shown of it

A text is cut to its initial part with a given number of bytes, or with all of its bytes if there
are fewer (`takeBytes_eq_some_iff`).  So cutting fails only inside of a character
(`takeBytes_eq_none_iff`).  The fingerprint of a command is sixty-four hexadecimal digits, whatever
the digest (`wellFormed_hex`), and digits take one byte each.
-/

namespace DocAudit

namespace Text

theorem length_utf8 (s : String) : (utf8 s).length = s.utf8ByteSize := by
  rw [← String.size_toByteArray, ← String.utf8Encode_toList, List.utf8Encode, List.size_toByteArray]
  rfl

/-- The number of bytes of characters. -/
def byteLength (cs : List Char) : Nat := (cs.flatMap String.utf8EncodeChar).length

theorem byteLength_cons (c : Char) (cs : List Char) :
    byteLength (c :: cs) = c.utf8Size + byteLength cs := by
  unfold byteLength
  rw [List.flatMap_cons, List.length_append, String.length_utf8EncodeChar]

theorem byteLength_toList (s : String) : byteLength s.toList = s.utf8ByteSize := length_utf8 s

theorem eq_nil_of_byteLength {cs : List Char} (h : byteLength cs = 0) : cs = [] := by
  cases cs with
  | nil => rfl
  | cons c cs =>
    rw [byteLength_cons] at h
    have := c.utf8Size_pos
    omega

theorem byteLength_of_ascii : ∀ {cs : List Char}, (∀ c ∈ cs, c.utf8Size = 1) →
    byteLength cs = cs.length
  | [], _ => rfl
  | c :: cs, h => by
    rw [byteLength_cons, h c List.mem_cons_self, List.length_cons,
      byteLength_of_ascii fun d hd => h d (List.mem_cons_of_mem c hd), Nat.add_comm]

end Text

open Text

/-! ## Cutting a text -/

theorem takeBytes_zero (cs : List Char) : takeBytes 0 cs = some [] := by
  cases cs <;> rfl

theorem takeBytes_succ_cons (n : Nat) (c : Char) (cs : List Char) :
    takeBytes (n + 1) (c :: cs) =
      if c.utf8Size ≤ n + 1 then (takeBytes (n + 1 - c.utf8Size) cs).map (c :: ·) else none := rfl

/-- The first character of a nonempty part of a text is that of the text. -/
theorem exists_cons_of_prefix {c : Char} {cs front : List Char} (h : front <+: c :: cs)
    (hpos : 0 < byteLength front) : ∃ rest, front = c :: rest ∧ rest <+: cs := by
  rcases List.prefix_cons_iff.1 h with rfl | hrest
  · exact absurd hpos (Nat.lt_irrefl 0)
  · exact hrest

/-- **A text is cut to the initial part with so many bytes, or with all if there are fewer.** -/
theorem takeBytes_eq_some_iff {n : Nat} {cs front : List Char} :
    takeBytes n cs = some front ↔ front <+: cs ∧ byteLength front = min (byteLength cs) n := by
  induction cs generalizing n front with
  | nil =>
    have hnil : takeBytes n [] = some [] := by cases n <;> rfl
    rw [hnil, Option.some.injEq, List.prefix_nil, eq_comm]
    refine ⟨?_, And.left⟩
    rintro rfl
    exact ⟨rfl, (Nat.zero_min n).symm⟩
  | cons c cs ih =>
    have hsize := c.utf8Size_pos
    cases n with
    | zero =>
      rw [takeBytes_zero, Option.some.injEq, Nat.min_zero, eq_comm]
      refine ⟨?_, fun h => eq_nil_of_byteLength h.2⟩
      rintro rfl
      exact ⟨List.nil_prefix, rfl⟩
    | succ n =>
      rw [takeBytes_succ_cons, byteLength_cons]
      split
      · rename_i hfit
        rw [Option.map_eq_some_iff]
        constructor
        · rintro ⟨rest, hrest, rfl⟩
          obtain ⟨hstart, hlength⟩ := ih.1 hrest
          refine ⟨(List.prefix_cons_inj c).2 hstart, ?_⟩
          rw [byteLength_cons, hlength]
          omega
        · rintro ⟨hstart, hlength⟩
          obtain ⟨rest, rfl, hrest⟩ := exists_cons_of_prefix hstart (by omega)
          rw [byteLength_cons] at hlength
          exact ⟨rest, ih.2 ⟨hrest, by omega⟩, rfl⟩
      · rename_i hfit
        constructor
        · intro h
          cases h
        · -- the first character alone has more bytes than are wanted
          rintro ⟨hstart, hlength⟩
          obtain ⟨rest, rfl, _⟩ := exists_cons_of_prefix hstart (by omega)
          rw [byteLength_cons] at hlength
          omega

/-- A place between two characters of a text, given by the number of bytes before it. -/
theorem isValid_iff_exists_prefix {s : String} {n : Nat} :
    (String.Pos.Raw.mk n).IsValid s ↔ ∃ front, front <+: s.toList ∧ byteLength front = n := by
  rw [String.Pos.Raw.isValid_iff_exists_append]
  constructor
  · rintro ⟨a, b, rfl, hn⟩
    refine ⟨a.toList, ?_, ?_⟩
    · rw [String.toList_append]
      exact List.prefix_append a.toList b.toList
    · rw [byteLength_toList]
      exact (congrArg String.Pos.Raw.byteIdx hn).symm
  · rintro ⟨front, ⟨back, hback⟩, rfl⟩
    refine ⟨String.ofList front, String.ofList back, ?_, ?_⟩
    · rw [← String.ofList_append, hback, String.ofList_toList]
    · rw [String.rawEndPos, ← byteLength_toList, String.toList_ofList]

/-- **A text cannot be cut exactly if it goes on after so many bytes, inside of a character.** -/
theorem takeBytes_eq_none_iff {n : Nat} {s : String} :
    takeBytes n s.toList = none ↔ n < s.utf8ByteSize ∧ ¬(String.Pos.Raw.mk n).IsValid s := by
  rw [Option.eq_none_iff_forall_ne_some, isValid_iff_exists_prefix, not_exists]
  simp only [ne_eq, takeBytes_eq_some_iff, byteLength_toList]
  constructor
  · intro h
    have hlong : n < s.utf8ByteSize := by
      -- a shorter text would be its own initial part
      refine Nat.lt_of_not_le fun hle => h s.toList ⟨List.prefix_refl _, ?_⟩
      rw [byteLength_toList, Nat.min_eq_left hle]
    refine ⟨hlong, fun front hfront => h front ?_⟩
    rwa [Nat.min_eq_right (Nat.le_of_lt hlong)]
  · rintro ⟨hlong, hnone⟩ front hfront
    rw [Nat.min_eq_right (Nat.le_of_lt hlong)] at hfront
    exact hnone front hfront

theorem utf8_of_takeBytes {n : Nat} {s : String} {front : List Char}
    (h : takeBytes n s.toList = some front) :
    utf8 (String.ofList front) = (utf8 s).take (min s.utf8ByteSize n) := by
  obtain ⟨⟨back, hback⟩, hlength⟩ := takeBytes_eq_some_iff.1 h
  rw [byteLength_toList] at hlength
  unfold utf8
  rw [String.toList_ofList, ← hback, List.flatMap_append, ← hlength]
  exact List.take_left.symm

/-! ## Fingerprints -/

/-- Sixty-four hexadecimal digits. -/
structure Fingerprint.WellFormed (f : Fingerprint) : Prop where
  length : f.text.toList.length = 64
  digits : ∀ c ∈ f.text.toList, Digest.IsHexDigit c

theorem Digest.length_sha256 (message : List UInt8) : (sha256 message).length = 32 := rfl

theorem Digest.utf8Size_of_isHexDigit {c : Char} (h : IsHexDigit c) : c.utf8Size = 1 := by
  rw [Char.utf8Size_eq_one_iff]
  rcases h with ⟨_, hle⟩ | ⟨_, hle⟩
  · exact UInt32.le_trans hle (by decide)
  · exact UInt32.le_trans hle (by decide)

theorem Fingerprint.wellFormed_hex {digest : List UInt8} (h : digest.length = 32) :
    WellFormed ⟨Digest.hex digest⟩ := by
  have hchars : (Digest.hex digest).toList = Digest.hexChars digest := String.toList_ofList
  constructor
  · rw [hchars, Digest.length_hexChars, h]
  · intro c hc
    rw [hchars] at hc
    exact Digest.isHexDigit_of_mem hc

theorem Fingerprint.WellFormed.short?_eq {f : Fingerprint} (h : f.WellFormed) :
    f.short? = some (String.ofList (f.text.toList.take 12)) := by
  have hascii : ∀ c ∈ f.text.toList, c.utf8Size = 1 := fun c hc =>
    Digest.utf8Size_of_isHexDigit (h.digits c hc)
  have hcut : takeBytes 12 f.text.toList = some (f.text.toList.take 12) := by
    rw [takeBytes_eq_some_iff, byteLength_of_ascii hascii, h.length,
      byteLength_of_ascii fun c hc => hascii c (List.mem_of_mem_take hc), List.length_take,
      h.length]
    exact ⟨List.take_prefix 12 _, rfl⟩
  unfold short? shownBytes
  rw [hcut]
  rfl

/-- **Fingerprints of commands are well formed, and are shown without cutting a character.**  They
consist of sixty-four lower-case hexadecimal digits, as the text of any digest of thirty-two bytes
does, and the text determines the digest.  What is shown of them is their first twelve characters.
Showing an arbitrary fingerprint fails exactly if its text is longer than twelve bytes and the
twelfth byte is inside of a character; otherwise as many bytes are shown, or all if there are
fewer. -/
theorem Fingerprint.shown_whole_characters :
    (∀ c : Command, c.fingerprint.WellFormed ∧
      c.fingerprint.short? = some (String.ofList (c.fingerprint.text.toList.take 12)) ∧
      c.fingerprint.text = Digest.hex (Digest.sha256 c.hashInput)) ∧
    (∀ digest : List UInt8, digest.length = 32 → WellFormed ⟨Digest.hex digest⟩) ∧
    (∀ digest digest' : List UInt8, Digest.hex digest = Digest.hex digest' → digest = digest') ∧
    (∀ f : Fingerprint, f.short? = none ↔
      12 < f.text.utf8ByteSize ∧ ¬(String.Pos.Raw.mk 12).IsValid f.text) ∧
    (∀ (f : Fingerprint) (shown : String), f.short? = some shown →
      utf8 shown = (utf8 f.text).take (min f.text.utf8ByteSize 12)) := by
  refine ⟨?_, fun _ => wellFormed_hex, fun _ _ => Digest.hex_injective, ?_, ?_⟩
  · intro c
    have hformed : c.fingerprint.WellFormed := wellFormed_hex (Digest.length_sha256 c.hashInput)
    exact ⟨hformed, hformed.short?_eq, rfl⟩
  · intro f
    rw [short?, Option.map_eq_none_iff]
    exact takeBytes_eq_none_iff
  · intro f shown h
    obtain ⟨front, hfront, rfl⟩ := Option.map_eq_some_iff.1 h
    exact utf8_of_takeBytes hfront

/-- Zeros in front are kept; a character of two bytes is shown if it ends with the twelfth byte, and
stands in the way if it begins with it. -/
theorem Fingerprint.shown_whole_characters_accented :
    WellFormed ⟨Digest.hex (List.replicate 32 0)⟩ ∧
      utf8 "0123456789é" = (utf8 "0123456789é-").take 12 ∧
      (Fingerprint.mk "0123456789aé").short? = none := by
  obtain ⟨_, hformed, _, hnone, hsome⟩ := shown_whole_characters
  refine ⟨hformed _ List.length_replicate, hsome ⟨"0123456789é-"⟩ _ (by decide), ?_⟩
  exact (hnone ⟨"0123456789aé"⟩).2 (by decide)

end DocAudit

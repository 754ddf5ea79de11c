import DocAudit.Digest.Hex
import DocAudit.Text.Hexadecimal

/-!
# Hexadecimal text is read back

The two digits of a byte are read back as the byte (`hexNumber?_byteChars`), leading zeros
included.  So the hexadecimal text of a byte string determines it (`hex_injective`).  The text has
two digits for each byte (`length_hexChars`), all of them lower-case (`isHexDigit_of_mem`).
-/

namespace DocAudit.Digest

open Text

theorem hexValue?_hexDigit : ∀ n < 16, hexValue? (hexDigit n) = some n := by decide

theorem hexNumber?_zero_cons (cs : List Char) : hexNumber? ('0' :: cs) = hexNumber? cs := rfl

theorem hexNumber?_byteChars (b : UInt8) : hexNumber? (byteChars b) = some b.toNat := by
  have hb : b.toNat < 256 := b.toNat_lt
  have hhigh := hexValue?_hexDigit (b.toNat / 16) (by omega)
  have hlow := hexValue?_hexDigit (b.toNat % 16) (by omega)
  simp only [hexNumber?, byteChars, List.foldlM_cons, List.foldlM_nil, hhigh, hlow,
    Option.map_some, Option.bind_eq_bind, Option.bind_some, Option.pure_def]
  congr 1
  omega

theorem byteChars_injective {a b : UInt8} (h : byteChars a = byteChars b) : a = b := by
  have hnat := congrArg hexNumber? h
  rw [hexNumber?_byteChars, hexNumber?_byteChars] at hnat
  exact UInt8.toNat_inj.1 (Option.some.inj hnat)

theorem hexChars_injective : ∀ {xs ys : List UInt8}, hexChars xs = hexChars ys → xs = ys
  | [], [], _ => rfl
  | [], _ :: _, h => by simp [hexChars, byteChars] at h
  | _ :: _, [], h => by simp [hexChars, byteChars] at h
  | x :: xs, y :: ys, h => by
    have hsplit : byteChars x ++ hexChars xs = byteChars y ++ hexChars ys := h
    obtain ⟨hbyte, hrest⟩ := List.append_inj hsplit rfl
    rw [byteChars_injective hbyte, hexChars_injective hrest]

/-- **A byte string is determined by its hexadecimal text.** -/
theorem hex_injective {xs ys : List UInt8} (h : hex xs = hex ys) : xs = ys :=
  hexChars_injective (String.ofList_injective h)

/-! ## Shape of the text -/

/-- A digit or one of the letters `a` to `f`. -/
def IsHexDigit (c : Char) : Prop := '0' ≤ c ∧ c ≤ '9' ∨ 'a' ≤ c ∧ c ≤ 'f'

instance : DecidablePred IsHexDigit := fun c =>
  inferInstanceAs (Decidable ('0' ≤ c ∧ c ≤ '9' ∨ 'a' ≤ c ∧ c ≤ 'f'))

theorem isHexDigit_hexDigit : ∀ n < 16, IsHexDigit (hexDigit n) := by decide

theorem isHexDigit_of_mem {bs : List UInt8} {c : Char} (h : c ∈ hexChars bs) : IsHexDigit c := by
  obtain ⟨b, _, hc⟩ := List.mem_flatMap.1 h
  have hb : b.toNat < 256 := b.toNat_lt
  rcases List.mem_cons.1 hc with rfl | hlow
  · exact isHexDigit_hexDigit _ (by omega)
  · cases List.mem_singleton.1 hlow
    exact isHexDigit_hexDigit _ (by omega)

theorem length_hexChars : ∀ bs : List UInt8, (hexChars bs).length = 2 * bs.length
  | [] => rfl
  | b :: bs => by
    have hsplit : hexChars (b :: bs) = byteChars b ++ hexChars bs := rfl
    rw [hsplit, List.length_append, length_hexChars bs, List.length_cons, Nat.mul_add, Nat.add_comm]
    rfl

end DocAudit.Digest

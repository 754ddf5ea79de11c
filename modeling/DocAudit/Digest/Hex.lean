/-!
# Lower-case hexadecimal text

Each byte is written as two digits, the high half first.
-/

namespace DocAudit.Digest

/-- The digit of a number below sixteen. -/
def hexDigit (n : Nat) : Char := if n < 10 then Char.ofNat (48 + n) else Char.ofNat (87 + n)

def byteChars (b : UInt8) : List Char := [hexDigit (b.toNat / 16), hexDigit (b.toNat % 16)]

/-- The digits of a byte string. -/
def hexChars (bs : List UInt8) : List Char := bs.flatMap byteChars

/-- The hexadecimal text of a byte string. -/
def hex (bs : List UInt8) : String := String.ofList (hexChars bs)

end DocAudit.Digest

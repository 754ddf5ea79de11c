/-!
# UTF-8

* `utf8` is the byte string of a text.
* `decodeLossy` reads any byte string: each maximal part of an ill-formed sequence that could
  still have begun a character becomes one replacement character `U+FFFD`.
-/

namespace DocAudit.Text

def utf8 (s : String) : List UInt8 := s.toList.flatMap String.utf8EncodeChar

/-- The character that stands for ill-formed bytes. -/
def replacement : Char := Char.ofNat 0xFFFD

/-- Whether `b` lies in the closed range from `lo` to `hi`. -/
def byteIn (lo hi : Nat) (b : UInt8) : Bool := lo ≤ b.toNat && b.toNat ≤ hi

/-- Whether `b` is a continuation byte. -/
def isTail (b : UInt8) : Bool := byteIn 0x80 0xBF b

/-- The second bytes that may follow the first byte of a character of three or four bytes. -/
def secondByte (a b : UInt8) : Bool :=
  if a = 0xE0 then byteIn 0xA0 0xBF b
  else if a = 0xED then byteIn 0x80 0x9F b
  else if a = 0xF0 then byteIn 0x90 0xBF b
  else if a = 0xF4 then byteIn 0x80 0x8F b
  else isTail b

/-- The code point with the given leading bits and continuation bytes. -/
def assemble (lead : Nat) (tails : List UInt8) : Char :=
  Char.ofNat (tails.foldl (fun n b => n * 64 + b.toNat % 64) lead)

/-- The first character of a nonempty byte string, ill-formed parts replaced, and the rest. -/
def decodeOne (a : UInt8) (rest : List UInt8) : Char × List UInt8 :=
  if byteIn 0x00 0x7F a then (Char.ofNat a.toNat, rest)
  else if byteIn 0xC2 0xDF a then
    match rest with
    | b :: r => if isTail b then (assemble (a.toNat % 32) [b], r) else (replacement, rest)
    | [] => (replacement, [])
  else if byteIn 0xE0 0xEF a then
    match rest with
    | b :: r =>
      if secondByte a b then
        match r with
        | c :: t => if isTail c then (assemble (a.toNat % 16) [b, c], t) else (replacement, r)
        | [] => (replacement, [])
      else (replacement, rest)
    | [] => (replacement, [])
  else if byteIn 0xF0 0xF4 a then
    match rest with
    | b :: r =>
      if secondByte a b then
        match r with
        | c :: t =>
          if isTail c then
            match t with
            | d :: u => if isTail d then (assemble (a.toNat % 8) [b, c, d], u) else (replacement, t)
            | [] => (replacement, [])
          else (replacement, r)
        | [] => (replacement, [])
      else (replacement, rest)
    | [] => (replacement, [])
  else (replacement, rest)

/-- Reading a character leaves at most the bytes after its first one. -/
theorem length_decodeOne_le (a : UInt8) (rest : List UInt8) :
    (decodeOne a rest).2.length ≤ rest.length := by
  unfold decodeOne
  repeat' split
  all_goals simp_all
  all_goals omega

/-- The characters of a byte string, ill-formed parts replaced. -/
def decodeLossyChars : List UInt8 → List Char
  | [] => []
  | a :: rest => (decodeOne a rest).1 :: decodeLossyChars (decodeOne a rest).2
termination_by bs => bs.length
decreasing_by
  have := length_decodeOne_le a rest
  simp only [List.length_cons]
  omega

/-- The text of a byte string, ill-formed parts replaced. -/
def decodeLossy (bs : List UInt8) : String := String.ofList (decodeLossyChars bs)

end DocAudit.Text

import DocAudit.Digest.Hex
import DocAudit.Text.Count
import DocAudit.Text.Utf8

/-!
# Formatted output of shell commands

* `escaped` replaces backslash sequences in a text.
* `formatted` fills arguments into a format, which is used again as long as there are arguments.
-/

namespace DocAudit.Host.Shell

def charBytes (c : Char) : List UInt8 := Text.utf8 (String.singleton c)

/-- The byte that a letter after a backslash stands for. -/
def controlByte? (c : Char) : Option UInt8 :=
  match c with
  | 'a' => some 7
  | 'b' => some 8
  | 'f' => some 12
  | 'n' => some 10
  | 'r' => some 13
  | 't' => some 9
  | 'v' => some 11
  | '\\' => some 92
  | _ => none

def isOctal (c : Char) : Bool := '0' ≤ c && c ≤ '7'

def octalByte (ds : List Char) : UInt8 :=
  UInt8.ofNat (ds.foldl (fun n d => n * 8 + (d.toNat - '0'.toNat)) 0)

/-- Reads up to `n` octal digits. -/
def readOctal (n : Nat) (cs : List Char) : List Char × List Char :=
  let ds := (cs.take n).takeWhile isOctal
  (ds, cs.drop ds.length)

/-- Replaces the backslash sequences in the argument of a command.  The second component tells
that the output ends here. -/
def escaped : (fuel : Nat) → List Char → List UInt8 × Bool
  | 0, _ => ([], false)
  | n + 1, cs =>
    let next (bytes : List UInt8) (rest : List Char) :=
      let r := escaped n rest
      (bytes ++ r.1, r.2)
    match cs with
    | [] => ([], false)
    | '\\' :: 'c' :: _ => ([], true)
    | '\\' :: '0' :: rest =>
      let (ds, rest) := readOctal 3 rest
      next [octalByte ds] rest
    | '\\' :: c :: rest =>
      match controlByte? c with
      | some b => next [b] rest
      | none => next (92 :: charBytes c) rest
    | c :: rest => next (charBytes c) rest

/-- The layout of a value in a format. -/
structure Layout where
  isLeft : Bool := false
  hasZeros : Bool := false
  width : Nat := 0
  precision : Option Nat := none
  deriving DecidableEq, Repr

/-- The bytes of a value, filled up to the width of the layout. -/
def Layout.fill (l : Layout) (isNumber : Bool) (bytes : List UInt8) : List UInt8 :=
  let missing := l.width - bytes.length
  if l.isLeft then bytes ++ List.replicate missing 32
  else if l.hasZeros && isNumber then
    match bytes with
    | 45 :: digits => 45 :: List.replicate missing 48 ++ digits
    | _ => List.replicate missing 48 ++ bytes
  else List.replicate missing 32 ++ bytes

/-- The digits at the start of a text as a number. -/
def leadingNumber (cs : List Char) : Nat := (Text.readDigits 0 (cs.takeWhile Char.isDigit)).getD 0

/-- Reads the layout of a value. -/
def readLayout (cs : List Char) : Layout × List Char :=
  let flags := cs.takeWhile fun c => "-+ 0#".toList.contains c
  let rest := cs.drop flags.length
  let width := leadingNumber rest
  let rest := rest.dropWhile Char.isDigit
  let (precision, rest) := match rest with
    | '.' :: rest => (some (leadingNumber rest), rest.dropWhile Char.isDigit)
    | _ => (none, rest)
  (⟨flags.contains '-', flags.contains '0', width, precision⟩, rest)

/-- The number that an argument denotes. -/
def argumentNumber (arg : String) : Int :=
  match arg.toList with
  | '-' :: ds => -(leadingNumber ds : Int)
  | '+' :: ds => leadingNumber ds
  | ds => leadingNumber ds

/-- A number in the base of a conversion. -/
def numberText (conversion : Char) (n : Int) : String :=
  let wrapped := (n % 18446744073709551616).toNat
  match conversion with
  | 'o' => String.ofList (Nat.toDigits 8 wrapped)
  | 'x' => String.ofList (Nat.toDigits 16 wrapped)
  | 'X' => String.ofList ((Nat.toDigits 16 wrapped).map Char.toUpper)
  | 'u' => toString wrapped
  | _ => toString n

/-- The bytes of an argument in a conversion, or nothing if there is no such conversion. -/
def converted? (l : Layout) (conversion : Char) (arg : Option String) : Option (List UInt8) :=
  let text := arg.getD ""
  match conversion with
  | 's' =>
    let bytes := Text.utf8 text
    some (l.fill false (match l.precision with
      | some p => bytes.take p
      | none => bytes))
  | 'c' => some (l.fill false ((Text.utf8 text).take 1))
  | 'b' => some (l.fill false (escaped (text.length + 1) text.toList).1)
  | _ =>
    if "diuoxX".toList.contains conversion then
      some (l.fill true (Text.utf8 (numberText conversion (argumentNumber text))))
    else none

/-- The result of going through a format once: the output, the arguments that are left, and
whether any argument was asked for. -/
structure Pass where
  bytes : List UInt8
  left : List String
  asked : Bool

/-- Goes through a format once. -/
def formatPass : (fuel : Nat) → List Char → Pass → Pass
  | 0, _, p => p
  | n + 1, cs, p =>
    let put (bytes : List UInt8) (rest : List Char) :=
      formatPass n rest { p with bytes := p.bytes ++ bytes }
    match cs with
    | [] => p
    | '%' :: '%' :: rest => put [37] rest
    | '%' :: rest =>
      let (layout, rest) := readLayout rest
      match rest with
      | conversion :: rest =>
        match converted? layout conversion p.left.head? with
        | some bytes => formatPass n rest ⟨p.bytes ++ bytes, p.left.tail, true⟩
        | none => put (charBytes '%' ++ charBytes conversion) rest
      | [] => put [37] []
    | '\\' :: c :: rest =>
      if isOctal c then
        let (ds, rest) := readOctal 3 (c :: rest)
        put [octalByte ds] rest
      else
        match controlByte? c with
        | some b => put [b] rest
        | none => put (92 :: charBytes c) rest
    | c :: rest => put (charBytes c) rest

/-- Goes through a format as long as there are arguments. -/
def formatPasses (format : List Char) : (fuel : Nat) → List String → List UInt8
  | 0, _ => []
  | n + 1, args =>
    let p := formatPass (format.length + 1) format ⟨[], args, false⟩
    if p.asked && !p.left.isEmpty then p.bytes ++ formatPasses format n p.left else p.bytes

/-- The arguments filled into a format. -/
def formatted (format : String) (args : List String) : List UInt8 :=
  formatPasses format.toList (args.length + 1) args

end DocAudit.Host.Shell

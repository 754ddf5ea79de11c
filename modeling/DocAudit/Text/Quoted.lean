import DocAudit.Digest.Hex
import DocAudit.Unicode.Shape

/-!
# Quoted texts in messages

Texts of unknown content are shown in double quotes.  Quotes, backslashes, common control
characters and everything that has no shape of its own, or would merge with the character
before it, are escaped.
-/

namespace DocAudit.Text

open DocAudit.Unicode

/-- The hexadecimal digits of a number without leading zeros. -/
def hexDigits (n : Nat) : List Char := Nat.toDigits 16 n

/-- The characters that a character is shown as between double quotes. -/
def quotedChar (c : Char) : List Char :=
  if c.toNat = 0 then ['\\', '0']
  else if c = '\t' then ['\\', 't']
  else if c = '\r' then ['\\', 'r']
  else if c = '\n' then ['\\', 'n']
  else if c = '\\' then ['\\', '\\']
  else if c = '"' then ['\\', '"']
  else if isExtending c || !isPrintable c then
    '\\' :: 'u' :: '\x7b' :: hexDigits c.toNat ++ ['\x7d']
  else [c]

def quoted (s : String) : String := String.ofList ('"' :: s.toList.flatMap quotedChar ++ ['"'])

/-- A file name in double quotes; single quotes are escaped too. -/
def quotedPath (s : String) : String :=
  String.ofList ('"' :: (s.toList.flatMap fun c =>
    if c = '\x27' then ['\\', '\x27'] else quotedChar c) ++ ['"'])

/-- A list of file names. -/
def quotedPaths (ss : List String) : String := "[" ++ ", ".intercalate (ss.map quotedPath) ++ "]"

end DocAudit.Text

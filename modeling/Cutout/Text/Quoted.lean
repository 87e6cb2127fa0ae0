import Cutout.Text.CaseTable
import Cutout.Text.EscapeTable

/-!
# Quoted rendering

How a diagnostic shows a text that it was given: between double quotes, with the quote, the
backslash and everything that has no visible form of its own escaped.
-/

namespace Cutout.Text

/-- A number in lowercase hexadecimal, without leading zeros. -/
def hexDigits (n : Nat) : List Char :=
  Nat.toDigits 16 n

/-- The character is shown by its code point. -/
def isHidden (c : Char) : Bool :=
  inRanges hiddenRanges c.toNat

/-- One character as a quoted rendering shows it. -/
def quotedChar (c : Char) : List Char :=
  if c = '\x00' then ['\\', '0']
  else if c = '\t' then ['\\', 't']
  else if c = '\r' then ['\\', 'r']
  else if c = '\n' then ['\\', 'n']
  else if c = '\\' then ['\\', '\\']
  else if c = '"' then ['\\', '"']
  else if isHidden c then ['\\', 'u', '\x7b'] ++ hexDigits c.toNat ++ ['\x7d']
  else [c]

/-- A text in double quotes, escaped. -/
def quoted (s : String) : String :=
  String.ofList (['"'] ++ s.toList.flatMap quotedChar ++ ['"'])

end Cutout.Text

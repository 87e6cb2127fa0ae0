import Cutout.Text.Quoted

/-!
# JSON texts

The JSON that the service answers with: objects of string members, written without spaces, in the
order in which the members are declared.
-/

namespace Cutout.Json

/-- Four lowercase hexadecimal digits. -/
def hex4 (n : Nat) : List Char :=
  let d := Text.hexDigits n
  List.replicate (4 - d.length) '0' ++ d

/-- One character inside a string literal. -/
def escapeChar (c : Char) : List Char :=
  if c = '"' then ['\\', '"']
  else if c = '\\' then ['\\', '\\']
  else if c = '\x08' then ['\\', 'b']
  else if c = '\x0c' then ['\\', 'f']
  else if c = '\n' then ['\\', 'n']
  else if c = '\r' then ['\\', 'r']
  else if c = '\t' then ['\\', 't']
  else if c.toNat < 0x20 then ['\\', 'u'] ++ hex4 c.toNat
  else [c]

/-- A string literal. -/
def string (s : String) : List Char :=
  ['"'] ++ s.toList.flatMap escapeChar ++ ['"']

/-- One member of an object. -/
def field (m : String × String) : List Char :=
  string m.1 ++ [':'] ++ string m.2

/-- An object whose members are all strings. -/
def object (members : List (String × String)) : String :=
  String.ofList (['\x7b'] ++ [','].intercalate (members.map field) ++ ['\x7d'])

end Cutout.Json

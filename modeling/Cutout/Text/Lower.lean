import Cutout.Text.CaseTable

/-!
# Lowercase

The full Unicode lowercase of a text. One character, the capital I with a dot, becomes two; one
character, the capital sigma, depends on its neighbours: at the end of a word it has its final form.
-/

namespace Cutout.Text

/-- The lowercase form of a character taken by itself. -/
def lowerChar (c : Char) : List Char :=
  if c = 'İ' then ['i', '\u0307']
  else
    match caseRuns.find? fun r => r.covers c.toNat with
    | some r => [Char.ofNat ((c.toNat : Int) + r.shift).toNat]
    | none => [c]

/-- Passed over when the neighbours of a sigma are looked for. -/
def caseIgnorable (c : Char) : Bool :=
  inRanges caseIgnorableRanges c.toNat

/-- A letter that has case, or belongs to a script that has. -/
def cased (c : Char) : Bool :=
  inRanges casedRanges c.toNat

/-- The first character that case does not ignore is a cased one. -/
def reachesCased (cs : List Char) : Bool :=
  match cs.dropWhile caseIgnorable with
  | c :: _ => cased c
  | [] => false

/-- The lowercase of what follows the characters `before`, which are given latest first. -/
def lowerAfter (before : List Char) : List Char → List Char
  | [] => []
  | c :: cs =>
    (if c = 'Σ' then
      [if reachesCased before && !reachesCased cs then 'ς' else 'σ']
    else lowerChar c) ++ lowerAfter (c :: before) cs

/-- The Unicode lowercase of a text. -/
def lowercase (s : String) : String :=
  String.ofList (lowerAfter [] s.toList)

/-- The ASCII capital letters. -/
def isAsciiUpper (c : Char) : Bool :=
  'A' ≤ c && c ≤ 'Z'

/-- The lowercase of an ASCII letter; every other character is left alone. -/
def asciiLowerChar (c : Char) : Char :=
  if isAsciiUpper c then Char.ofNat (c.toNat + 32) else c

/-- A text with its ASCII letters lowered. -/
def asciiLower (s : String) : String :=
  String.ofList (s.toList.map asciiLowerChar)

/-- Two texts agree up to the case of ASCII letters. -/
def sameAsciiCase (s t : String) : Bool :=
  asciiLower s == asciiLower t

end Cutout.Text

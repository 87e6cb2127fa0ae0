import Cutout.Bytes

/-!
# Reading UTF-8

`scanUtf8` cuts a byte string into characters and ill-formed pieces. An ill-formed piece is the
longest beginning of a character that cannot be completed, or else one byte. The strict reader
accepts a byte string without such pieces; the lenient one puts U+FFFD for each of them.
-/

namespace Cutout.Text

/-- A byte of the form `10xxxxxx`. -/
def isContinuation (b : UInt8) : Bool :=
  0x80 ≤ b && b ≤ 0xBF

/-- How many bytes a character with this first byte has; zero for a byte that begins none. -/
def utf8Width (b : UInt8) : Nat :=
  if b < 0x80 then 1
  else if 0xC2 ≤ b && b ≤ 0xDF then 2
  else if 0xE0 ≤ b && b ≤ 0xEF then 3
  else if 0xF0 ≤ b && b ≤ 0xF4 then 4
  else 0

/-- The second byte of a character of three or four bytes excludes overlong forms, surrogates and
code points past the last one. -/
def secondFits (a b : UInt8) : Bool :=
  if a = 0xE0 then 0xA0 ≤ b && b ≤ 0xBF
  else if a = 0xED then 0x80 ≤ b && b ≤ 0x9F
  else if a = 0xF0 then 0x90 ≤ b && b ≤ 0xBF
  else if a = 0xF4 then 0x80 ≤ b && b ≤ 0x8F
  else isContinuation b

/-- The low six bits of a continuation byte. -/
def sixBits (b : UInt8) : Nat :=
  b.toNat % 64

/-- One character, or one ill-formed piece, and the number of bytes that it takes. -/
def utf8Head (a : UInt8) (r : Bytes) : Option Char × Nat :=
  match utf8Width a, r with
  | 1, _ => (some (Char.ofNat a.toNat), 1)
  | 2, b :: _ =>
    if isContinuation b then (some (Char.ofNat (a.toNat % 32 * 64 + sixBits b)), 2) else (none, 1)
  | 3, b :: c :: _ =>
    if !secondFits a b then (none, 1)
    else if !isContinuation c then (none, 2)
    else (some (Char.ofNat ((a.toNat % 16 * 64 + sixBits b) * 64 + sixBits c)), 3)
  -- the bytes end within the character
  | 3, [b] => (none, if secondFits a b then 2 else 1)
  | 4, b :: c :: d :: _ =>
    if !secondFits a b then (none, 1)
    else if !isContinuation c then (none, 2)
    else if !isContinuation d then (none, 3)
    else
      (some (Char.ofNat (((a.toNat % 8 * 64 + sixBits b) * 64 + sixBits c) * 64 + sixBits d)), 4)
  | 4, [b, c] =>
    (none, if !secondFits a b then 1 else if isContinuation c then 3 else 2)
  | 4, [b] => (none, if secondFits a b then 2 else 1)
  | _, _ => (none, 1)

/-- The characters of a byte string, with `none` for each ill-formed piece. -/
def scanUtf8 : Bytes → List (Option Char)
  | [] => []
  | a :: r =>
    let (c, n) := utf8Head a r
    c :: scanUtf8 (r.drop (n - 1))
termination_by b => b.length
decreasing_by simp only [List.length_drop, List.length_cons]; omega

/-- The text of a byte string in UTF-8, if it is one. -/
def ofUtf8? (b : Bytes) : Option String :=
  (List.mapM id (scanUtf8 b)).map String.ofList

/-- The text of a byte string, with U+FFFD for what is not UTF-8. -/
def ofUtf8Lossy (b : Bytes) : String :=
  String.ofList ((scanUtf8 b).map fun c => c.getD '\ufffd')

end Cutout.Text

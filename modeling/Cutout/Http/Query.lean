import Cutout.Text.Number
import Cutout.Text.Pieces
import Cutout.Text.Utf8

/-!
# Queries

A query is a list of pairs of a key and a value in the form encoding: pairs are divided by
ampersands, a key ends at the first equals sign, a plus sign is a space, and a percent sign with two
hexadecimal digits is a byte. Bytes that are not UTF-8 become replacement characters.
-/

namespace Cutout.Http.Query

/-- The byte of two hexadecimal digits. -/
def escaped? (x y : UInt8) : Option UInt8 :=
  match Text.digit? 16 (Char.ofNat x.toNat), Text.digit? 16 (Char.ofNat y.toNat) with
  | some m, some n => some (UInt8.ofNat (16 * m + n))
  | _, _ => none

/-- Undo the encoding of a key or a value. A percent sign without digits stands for itself. -/
def decode : Bytes → Bytes
  | [] => []
  | 43 :: b => 32 :: decode b
  | 37 :: x :: y :: b =>
    match escaped? x y with
    | some e => e :: decode b
    | none => 37 :: decode (x :: y :: b)
  | x :: b => x :: decode b

/-- The text of a key or a value. -/
def text (b : Bytes) : String :=
  Text.ofUtf8Lossy (decode b)

/-- A pair: what stands before the first equals sign and what stands after it. -/
def pair (b : Bytes) : String × String :=
  (text (b.takeWhile (· != 61)), text ((b.dropWhile (· != 61)).drop 1))

/-- The pairs of a query. Nothing between two ampersands is no pair. -/
def pairs (b : Bytes) : List (String × String) :=
  ((Text.pieces 38 b).filter fun piece => !piece.isEmpty).map pair

/-- The value of the first pair with a key. -/
def first? (pairs : List (String × String)) (key : String) : Option String :=
  (pairs.find? fun p => p.1 == key).map (·.2)

end Cutout.Http.Query

import Cutout.Codec.Bits

/-!
# Prefix codes

A canonical prefix code is given by the length of the code word of each symbol: shorter words come
first, and words of one length follow each other in the order of their symbols. A word is read bit by
bit, and it is complete as soon as it lies among the words of its length.
-/

namespace Cutout

/-- A canonical prefix code: how many words there are of each length from 1 on, and the symbols in
the order of their words. -/
structure PrefixCode where
  counts : List Nat
  symbols : Array Nat
  deriving DecidableEq, Repr

namespace PrefixCode

/-- The symbols with a word of one length, in order. -/
def symbolsOf (lengths : List Nat) (n : Nat) : List Nat :=
  (lengths.zipIdx.filter fun p => p.1 == n).map (·.2)

/-- The code in which each symbol has a word of the given length; length 0 means no word. No word
is longer than `longest`. -/
def ofLengths (longest : Nat) (lengths : List Nat) : PrefixCode :=
  let groups := (List.range longest).map fun i => symbolsOf lengths (i + 1)
  ⟨groups.map List.length, groups.flatten.toArray⟩

/-- The number of words of the greatest length that the words of a code leave over, as far as there
are that many: a code without rest is complete. -/
def unusedFrom : (room : Int) → List Nat → Int
  | room, [] => room
  | room, n :: counts => unusedFrom (2 * room - n) counts

/-- No word can be added, and none is too many. Too many words of one length cannot be made up for
later, because what is missing doubles with each further bit. -/
def isComplete (c : PrefixCode) : Bool :=
  unusedFrom 1 c.counts == 0

/-- The number of symbols that have a word. -/
def size (c : PrefixCode) : Nat :=
  c.symbols.size

/-- Why no symbol can be read. -/
inductive Halt where
  /-- The bits are used up. -/
  | starved
  /-- No word begins like this. -/
  | noWord
  deriving DecidableEq, Repr

/-- Read a word after `code`, where the first word of the present length is `first` and `index`
symbols have shorter words. -/
def readFrom {σ : Type} (next : σ → Option (Bool × σ)) (symbols : Array Nat) :
    List Nat → (code first index : Nat) → σ → Except Halt (Nat × σ)
  | [], _, _, _, _ => .error .noWord
  | n :: counts, code, first, index, s =>
    match next s with
    | none => .error .starved
    | some (b, s) =>
      let code := 2 * code + b.toNat
      let first := 2 * first
      -- the words of this length are the `n` numbers from `first` on
      if code < first + n then
        match symbols[index + (code - first)]? with
        | some x => .ok (x, s)
        | none => .error .noWord
      else readFrom next symbols counts code (first + n) (index + n) s

/-- Read the word of one symbol. -/
def read {σ : Type} (c : PrefixCode) (next : σ → Option (Bool × σ)) (s : σ) :
    Except Halt (Nat × σ) :=
  readFrom next c.symbols c.counts 0 0 0 s

end PrefixCode

end Cutout

import Cutout.Codec.PrefixCode

/-!
# Compressed streams

A compressed stream is a sequence of blocks. A block holds bytes as they are, or symbols in a prefix
code; a symbol is a byte or says how much of what has been written is to be repeated from how far
back. The code of a block is fixed or stands at its beginning. Around the blocks come two bytes
that name the method and, behind them, a checksum, which is passed over.

When the bytes are used up before the stream ends, what has been written so far is kept.
-/

namespace Cutout.Inflate

/-- Why a stream does not end well. -/
inductive Halt where
  /-- The bytes break the rules. -/
  | corrupt
  /-- The bytes are used up. -/
  | starved (written : Array UInt8)
  deriving DecidableEq, Repr

/-- A number of some bits, or the end. -/
def number (n : Nat) (b : Bits) (out : Array UInt8) : Except Halt (Nat × Bits) :=
  match b.lowNumber? n with
  | some r => .ok r
  | none => .error (.starved out)

/-- A symbol of a prefix code, or the end. -/
def symbol (c : PrefixCode) (b : Bits) (out : Array UInt8) : Except Halt (Nat × Bits) :=
  match c.read Bits.low? b with
  | .ok r => .ok r
  | .error .starved => .error (.starved out)
  | .error .noWord => .error .corrupt

/-! ## Codes -/

/-- The codes of a block: one for bytes and lengths, one for distances. -/
structure Codes where
  literals : PrefixCode
  distances : PrefixCode

/-- The longest code word. -/
def longestWord : Nat := 15

/-- The fixed codes. -/
def fixedCodes : Codes where
  literals := PrefixCode.ofLengths longestWord
    (List.replicate 144 8 ++ List.replicate 112 9 ++ List.replicate 24 7 ++ List.replicate 8 8)
  distances := PrefixCode.ofLengths longestWord (List.replicate 30 5)

/-- The order in which the lengths of the code for code lengths are given. -/
def lengthOrder : List Nat :=
  [16, 17, 18, 0, 8, 7, 9, 6, 10, 5, 11, 4, 12, 3, 13, 2, 14, 1, 15]

/-- Lengths of three bits each, as many as asked for. -/
def shortLengths (out : Array UInt8) : (n : Nat) → Bits → Except Halt (List Nat × Bits)
  | 0, b => .ok ([], b)
  | n + 1, b => do
    let (x, b) ← number 3 b out
    let (xs, b) ← shortLengths out n b
    return (x :: xs, b)

/-- Code lengths in a code of their own, with runs written short: `reversed` holds those read so
far, latest first, and `room` more are to come. -/
def runLengths (out : Array UInt8) (c : PrefixCode) :
    (fuel room : Nat) → (reversed : List Nat) → Bits → Except Halt (List Nat × Bits)
  | 0, _, reversed, b => .ok (reversed.reverse, b)
  | fuel + 1, room, reversed, b =>
    if room = 0 then .ok (reversed.reverse, b)
    else do
      let (x, b) ← symbol c b out
      if x < 16 then runLengths out c fuel (room - 1) (x :: reversed) b
      else
        -- 16 repeats the last length, 17 and 18 repeat zero
        let (bits, least) := if x = 16 then (2, 3) else if x = 17 then (3, 3) else (7, 11)
        let (more, b) ← number bits b out
        let n := least + more
        if room < n then .error .corrupt
        else if x = 16 then
          match reversed with
          | [] => .error .corrupt
          | y :: _ => runLengths out c fuel (room - n) (List.replicate n y ++ reversed) b
        else runLengths out c fuel (room - n) (List.replicate n 0 ++ reversed) b

/-- A code for distances can have no words, or a single word of one bit. -/
def isDistanceCode (c : PrefixCode) : Bool :=
  c.isComplete || c.size = 0 || (c.size = 1 && c.counts.head? == some 1)

/-- The codes at the beginning of a block. -/
def writtenCodes (b : Bits) (out : Array UInt8) : Except Halt (Codes × Bits) := do
  let (l, b) ← number 5 b out
  let (d, b) ← number 5 b out
  let (h, b) ← number 4 b out
  let literals := l + 257
  let distances := d + 1
  if 286 < literals || 30 < distances then .error .corrupt
  else
    -- the lengths of both codes are written in a code of their own, which comes first
    let (short, b) ← shortLengths out (h + 4) b
    let pairs := lengthOrder.zip short
    let lengths := (List.range 19).map fun i =>
      ((pairs.find? fun p => p.1 == i).map (·.2)).getD 0
    let c := PrefixCode.ofLengths 7 lengths
    if !c.isComplete then .error .corrupt
    else
      let n := literals + distances
      let (all, b) ← runLengths out c n n [] b
      let lit := PrefixCode.ofLengths longestWord (all.take literals)
      let dist := PrefixCode.ofLengths longestWord (all.drop literals)
      -- without a word for the end a block could not end
      if all[256]? == some 0 || !lit.isComplete || !isDistanceCode dist then .error .corrupt
      else return (⟨lit, dist⟩, b)

/-! ## Blocks -/

/-- The least value and the number of further bits of each length symbol. -/
def lengthTable : List (Nat × Nat) :=
  [(3, 0), (4, 0), (5, 0), (6, 0), (7, 0), (8, 0), (9, 0), (10, 0), (11, 1), (13, 1), (15, 1),
   (17, 1), (19, 2), (23, 2), (27, 2), (31, 2), (35, 3), (43, 3), (51, 3), (59, 3), (67, 4),
   (83, 4), (99, 4), (115, 4), (131, 5), (163, 5), (195, 5), (227, 5), (258, 0)]

/-- The least value and the number of further bits of each distance symbol. -/
def distanceTable : List (Nat × Nat) :=
  [(1, 0), (2, 0), (3, 0), (4, 0), (5, 1), (7, 1), (9, 2), (13, 2), (17, 3), (25, 3), (33, 4),
   (49, 4), (65, 5), (97, 5), (129, 6), (193, 6), (257, 7), (385, 7), (513, 8), (769, 8),
   (1025, 9), (1537, 9), (2049, 10), (3073, 10), (4097, 11), (6145, 11), (8193, 12),
   (12289, 12), (16385, 13), (24577, 13)]

/-- A value from a table. -/
def tabled (table : List (Nat × Nat)) (i : Nat) (b : Bits) (out : Array UInt8) :
    Except Halt (Nat × Bits) :=
  match table[i]? with
  | none => .error .corrupt
  | some (least, bits) => do
    let (more, b) ← number bits b out
    return (least + more, b)

/-- Repeat `n` bytes from `distance` bytes back, one by one. -/
def repeatBack (distance : Nat) : (n : Nat) → Array UInt8 → Array UInt8
  | 0, out => out
  | n + 1, out => repeatBack distance n (out.push (out.getD (out.size - distance) 0))

/-- The symbols of a block up to its end. -/
def symbols (c : Codes) : (fuel : Nat) → Bits → Array UInt8 → Except Halt (Bits × Array UInt8)
  | 0, _, out => .error (.starved out)
  | fuel + 1, b, out => do
    let (x, b) ← symbol c.literals b out
    if x < 256 then symbols c fuel b (out.push (UInt8.ofNat x))
    else if x = 256 then return (b, out)
    else
      let (n, b) ← tabled lengthTable (x - 257) b out
      let (y, b) ← symbol c.distances b out
      let (d, b) ← tabled distanceTable y b out
      if out.size < d then .error .corrupt else symbols c fuel b (repeatBack d n out)

/-- A block of bytes as they are: their number, its complement, and the bytes. -/
def stored (b : Bits) (out : Array UInt8) : Except Halt (Bits × Array UInt8) :=
  match b.align with
  | a0 :: a1 :: c0 :: c1 :: rest =>
    let n := Bytes.toNatLE [a0, a1]
    if n + Bytes.toNatLE [c0, c1] ≠ 65535 then .error .corrupt
    else
      match Bytes.take? n rest with
      | some (front, rest) => .ok (Bits.ofBytes rest, out ++ front.toArray)
      | none => .error (.starved (out ++ rest.toArray))
  | _ => .error (.starved out)

/-- The blocks up to the last one. -/
def blocks : (fuel : Nat) → Bits → Array UInt8 → Except Halt (Bits × Array UInt8)
  | 0, _, out => .error (.starved out)
  | fuel + 1, b, out => do
    let (last, b) ← number 1 b out
    let (kind, b) ← number 2 b out
    let (b, out) ←
      match kind with
      | 0 => stored b out
      | 1 => symbols fixedCodes (b.count + 1) b out
      | 2 => do
        let (c, b) ← writtenCodes b out
        symbols c (b.count + 1) b out
      | _ => .error .corrupt
    if last = 1 then return (b, out) else blocks fuel b out

/-- The two bytes at the beginning name the method, a window that is not too large, and no
dictionary. -/
def isHeader (a b : UInt8) : Bool :=
  a.toNat % 16 == 8 && a.toNat / 16 ≤ 7 && (a.toNat * 256 + b.toNat) % 31 == 0 &&
    !b.toNat.testBit 5

/-- What a stream holds. The four bytes of its checksum have to be there, whatever they are. -/
def unpack (b : Bytes) : Except Halt (Array UInt8) :=
  match b with
  | m :: f :: rest =>
    if !isHeader m f then .error .corrupt
    else do
      let (b, out) ← blocks (8 * rest.length + 1) (Bits.ofBytes rest) #[]
      if b.align.length < 4 then .error (.starved out) else return out
  | _ => .error (.starved #[])

end Cutout.Inflate

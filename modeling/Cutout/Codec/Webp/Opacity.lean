import Cutout.Codec.Webp.Lossless

/-!
# Opacity of lossy pictures

The opacity of a lossy picture is stored apart, without loss: as it is or as the green of a lossless
picture. Each value can be the difference from one that is guessed from those before it.
-/

namespace Cutout.Webp

/-- How an opacity is guessed. -/
inductive Guess where
  | zero
  | left
  | above
  /-- By both, less the value between them. -/
  | slope
  deriving DecidableEq, Repr

/-- The guess for the value after `done` ones in rows of `w`. In the first row only the value on the left
counts, in the first column only the one above. -/
def Guess.value (g : Guess) (w : Nat) (done : Array UInt8) : UInt8 :=
  let i := done.size
  let left := done.getD (i - 1) 0
  let above := done.getD (i - w) 0
  if i = 0 then 0
  else if g = .zero then 0
  else if i < w then left
  else if i % w = 0 then above
  else
    match g with
    | .zero => 0
    | .left => left
    | .above => above
    | .slope => sampleOf (signless left + signless above - signless (done.getD (i - w - 1) 0))
where
  /-- The number of a byte. -/
  signless (b : UInt8) : Int := b.toNat

/-- The values from their differences. -/
def Guess.undo (g : Guess) (w : Nat) (differences : List UInt8) : Array UInt8 :=
  differences.foldl (fun done d => done.push (d + g.value w done)) #[]

/-- How an opacity is guessed, by a number of two bits. -/
def guessOf : (n : Nat) → Guess
  | 0 => .zero
  | 1 => .left
  | 2 => .above
  | _ => .slope

/-- The opacity of the pixels of a picture of a given size. -/
def opacity (w h : Nat) : Bytes → Except ImageFault (Array UInt8)
  | [] => .error .truncated
  | kind :: b =>
    let kind := kind.toNat
    let undo := (guessOf (kind / 4 % 4)).undo w
    if 1 < kind / 16 % 4 then .error (fault "opacity preprocessing")
    else
      match kind % 4 with
      | 0 =>
        match Bytes.take? (w * h) b with
        | some (values, _) => .ok (undo values)
        | none => .error .truncated
      | 1 => do
        let (r, _) ← readBody w h (Bits.ofBytes b)
        return undo (r.toList.map Rgba.green)
      | _ => .error (fault "opacity compression")

end Cutout.Webp

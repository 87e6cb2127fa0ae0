import Cutout.Image.Fault
import Cutout.Image.Orientation

/-!
# Opened images

An image is read in two steps. Opening it reads what comes before the pixels and tells its size and
pixel type, so that a size that asks for too much memory can be refused; then the pixels are read, and
what has to be held besides them is granted as well.

Some kinds of files are left to readers that are no part of this library (`FurtherReaders`). All that is
known of them is what holds of every reader here (`Source.IsSound`).
-/

namespace Cutout

/-- An image of which everything before the pixels has been read. -/
structure Source where
  width : Nat
  height : Nat
  pixelType : PixelType
  /-- How the camera says that the picture is to be turned, if its notes can be read. -/
  orientation : Except ImageFault (Option Orientation)
  /-- Read the pixels with so much memory for what is held on the way to them. -/
  picture : (memory : Nat) → Except ImageFault Picture

/-- The most memory that an image can take. -/
def memoryLimit : Nat := 512 * 1024 * 1024

/-- A side that fits into four bytes. -/
def IsSide (n : Nat) : Prop :=
  n < 4294967296

instance (n : Nat) : Decidable (IsSide n) :=
  inferInstanceAs (Decidable (_ < _))

/-- With less memory the result is the same, or it is refused. -/
def IsFrugal {α : Type} (x : (memory : Nat) → Except ImageFault α) : Prop :=
  ∀ less memory, less ≤ memory → x less = x memory ∨ x less = .error (.limits .memory)

namespace Source

/-- The memory that the pixels take. -/
def size (s : Source) : Nat :=
  s.width * s.height * s.pixelType.bytes

/-- The picture as it is stored, unless it takes too much memory. The reader has what the pixels
leave. -/
def asStored (s : Source) : Except ImageFault Picture :=
  if memoryLimit < s.size then .error (.limits .memory) else s.picture (memoryLimit - s.size)

/-- The picture turned upright. The reader has all the memory. -/
def upright (s : Source) : Except ImageFault Picture := do
  let o ← s.orientation
  let p ← s.picture memoryLimit
  return p.orient (o.getD .asStored)

/-- The picture of a source has the size that was announced, its sides fit into four bytes, and all that
less memory does is that the picture is refused. -/
structure IsSound (s : Source) : Prop where
  width : IsSide s.width
  height : IsSide s.height
  picture : ∀ memory p, s.picture memory = .ok p → p.width = s.width ∧ p.height = s.height
  memory : IsFrugal s.picture

end Source

/-- Readers of files that the readers here leave to others: tagged images whose samples are compressed,
in tiles or of uncommon kinds, and photographs with four components. -/
class FurtherReaders where
  /-- Open a file of some format, if there is a reader for it. -/
  open? : ImageFormat → Bytes → Option (Except ImageFault Source)
  isSound : ∀ f b s, open? f b = some (.ok s) → s.IsSound

/-- There are no further readers. -/
instance FurtherReaders.none : FurtherReaders where
  open? _ _ := Option.none
  isSound _ _ _ h := nomatch h

/-- A file that is left to further readers, with the orientation that is read here. Without a reader it
needs what is not there. -/
def FurtherReaders.openOr [FurtherReaders] (u : Unsupported) (f : ImageFormat) (b : Bytes)
    (orientation : Except ImageFault (Option Orientation)) : Except ImageFault Source :=
  match open? f b with
  | Option.none => .error (.unsupported u)
  | some opened => opened.map fun s => { s with orientation := orientation }

/-- Two steps have a value if the first one has, and the second one has from there. -/
theorem bind_eq_ok_iff {ε α β : Type} {x : Except ε α} {f : α → Except ε β} {b : β} :
    x >>= f = .ok b ↔ ∃ a, x = .ok a ∧ f a = .ok b := by
  cases x with
  | error e =>
    constructor
    · intro h
      cases h
    · rintro ⟨a, h, -⟩
      cases h
  | ok a => exact ⟨fun h => ⟨a, rfl, h⟩, fun ⟨_, h, hb⟩ => Except.ok.inj h ▸ hb⟩

theorem map_eq_ok_iff {ε α β : Type} {x : Except ε α} {f : α → β} {b : β} :
    x.map f = .ok b ↔ ∃ a, x = .ok a ∧ f a = b := by
  cases x with
  | error e =>
    constructor
    · intro h
      cases h
    · rintro ⟨a, h, -⟩
      cases h
  | ok a => exact ⟨fun h => ⟨a, rfl, Except.ok.inj h⟩, fun ⟨_, h, hb⟩ => Except.ok.inj h ▸ congrArg _ hb⟩

namespace Source

theorem asStored_eq_ok_iff {s : Source} {p : Picture} :
    s.asStored = .ok p ↔ s.picture (memoryLimit - s.size) = .ok p ∧ s.size ≤ memoryLimit := by
  unfold asStored
  split
  · next hlarge =>
    constructor
    · intro h
      cases h
    · rintro ⟨-, hsmall⟩
      exact absurd hsmall (Nat.not_le.2 hlarge)
  · next hsmall => exact ⟨fun hp => ⟨hp, Nat.not_lt.1 hsmall⟩, And.left⟩

theorem upright_eq_ok_iff {s : Source} {q : Picture} :
    s.upright = .ok q ↔ ∃ tag p, s.orientation = .ok tag ∧ s.picture memoryLimit = .ok p ∧
      p.orient (tag.getD .asStored) = q := by
  unfold upright
  rw [bind_eq_ok_iff]
  refine exists_congr fun tag => ?_
  rw [bind_eq_ok_iff, ← exists_and_left]
  refine exists_congr fun p => and_congr_right fun _ => and_congr_right fun _ => ?_
  exact ⟨Except.ok.inj, congrArg Except.ok⟩

end Source

end Cutout

import Cutout.Codec.Encode
import Cutout.Codec.Open

/-!
# Cutters

A cutter takes an image file and answers with an image file in which the background is transparent. It
can fail, and it can crash; a crash carries a text at most. Whatever it answers is read again and
written into the container that was asked for.
-/

namespace Cutout

/-- How a cutter crashes. -/
inductive Crash where
  | saying (text : String)
  | silent
  deriving DecidableEq, Repr

/-- The text for a crash. -/
def Crash.message : Crash → String
  | saying t => t
  | silent => "unknown panic"

/-- Why there is no result. -/
inductive Mishap where
  | failure (f : Failure)
  | crash (c : Crash)
  deriving DecidableEq, Repr

/-- The text for a mishap. -/
def Mishap.message : Mishap → String
  | failure f => f.message
  | crash c => c.message

/-- A cutter. Even asking for its name can make it crash. -/
structure Cutter where
  name : Except Crash String
  cut : Bytes → Except Mishap Bytes

/-! ## Giving files to cutters

A cutter is given a file in one place only, and that place notes it: what comes of a file is a value
together with the cuts that were made on the way to it.
-/

/-- A cutter was given a file. -/
structure Cut where
  cutter : Cutter
  file : Bytes

/-- A value, and the cuts that were made on the way to it, in order. -/
structure Traced (α : Type) where
  value : α
  cuts : List Cut

/-- Do something with the value that needs no cutter. -/
def Traced.map {α β : Type} (f : α → β) (t : Traced α) : Traced β :=
  ⟨f t.value, t.cuts⟩

/-- Give a file to a cutter. -/
def Cutter.give (c : Cutter) (file : Bytes) : Traced (Except Mishap Bytes) :=
  ⟨c.cut file, [⟨c, file⟩]⟩

/-- Read the answer of a cutter, and write it into a container. -/
def Container.repack [FurtherReaders] (into : Container) (answer : Bytes) : Except Mishap Bytes := do
  let picture ← (readStored answer).mapError fun f => .failure (.image f)
  (into.encode picture).mapError .failure

/-- Cut out the picture in a file, and write it into a container. -/
def Cutter.deliver [FurtherReaders] (c : Cutter) (file : Bytes) (into : Container) :
    Traced (Except Mishap Bytes) :=
  (c.give file).map (·.bind into.repack)

/-- What comes of cutting out the picture in a file and writing it into a container. -/
def Cutter.process [FurtherReaders] (c : Cutter) (file : Bytes) (into : Container) :
    Except Mishap Bytes :=
  (c.deliver file into).value

end Cutout

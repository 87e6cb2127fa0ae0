import Cutout.Cutter

/-!
# Cutters without a model

Some cutters that need no model: they keep the left half of a picture, answer with something fixed,
give back what they get, or go wrong in one of the ways in which a cutter can.
-/

namespace Cutout.Cutter

/-- The left half of a picture; the rest is clear. -/
def leftHalf (r : Raster (Rgba UInt8)) : Raster (Rgba UInt8) :=
  Raster.ofFn r.width r.height fun x y =>
    if r.width / 2 ≤ x then Rgba.clear else r.getD x y Rgba.clear

/-- Write a picture as the answer of a cutter. -/
def answer (r : Raster (Rgba UInt8)) : Except Mishap Bytes :=
  (Container.png.encode r).mapError .failure

/-- Keeps the left half. -/
def half [FurtherReaders] (name : String) : Cutter where
  name := .ok name
  cut b := do
    let r ← (readStored b).mapError fun f => .failure (.image f)
    answer (leftHalf r)

/-- Answers with one picture. -/
def tile (name : String) (r : Raster (Rgba UInt8)) : Cutter where
  name := .ok name
  cut _ := answer r

/-- Gives back what it gets. -/
def echo (name : String) : Cutter where
  name := .ok name
  cut b := .ok b

/-- Answers with some bytes. -/
def fixed (name : String) (b : Bytes) : Cutter where
  name := .ok name
  cut _ := .ok b

/-- Fails. -/
def failing (name : String) (f : Failure) : Cutter where
  name := .ok name
  cut _ := .error (.failure f)

/-- Crashes. -/
def crashing (name : String) (c : Crash) : Cutter where
  name := .ok name
  cut _ := .error (.crash c)

/-- Crashes when it is asked for its name. -/
def nameless : Cutter where
  name := .error (.saying "model name table missing")
  cut _ := .ok []

end Cutout.Cutter

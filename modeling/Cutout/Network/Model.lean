import Cutout.Cutter
import Cutout.Image.Resize
import Cutout.Matte.Apply
import Cutout.Matte.Clean
import Cutout.Network.Layer
import Cutout.Settings

/-!
# Models

A model is a network that answers with a score for each pixel of a square picture. The picture is
turned upright and brought to the side that the network looks at; its samples are scaled by the
brightest one and standardised. The scores of the first channel become a matte, which is brought to
the size of the picture, cleaned if the settings say so, and applied.
-/

namespace Cutout

/-- A model that is loaded. -/
structure Model where
  name : String
  /-- The side of the pictures that the network looks at. -/
  inputSize : Nat
  /-- Mattes are cleaned. -/
  cleanMatte : Bool
  network : Network

/-- What is found at the place of a model. -/
inductive ModelFile where
  | missing
  | unreadable
  | network (n : Network)

/-- The library that runs networks, as far as it can stand in the way of a model. What it says to a
refusal is `none` where this is not told. -/
structure Backend where
  /-- Begin a session. -/
  session : Except (Option String) Unit := .ok ()
  /-- Have the session optimised. -/
  optimisation : Except (Option String) Unit := .ok ()
  /-- Give the session a number of threads. -/
  threads : Nat → Except (Option String) Unit
  /-- What is said about a place without a network. -/
  complaint : (path : String) → ModelFile → Option String := fun _ _ => none

namespace Backend

/-- A library whose sessions cannot be given a number of threads, and that does not say why. -/
def plain : Backend where
  threads _ := .error none

/-- The failure for something that the library refused. -/
def refusal (what about : String) : (said : Option String) → Failure
  | none => .inference what
  | some text => .inference (what ++ about ++ ": " ++ text)

/-- Prepare a session for a model. -/
def prepare (b : Backend) (threads : Option Nat) : Except Failure Unit := do
  b.session.mapError (refusal "Failed to create session builder" "")
  b.optimisation.mapError (refusal "Failed to set optimization level" "")
  match threads with
  | none => return ()
  | some n => (b.threads n).mapError (refusal "Failed to set intra threads" "")

end Backend

namespace Model

/-- Load the model of some settings. A number of threads is asked for before the file is opened. -/
def load (s : ModelSettings) (file : ModelFile) (b : Backend := .plain) : Except Failure Model :=
  match s.path with
  | none => .error (.settings "model.path is required to load an ONNX model")
  | some path => do
    b.prepare s.threads
    match file with
    | .network n => return ⟨s.name, s.inputSize, s.cleanMatte, n⟩
    | _ => .error (Backend.refusal "Failed to load model" (" " ++ path) (b.complaint path file))

/-! ## The picture as a tensor -/

/-- The mean of the samples of a channel over many pictures. -/
def mean : Nat → Float32
  | 0 => 0.485
  | 1 => 0.456
  | _ => 0.406

/-- Their deviation from it. -/
def deviation : Nat → Float32
  | 0 => 0.229
  | 1 => 0.224
  | _ => 0.225

/-- A channel of a pixel. -/
def channelOf (p : Rgb UInt8) : Nat → UInt8
  | 0 => p.red
  | 1 => p.green
  | _ => p.blue

/-- The brightest sample of a picture, and at least 1. -/
def brightest (r : Raster (Rgb UInt8)) : UInt8 :=
  r.pixels.foldl (fun m p => max m (max p.red (max p.green p.blue))) 1

/-- A sample of a channel, scaled by the brightest one and standardised. -/
def standardise (brightest : UInt8) (channel : Nat) (v : UInt8) : Float32 :=
  (v.toFloat32 / brightest.toFloat32 - mean channel) / deviation channel

/-- The tensor of a square picture, channel by channel and row by row. -/
def tensorOf (r : Raster (Rgb UInt8)) (side : Nat) : Tensor :=
  let top := brightest r
  Tensor.ofFn [1, 3, side, side] fun i =>
    let c := i / (side * side)
    let p := r.getD (i % side) (i % (side * side) / side) ⟨0, 0, 0⟩
    standardise top c (channelOf p c)

/-- The tensor that a network with pictures of a side gets. -/
def inputTensor (p : Picture) (side : Nat) : Tensor :=
  tensorOf (p.toRgb8.resizeRgb side side) side

/-! ## The answer as a matte -/

/-- The matte of an output: the scores of the first channel of the first picture. -/
def matteOf : Output → Except Failure Matte
  | .other => .error (.inference "Failed to extract output tensor")
  | .single t =>
    match t.shape with
    | [_, _, h, w] =>
      match Matte.ofScores (t.values.toList.take (h * w)) w h with
      | some m => .ok m
      | none => .error (.inference "Output tensor is smaller than its shape")
    | shape =>
      .error (.inference ("Expected 4D output tensor, got shape " ++ Tensor.shapeText shape))

/-- The matte of the first output of a network. -/
def predict (n : Network) (x : Tensor) : Except Failure Matte :=
  match n.run x with
  | none => .error (.inference "ONNX inference failed")
  | some [] => .error (.inference "Model produced no outputs")
  | some (o :: _) => matteOf o

/-! ## Cutting out -/

/-- The matte for a picture of a size. -/
def fit (m : Model) (matte : Matte) (w h : Nat) : Matte :=
  -- cleaning comes last, so that its result is not blurred again
  let matte : Matte := matte.resize w h
  if m.cleanMatte then Matte.clean matte else matte

/-- Cut out the picture in a file. -/
def cut [FurtherReaders] (m : Model) (file : Bytes) : Except Failure Bytes := do
  -- the network sees the picture without its opacity; the result keeps its colours
  let upright ← (readUpright file).mapError .image
  let picture := upright.toRgba8
  let matte ← predict m.network (inputTensor upright m.inputSize)
  match picture.cutBy? (m.fit matte picture.width picture.height) with
  | none => .error (.internal "Mask size does not match the input image")
  | some r => Container.png.encode r

/-- The cutter of a model. -/
def cutter [FurtherReaders] (m : Model) : Cutter where
  name := .ok m.name
  cut b := (m.cut b).mapError .failure

end Model

end Cutout

import Cutout.Network.Tensor

/-!
# Networks

A network takes a tensor and answers with several outputs, or fails to run. Only outputs of single
precision can be read. Apart from that nothing is known of a network; the small ones here are a single
layer over a square picture of three channels.
-/

namespace Cutout

/-- An output of a network. -/
inductive Output where
  | single (t : Tensor)
  /-- Numbers of another kind. -/
  | other

/-- A network: no answer means that it cannot run on a tensor. -/
structure Network where
  run : Tensor → Option (List Output)

/-- What a single layer does with a picture `x`. -/
inductive Layer where
  /-- `x` -/
  | identity
  /-- `-x` -/
  | negate
  /-- `x` where it is positive, else 0 -/
  | rectify
  /-- `x * a + b` -/
  | affine (a b : Float32)
  /-- One channel of `x` alone. -/
  | channel (index : Nat)
  /-- The same tensor for every `x`. -/
  | constant (t : Tensor)
  /-- The numbers of `x` in one row. -/
  | flatten
  /-- `-x` and then `x` -/
  | pair
  /-- `x` in whole numbers. -/
  | whole
  /-- Nothing. -/
  | silent

namespace Layer

/-- Change the sign. -/
def negation (t : Tensor) : Tensor :=
  t.map fun v => -v

/-- One channel of a square picture. -/
def channelOf (side index : Nat) (t : Tensor) : Tensor :=
  Tensor.ofFn [1, 1, side, side] fun i => t.entry (index * (side * side) + i)

/-- The outputs of a layer for a picture of a side. -/
def outputs (l : Layer) (side : Nat) (x : Tensor) : List Output :=
  match l with
  | identity => [.single x]
  | negate => [.single (negation x)]
  | rectify => [.single (x.map fun v => if 0 < v then v else 0)]
  | affine a b => [.single (x.map fun v => v * a + b)]
  | channel i => [.single (channelOf side i x)]
  | constant t => [.single t]
  | flatten => [.single (Tensor.ofFn [1, volume x.shape] x.entry)]
  | pair => [.single (negation x), .single x]
  | whole => [.other]
  | silent => []

end Layer

/-- The network of one layer, which runs on square pictures of one side. -/
def Network.ofLayer (side : Nat) (l : Layer) : Network where
  run x := if x.shape = [1, 3, side, side] then some (l.outputs side x) else none

end Cutout

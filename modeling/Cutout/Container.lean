import Cutout.Text.Lower

/-!
# Containers

The two image formats that a result can be delivered in, and how a request names one.
-/

namespace Cutout

/-- A format for results. -/
inductive Container where
  | png
  | webp
  deriving DecidableEq, Repr

namespace Container

/-- The container of a request that names none. -/
def standard : Container :=
  png

/-- The name of a container, which is also the extension of its files. -/
def name : Container → String
  | png => "png"
  | webp => "webp"

/-- The media type of a container. -/
def mediaType (c : Container) : String :=
  "image/" ++ c.name

/-- The name under which a result is saved. -/
def fileName (c : Container) : String :=
  "result." ++ c.name

/-- A container that is not offered, by its name in lowercase. -/
structure Unknown where
  name : String
  deriving DecidableEq, Repr

/-- The text for a container that is not offered. -/
def Unknown.message (u : Unknown) : String :=
  "Unsupported output format: " ++ u.name ++ ". Use png or webp."

/-- The container that a text names, in any letter case. -/
def parse (s : String) : Except Unknown Container :=
  match Text.lowercase s with
  | "png" => .ok png
  | "webp" => .ok webp
  | lowered => .error ⟨lowered⟩

end Container

end Cutout

import BulkSuppress.Yaml.Token

/-
  YAML documents as nodes. An alias stands for the node that its anchor was last put on, where
  anchors that have been given a new meaning share their slots with later ones.
-/

namespace BulkSuppress.Yaml

/-- A scalar. -/
structure Scalar where
  text : String
  style : Style
  /-- The full name of the tag, if there is one. -/
  tag : Option String := none
deriving DecidableEq, Repr

/-- A node, with the place where it starts. -/
inductive Node where
  | scalar (at' : Position) (s : Scalar)
  | sequence (at' : Position) (items : List Node)
  | mapping (at' : Position) (entries : List (Node × Node))
  /-- Whatever node the slot leads to. -/
  | alias (slot : Nat)
deriving Repr, Inhabited

/-- A document: its node, and where the slots of its aliases lead. -/
structure Document where
  root : Node
  /-- The serial number of the anchored node for each slot, last word first. -/
  slots : List (Nat × Nat) := []
  /-- The anchored nodes by serial number. -/
  anchored : List (Nat × Node) := []
deriving Repr

/-- The node that a node stands for. -/
def Document.resolve (d : Document) : Node → Node
  | .alias slot =>
    ((d.slots.lookup slot).bind fun serial => d.anchored.lookup serial).getD (.alias slot)
  | n => n

end BulkSuppress.Yaml

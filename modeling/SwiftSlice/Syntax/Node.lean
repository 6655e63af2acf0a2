/-
Syntax trees. A node has a kind, a span of bytes of the source and children in
source order; a child may play a role in its parent, and a node may stand for a
token that the source lacks. A walk of the tree is written twice: as a loop over
a stack of nodes, which is what runs, and as the recursive pre-order.
-/

import SwiftSlice.Text.Utf8

namespace SwiftSlice

open Text

/-- The part that a child plays in its parent, where it has one that matters. -/
inductive Role
  | name
  | declarationKind
deriving DecidableEq, Repr

/-- What a node is, apart from where it stands. -/
structure NodeLabel where
  kind : String
  role : Option Role := none
  isNamed : Bool := true
  isMissing : Bool := false
deriving DecidableEq, Repr

/-- A node of a syntax tree; its span runs from `start` up to `stop`, in bytes. -/
inductive Node
  | branch (label : NodeLabel) (start stop : Nat) (children : List Node)
deriving Repr

namespace Node

def label : Node → NodeLabel
  | .branch label _ _ _ => label

def start : Node → Nat
  | .branch _ start _ _ => start

def stop : Node → Nat
  | .branch _ _ stop _ => stop

def children : Node → List Node
  | .branch _ _ _ children => children

def kind (node : Node) : String :=
  node.label.kind

def isNamed (node : Node) : Bool :=
  node.label.isNamed

instance : Inhabited Node := ⟨.branch ⟨"source_file", none, true, false⟩ 0 0 []⟩

/-- The first child that plays a role. -/
def child? (node : Node) (role : Role) : Option Node :=
  node.children.find? (·.label.role == some role)

/-! ### Walking a tree -/

mutual

/-- The number of nodes of a tree. -/
def size : Node → Nat
  | .branch _ _ _ children => 1 + sizeList children

/-- The number of nodes of a list of trees. -/
def sizeList : List Node → Nat
  | [] => 0
  | node :: rest => node.size + sizeList rest

end

theorem sizeList_append (left right : List Node) :
    sizeList (left ++ right) = sizeList left + sizeList right := by
  induction left with
  | nil => simp [sizeList]
  | cons node rest inductionHypothesis =>
    simp only [List.cons_append, sizeList, inductionHypothesis, Nat.add_assoc]

theorem size_eq (node : Node) : node.size = 1 + sizeList node.children := by
  cases node
  simp [size, children]

/-- Visits the nodes on a stack: the top one first, then its children in order, then the rest. -/
def walkStack : List Node → List Node
  | [] => []
  | node :: rest => node :: walkStack (node.children ++ rest)
termination_by stack => sizeList stack
decreasing_by
  rw [sizeList_append, sizeList, size_eq]
  omega

/-- A node and all that is below it, in source order. -/
def walk (node : Node) : List Node :=
  walkStack [node]

mutual

/-- A node, followed by the pre-orders of its children. -/
def preorder : Node → List Node
  | .branch label start stop children => .branch label start stop children :: preorderList children

/-- The pre-orders of some nodes, one after the other. -/
def preorderList : List Node → List Node
  | [] => []
  | node :: rest => node.preorder ++ preorderList rest

end

/-- Whether some token at or below a node is wrong or missing. -/
def hasError (node : Node) : Bool :=
  node.walk.any fun current => current.kind == "ERROR" || current.label.isMissing

/-! ### Source text -/

/-- The bytes of the source from `start` up to `stop`. -/
def slice (source : Bytes) (start stop : Nat) : Bytes :=
  (source.drop start).take (stop - start)

/-- The bytes that a node spans. -/
def bytes (source : Bytes) (node : Node) : Bytes :=
  slice source node.start node.stop

/-- The text that a node spans. -/
def text (source : Bytes) (node : Node) : String :=
  decodeLenient (node.bytes source)

/-- The line of an offset, counted from one. -/
def lineAt (source : Bytes) (offset : Nat) : Nat :=
  (source.take offset).count 10 + 1

end Node

end SwiftSlice

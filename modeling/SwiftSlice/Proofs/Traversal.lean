/-
Walking a syntax tree. The loop takes a node from the top of a stack, visits it and
puts its children in its place. What is visited, followed by the pre-orders of the
trees on the stack, is the same before and after each turn: it is the pre-order of
the tree that the walk started from. Each turn takes one node off the stack for good,
so the loop ends, and then there is nothing behind what is visited.

What is collected on a walk is therefore collected from every node of the tree, at
whatever depth, and from each of them once.
-/

import SwiftSlice.Proofs.Naming
import SwiftSlice.Proofs.Preview
import SwiftSlice.Proofs.Reordering

namespace SwiftSlice

open Text

namespace Node

/-! ### Pre-orders -/

/-- The pre-orders of some trees are those of the trees one after the other. -/
theorem preorderList_eq_flatMap (nodes : List Node) :
    preorderList nodes = nodes.flatMap preorder := by
  induction nodes with
  | nil => rfl
  | cons node rest inductionHypothesis =>
    rw [preorderList, inductionHypothesis, List.flatMap_cons]

theorem preorderList_append (left right : List Node) :
    preorderList (left ++ right) = preorderList left ++ preorderList right := by
  simp only [preorderList_eq_flatMap, List.flatMap_append]

/-! ### The loop -/

/-- One turn of the loop, on the nodes visited so far and the stack, whose top stands in front: the
top is visited, and its children take its place. -/
inductive VisitStep : List Node × List Node → List Node × List Node → Prop
  | visit (visited rest : List Node) (node : Node) :
      VisitStep (visited, node :: rest) (visited ++ [node], node.children ++ rest)

section

variable {before after : List Node × List Node}

/-- A turn changes nothing about what is visited and what is to come together. -/
theorem VisitStep.whole (step : VisitStep before after) :
    after.1 ++ preorderList after.2 = before.1 ++ preorderList before.2 := by
  cases step with
  | visit visited rest node =>
    rw [preorderList_append, preorderList, preorder_eq, List.append_assoc]
    rfl

/-- A turn takes one node off the stack, its children stay. -/
theorem VisitStep.sizeList (step : VisitStep before after) :
    sizeList before.2 = sizeList after.2 + 1 := by
  cases step with
  | visit visited rest node =>
    rw [Node.sizeList, sizeList_append, size_eq]
    omega

/-- No loop goes on for ever. -/
theorem wellFounded_visitStep : WellFounded fun after before => VisitStep before after := by
  refine Subrelation.wf (fun {after before} step => ?_)
    (measure fun state : List Node × List Node => Node.sizeList state.2).wf
  show Node.sizeList after.2 < Node.sizeList before.2
  rw [step.sizeList]
  exact Nat.lt_succ_self _

/-- Whatever has been visited is the beginning of the pre-order, and the stack has the rest. -/
theorem whole_of_steps {root : Node} {state : List Node × List Node}
    (steps : Relation.ReflTransGen VisitStep ([], [root]) state) :
    state.1 ++ preorderList state.2 = root.preorder := by
  induction steps with
  | refl => simp [preorderList]
  | tail _ step inductionHypothesis => exact step.whole.trans inductionHypothesis

end

/-- The loop works the stack off. -/
theorem visit_steps (visited stack : List Node) :
    Relation.ReflTransGen VisitStep (visited, stack) (visited ++ walkStack stack, []) := by
  fun_induction walkStack stack generalizing visited with
  | case1 =>
    rw [List.append_nil]
  | case2 node rest inductionHypothesis =>
    have further := inductionHypothesis (visited ++ [node])
    rw [List.append_assoc] at further
    exact .head (.visit visited rest node) further

theorem walk_steps (root : Node) :
    Relation.ReflTransGen VisitStep ([], [root]) (root.walk, []) :=
  visit_steps [] [root]

/-- A walk visits the pre-order. -/
theorem walk_eq_preorder (root : Node) : root.walk = root.preorder := by
  have whole := whole_of_steps (walk_steps root)
  rwa [preorderList, List.append_nil] at whole

end Node

/-! ### Names -/

theorem capitalizedName?_eq_some_iff {source : Bytes} {node : Node} {name : String} :
    capitalizedName? source node = some name ↔
      IsReference source node ∧ unquoteName (node.text source) = name := by
  constructor
  · intro found
    rw [capitalizedName?, Option.ite_none_right_eq_some] at found
    obtain ⟨sort, found⟩ := found
    obtain ⟨capitalized, isName⟩ := Option.ite_none_right_eq_some.1 found
    exact ⟨⟨List.contains_iff_mem.1 sort, capitalized⟩, Option.some.inj isName⟩
  · rintro ⟨reference, rfl⟩
    exact reference.capitalizedName?

/-- The names at and below a node are those of the references there. -/
theorem mem_capitalizedNames_iff {source : Bytes} {top : Node} {name : String} :
    name ∈ capitalizedNames source top ↔
      ∃ node : Node, node.IsWithin top ∧ IsReference source node ∧
        unquoteName (node.text source) = name := by
  simp only [capitalizedNames, NameSet.mem_ofList, List.mem_filterMap, Node.mem_walk_iff,
    capitalizedName?_eq_some_iff]

/-- The names at and below a node are its own and those at and below its children. -/
theorem capitalizedNames_eq_union (source : Bytes) (node : Node) :
    capitalizedNames source node =
      NameSet.ofList (capitalizedName? source node).toList ∪
        NameSet.unions (node.children.map (capitalizedNames source)) := by
  refine NameSet.eq_of_mem_iff fun name => ?_
  have own : name ∈ NameSet.ofList (capitalizedName? source node).toList ↔
      capitalizedName? source node = some name := by
    rw [NameSet.mem_ofList, Option.mem_toList]
  have below : name ∈ NameSet.unions (node.children.map (capitalizedNames source)) ↔
      ∃ child ∈ node.children, ∃ other ∈ child.preorder,
        capitalizedName? source other = some name := by
    simp only [NameSet.mem_unions_map, capitalizedNames, NameSet.mem_ofList, List.mem_filterMap,
      Node.walk_eq_preorder]
  rw [NameSet.mem_union, own, below, capitalizedNames, NameSet.mem_ofList, List.mem_filterMap,
    Node.walk_eq_preorder, Node.preorder_eq, List.exists_mem_cons_iff,
    Node.preorderList_eq_flatMap]
  refine or_congr_right ?_
  simp only [List.mem_flatMap]
  constructor
  · rintro ⟨other, ⟨child, isChild, isBelow⟩, found⟩
    exact ⟨child, isChild, other, isBelow, found⟩
  · rintro ⟨child, isChild, other, isBelow, found⟩
    exact ⟨other, ⟨child, isChild, isBelow⟩, found⟩

/-- The loop over a stack ends, from whatever state, and takes a tree to its pre-order: the node,
then the pre-orders of its children from left to right. At every moment the stack holds what the
pre-order has behind what is visited, and each place of the tree is visited once, in source order.
So the capitalized names are those of the identifiers at any depth, and they are collected from a
node and from its children separately. -/
theorem Node.walk_exact (source : Bytes) (root : Node) :
    (WellFounded fun after before => VisitStep before after) ∧
      Relation.ReflTransGen VisitStep ([], [root]) (root.walk, []) ∧
      (∀ visited stack, Relation.ReflTransGen VisitStep ([], [root]) (visited, stack) →
        visited ++ stack.flatMap preorder = root.walk) ∧
      root.walk = root.preorder ∧
      root.preorder = root :: root.children.flatMap preorder ∧
      (∃ places : List (List Nat), places.Pairwise (· < ·) ∧
        places.map root.at? = root.walk.map some ∧
        ∀ place, root.at? place ≠ none → place ∈ places) ∧
      (∀ name, name ∈ capitalizedNames source root ↔
        ∃ node : Node, node.IsWithin root ∧ IsReference source node ∧
          unquoteName (node.text source) = name) ∧
      capitalizedNames source root =
        NameSet.ofList (capitalizedName? source root).toList ∪
          NameSet.unions (root.children.map (capitalizedNames source)) := by
  refine ⟨wellFounded_visitStep, walk_steps root, fun visited stack steps => ?_,
    walk_eq_preorder root, ?_, ?_, fun name => mem_capitalizedNames_iff,
    capitalizedNames_eq_union source root⟩
  · rw [← preorderList_eq_flatMap, walk_eq_preorder]
    exact whole_of_steps steps
  · rw [preorder_eq, preorderList_eq_flatMap]
  · obtain ⟨places, arePlaces⟩ := exists_arePlaces root
    rw [walk_eq_preorder]
    exact ⟨places, arePlaces.ascend, arePlaces.atPlaces, arePlaces.complete⟩

end SwiftSlice

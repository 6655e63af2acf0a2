/-
Where a preview is found in a syntax tree. A node stands at a place, the list of the
child numbers on the way down to it, and places are compared like words; so the
first of some nodes in source order is the one whose place is least. The two
searches come to such nodes. The one that works through a stack finds the first macro
call in no other one that has a closure below it: what it finds in a list of trees is
what the first tree has that has any. The one that works off a queue goes down level by
level: it ends at the first depth with a closure, at the leftmost one there.

Both are compared with what holds of the tree alone, so that none of the two loops
has to be read to know which body is extracted.
-/

import Mathlib
import SwiftSlice.Snippet

namespace SwiftSlice

open Text

/-! ### Places in a tree -/

namespace Node

/-- The node at a place, which lists from the top down the children to go to. Places are compared
like words, so that a node comes before all that is below it, and what is below one child before
what is below the next: they ascend in source order. -/
def at? : Node → List Nat → Option Node
  | node, [] => some node
  | node, step :: rest => node.children[step]?.bind (·.at? rest)

theorem at?_cons_eq_some_iff {node found : Node} {step : Nat} {rest : List Nat} :
    node.at? (step :: rest) = some found ↔
      ∃ child, node.children[step]? = some child ∧ child.at? rest = some found :=
  Option.bind_eq_some_iff

theorem size_le_sizeList {node : Node} {nodes : List Node} (member : node ∈ nodes) :
    node.size ≤ sizeList nodes := by
  induction nodes with
  | nil => exact absurd member List.not_mem_nil
  | cons head rest inductionHypothesis =>
    rw [sizeList]
    rcases List.mem_cons.1 member with rfl | inRest
    · omega
    · have := inductionHypothesis inRest
      omega

/-- What holds of a node whenever it holds of the children holds of every node. -/
theorem induction_children {holds : Node → Prop}
    (step : ∀ node : Node, (∀ child ∈ node.children, holds child) → holds node) (node : Node) :
    holds node :=
  step node fun child _inNode => induction_children step child
termination_by node.size
decreasing_by
  have := size_le_sizeList _inNode
  rw [size_eq node]
  omega

/-- A node comes first, then all that is below it. -/
theorem preorder_eq (node : Node) : node.preorder = node :: preorderList node.children := by
  cases node
  rfl

/-- Holds of the places below a node from a child on, in ascending order, if they are where the
nodes of a list stand. -/
structure PlacesFrom (root : Node) (offset : Nat) (nodes : List Node) (places : List (List Nat)) :
    Prop where
  ascend : places.Pairwise (· < ·)
  atPlaces : places.map root.at? = nodes.map some
  behind : ∀ place ∈ places, ∃ step rest, place = step :: rest ∧ offset ≤ step
  complete : ∀ step rest, offset ≤ step → root.at? (step :: rest) ≠ none → step :: rest ∈ places

/-- Holds of the places of a tree, in ascending order, if its pre-order stands there. -/
structure ArePlaces (root : Node) (places : List (List Nat)) : Prop where
  ascend : places.Pairwise (· < ·)
  atPlaces : places.map root.at? = root.preorder.map some
  complete : ∀ place, root.at? place ≠ none → place ∈ places

theorem exists_placesFrom {root : Node}
    (each : ∀ child ∈ root.children, ∃ places, ArePlaces child places) {offset : Nat}
    {nodes : List Node} (rest : root.children.drop offset = nodes) :
    ∃ places, PlacesFrom root offset (preorderList nodes) places := by
  induction nodes generalizing offset with
  | nil =>
    refine ⟨[], List.Pairwise.nil, rfl, fun place member => absurd member List.not_mem_nil, ?_⟩
    intro step others behind isPlace
    have outside : root.children[step]? = none :=
      List.getElem?_eq_none_iff.2 ((List.drop_eq_nil_iff.1 rest).trans behind)
    rw [at?, outside] at isPlace
    exact absurd rfl isPlace
  | cons child siblings inductionHypothesis =>
    have atOffset : root.children[offset]? = some child := by
      rw [← Nat.add_zero offset, ← List.getElem?_drop, rest]
      rfl
    have next : root.children.drop (offset + 1) = siblings := by
      rw [← List.drop_drop, rest]
      rfl
    obtain ⟨inChild, isIn⟩ := each child (List.mem_of_getElem? atOffset)
    obtain ⟨later, isLater⟩ := inductionHypothesis next
    refine ⟨inChild.map (offset :: ·) ++ later, ?_, ?_, ?_, ?_⟩
    · refine List.pairwise_append.2 ⟨?_, isLater.ascend, ?_⟩
      · exact isIn.ascend.map _ fun _ _ less => List.cons_lt_cons_iff.2 (.inr ⟨rfl, less⟩)
      · intro place member other inLater
        obtain ⟨below, _, rfl⟩ := List.mem_map.1 member
        obtain ⟨step, others, rfl, behind⟩ := isLater.behind other inLater
        exact List.cons_lt_cons_iff.2 (.inl behind)
    · have below : (inChild.map (offset :: ·)).map root.at? = inChild.map child.at? := by
        rw [List.map_map]
        refine List.map_congr_left fun place _ => ?_
        rw [Function.comp_apply, at?, atOffset, Option.bind_some]
      rw [List.map_append, below, isIn.atPlaces, isLater.atPlaces, preorderList, List.map_append]
    · intro place member
      rcases List.mem_append.1 member with inHere | inLater
      · obtain ⟨below, _, rfl⟩ := List.mem_map.1 inHere
        exact ⟨offset, below, rfl, le_refl offset⟩
      · obtain ⟨step, others, rfl, behind⟩ := isLater.behind place inLater
        exact ⟨step, others, rfl, (Nat.le_succ offset).trans behind⟩
    · intro step others behind isPlace
      rcases Nat.eq_or_lt_of_le behind with rfl | later
      · rw [at?, atOffset, Option.bind_some] at isPlace
        exact List.mem_append_left _ (List.mem_map_of_mem (isIn.complete others isPlace))
      · exact List.mem_append_right _ (isLater.complete step others later isPlace)

/-- Places ascend in source order: in ascending order they are where the pre-order stands. -/
theorem exists_arePlaces (root : Node) : ∃ places, ArePlaces root places := by
  induction root using induction_children with
  | step root inductionHypothesis =>
    obtain ⟨places, isBelow⟩ := exists_placesFrom inductionHypothesis List.drop_zero
    refine ⟨[] :: places, List.pairwise_cons.2 ⟨fun place member => ?_, isBelow.ascend⟩, ?_, ?_⟩
    · obtain ⟨step, rest, rfl, _⟩ := isBelow.behind place member
      exact List.nil_lt_cons step rest
    · rw [List.map_cons, isBelow.atPlaces, preorder_eq, List.map_cons]
      rfl
    · intro place isPlace
      cases place with
      | nil => exact List.mem_cons_self
      | cons step rest =>
        exact List.mem_cons_of_mem _ (isBelow.complete step rest (Nat.zero_le step) isPlace)

end Node

/-! ### Searches -/

/-- What a search comes to that takes the first place where something is found. -/
def FindsFirst (found : List Nat → Node → Prop) : Option Node → Prop
  | none => ∀ place node, ¬ found place node
  | some node => ∃ place, found place node ∧ ∀ other another, found other another → place ≤ other

/-- What is found below some children, at a place that begins with the number of the child. -/
def FoundAmong (found : Node → List Nat → Node → Prop) (children : List Node) (place : List Nat)
    (node : Node) : Prop :=
  ∃ step rest child, place = step :: rest ∧ children[step]? = some child ∧ found child rest node

theorem FindsFirst.congr {found others : List Nat → Node → Prop} {result : Option Node}
    (same : ∀ place node, found place node ↔ others place node) (first : FindsFirst found result) :
    FindsFirst others result := by
  obtain rfl : found = others := funext fun place => funext fun node => propext (same place node)
  exact first

theorem FindsFirst.among {found : Node → List Nat → Node → Prop} {search : Node → Option Node}
    {children : List Node}
    (each : ∀ child ∈ children, FindsFirst (found child) (search child)) :
    FindsFirst (FoundAmong found children) (children.findSome? search) := by
  cases searched : children.findSome? search with
  | none =>
    rintro _ node ⟨step, rest, child, rfl, atStep, isFound⟩
    have member := List.mem_of_getElem? atStep
    have nothing := each child member
    rw [List.findSome?_eq_none_iff.1 searched child member] at nothing
    exact nothing rest node isFound
  | some node =>
    obtain ⟨before, child, after, rfl, hit, misses⟩ := List.findSome?_eq_some_iff.1 searched
    have here := each child (by simp)
    rw [hit] at here
    obtain ⟨rest, isFound, first⟩ := here
    refine ⟨before.length :: rest, ⟨_, _, child, rfl, by simp, isFound⟩, ?_⟩
    rintro _ another ⟨step, others, sibling, rfl, atStep, alsoFound⟩
    rcases Nat.lt_trichotomy step before.length with earlier | rfl | later
    · rw [List.getElem?_append_left earlier] at atStep
      have member := List.mem_of_getElem? atStep
      have nothing := each sibling (by simp [member])
      rw [misses sibling member] at nothing
      exact absurd alsoFound (nothing others another)
    · obtain rfl : child = sibling := by simpa using atStep
      exact List.cons_le_cons _ (first others another alsoFound)
    · exact le_of_lt (List.cons_lt_cons_iff.2 (.inl later))

/-! ### The closure of a macro call -/

/-- Holds of the place of a closure below a node, seen from the node. -/
structure IsClosureBelow (node : Node) (place : List Nat) (closure : Node) : Prop where
  below : place ≠ []
  atPlace : node.at? place = some closure
  isClosure : closure.kind = "lambda_literal"

/-- Holds of the closure below a node that is least deep, and leftmost at its depth. -/
structure IsOutermostClosure (node : Node) (place : List Nat) (closure : Node) : Prop where
  isBelow : IsClosureBelow node place closure
  outermost : ∀ other inner, IsClosureBelow node other inner →
    place.length < other.length ∨ place.length = other.length ∧ place ≤ other

/-- The leftmost closure at a depth. -/
def closureAt? : Nat → Node → Option Node
  | 0, node => if node.kind = "lambda_literal" then some node else none
  | depth + 1, node => node.children.findSome? (closureAt? depth)

/-- What stands at a depth is below the children one level higher. -/
theorem findSome?_flatMap_children (depth : Nat) (level : List Node) :
    (level.flatMap Node.children).findSome? (closureAt? depth) =
      level.findSome? (closureAt? (depth + 1)) := by
  induction level with
  | nil => rfl
  | cons node rest inductionHypothesis =>
    rw [List.flatMap_cons, List.findSome?_append, inductionHypothesis, List.findSome?_cons,
      closureAt?]
    cases node.children.findSome? (closureAt? depth) <;> rfl

/-- A queue is worked off one level at a time. -/
theorem closureInQueue?_append (level next : List Node) :
    closureInQueue? (level ++ next) = (level.findSome? (closureAt? 0) <|>
      closureInQueue? (next ++ level.flatMap Node.children)) := by
  induction level generalizing next with
  | nil => simp
  | cons node rest inductionHypothesis =>
    rw [List.cons_append, closureInQueue?, List.findSome?_cons, closureAt?]
    by_cases isClosure : node.kind = "lambda_literal"
    · rw [if_pos isClosure, if_pos isClosure]
      rfl
    · rw [if_neg isClosure, if_neg isClosure, List.append_assoc, inductionHypothesis,
        List.flatMap_cons, List.append_assoc]

theorem sizeList_flatMap_children (level : List Node) :
    Node.sizeList (level.flatMap Node.children) + level.length = Node.sizeList level := by
  induction level with
  | nil => rfl
  | cons node rest inductionHypothesis =>
    rw [List.flatMap_cons, Node.sizeList_append, Node.sizeList, Node.size_eq, List.length_cons]
    omega

/-- The search comes to the leftmost closure at the first depth that has one. -/
theorem closureInQueue?_eq_some_iff (level : List Node) (closure : Node) :
    closureInQueue? level = some closure ↔
      ∃ depth, level.findSome? (closureAt? depth) = some closure ∧
        ∀ less < depth, level.findSome? (closureAt? less) = none := by
  have leveled := closureInQueue?_append level []
  rw [List.append_nil, List.nil_append] at leveled
  rw [leveled]
  cases top : level.findSome? (closureAt? 0) with
  | some other =>
    rw [Option.orElse_eq_orElse, Option.orElse_some]
    constructor
    · intro same
      exact ⟨0, top.trans same, fun less below => absurd below (Nat.not_lt_zero less)⟩
    · rintro ⟨depth, found, misses⟩
      cases depth with
      | zero => exact top.symm.trans found
      | succ depth =>
        exact absurd (top.symm.trans (misses 0 (Nat.succ_pos depth))) (Option.some_ne_none other)
  | none =>
    rw [Option.orElse_eq_orElse, Option.orElse_none]
    cases level with
    | nil => simp [closureInQueue?]
    | cons node rest =>
      rw [closureInQueue?_eq_some_iff]
      simp only [findSome?_flatMap_children]
      constructor
      · rintro ⟨depth, found, misses⟩
        refine ⟨depth + 1, found, fun less below => ?_⟩
        cases less with
        | zero => exact top
        | succ less => exact misses less (Nat.lt_of_succ_lt_succ below)
      · rintro ⟨depth, found, misses⟩
        cases depth with
        | zero => exact absurd (top.symm.trans found) (Option.some_ne_none closure).symm
        | succ depth =>
          exact ⟨depth, found, fun less below => misses (less + 1) (Nat.succ_lt_succ below)⟩
termination_by Node.sizeList level
decreasing_by
  have := sizeList_flatMap_children (node :: rest)
  rw [List.length_cons] at this
  omega

/-- Holds of a closure at a place of a given depth. -/
def IsClosureAt (depth : Nat) (node : Node) (place : List Nat) (closure : Node) : Prop :=
  place.length = depth ∧ node.at? place = some closure ∧ closure.kind = "lambda_literal"

theorem findsFirst_closureAt? (depth : Nat) (node : Node) :
    FindsFirst (IsClosureAt depth node) (closureAt? depth node) := by
  induction depth generalizing node with
  | zero =>
    rw [closureAt?]
    by_cases isClosure : node.kind = "lambda_literal"
    · rw [if_pos isClosure]
      exact ⟨[], ⟨rfl, rfl, isClosure⟩, fun other _ _ => not_lt.1 (List.not_lt_nil other)⟩
    · rw [if_neg isClosure]
      rintro place inner ⟨here, atPlace, isInner⟩
      rw [List.length_eq_zero_iff.1 here] at atPlace
      rw [← Option.some.inj atPlace] at isInner
      exact isClosure isInner
  | succ depth inductionHypothesis =>
    refine FindsFirst.congr (fun place closure => ?_)
      (FindsFirst.among fun child _ => inductionHypothesis child)
    constructor
    · rintro ⟨step, rest, child, rfl, atStep, deep, atRest, isClosure⟩
      exact ⟨congrArg Nat.succ deep, Node.at?_cons_eq_some_iff.2 ⟨child, atStep, atRest⟩, isClosure⟩
    · rintro ⟨deep, atPlace, isClosure⟩
      obtain ⟨step, rest, rfl⟩ := List.exists_cons_of_length_eq_add_one deep
      obtain ⟨child, atStep, atRest⟩ := Node.at?_cons_eq_some_iff.1 atPlace
      exact ⟨step, rest, child, rfl, atStep, Nat.succ.inj deep, atRest, isClosure⟩

/-- The closure that the search for one comes to is the outermost one. -/
theorem exists_isOutermostClosure {node closure : Node}
    (found : outermostClosure? node = some closure) :
    ∃ place, IsOutermostClosure node place closure := by
  obtain ⟨depth, atDepth, misses⟩ := (closureInQueue?_eq_some_iff node.children closure).1 found
  have first := findsFirst_closureAt? (depth + 1) node
  rw [closureAt?, atDepth] at first
  obtain ⟨place, ⟨deep, atPlace, isClosure⟩, least⟩ := first
  refine ⟨place, ⟨List.ne_nil_of_length_eq_add_one deep, atPlace, isClosure⟩, ?_⟩
  rintro other inner ⟨below, atOther, isInner⟩
  obtain ⟨less, high⟩ := Nat.exists_eq_succ_of_ne_zero (List.length_pos_of_ne_nil below).ne'
  rw [deep, high]
  rcases Nat.lt_trichotomy less depth with higher | rfl | deeper
  · -- Nothing was found at a smaller depth.
    have nothing := findsFirst_closureAt? (less + 1) node
    rw [closureAt?, misses less higher] at nothing
    exact absurd ⟨high, atOther, isInner⟩ (nothing other inner)
  · exact .inr ⟨rfl, least other inner ⟨high, atOther, isInner⟩⟩
  · exact .inl (Nat.succ_lt_succ deeper)

/-- Holds of a node with a closure below it. -/
def HasClosure (node : Node) : Prop :=
  ∃ place closure, IsClosureBelow node place closure

theorem outermostClosure?_eq_none_iff (node : Node) :
    outermostClosure? node = none ↔ ¬ HasClosure node := by
  constructor
  · rintro nothing ⟨place, closure, below, atPlace, isClosure⟩
    obtain ⟨depth, deep⟩ := Nat.exists_eq_succ_of_ne_zero (List.length_pos_of_ne_nil below).ne'
    have somewhere : ∃ depth, node.children.findSome? (closureAt? depth) ≠ none := by
      refine ⟨depth, fun nowhere => ?_⟩
      have first := findsFirst_closureAt? (depth + 1) node
      rw [closureAt?, nowhere] at first
      exact first place closure ⟨deep, atPlace, isClosure⟩
    -- The first depth with a closure is where the search would end.
    classical
    obtain ⟨found, atDepth⟩ := Option.ne_none_iff_exists'.1 (Nat.find_spec somewhere)
    have ends := (closureInQueue?_eq_some_iff node.children found).2
      ⟨Nat.find somewhere, atDepth, fun less below => not_not.1 (Nat.find_min somewhere below)⟩
    exact Option.some_ne_none found (ends.symm.trans nothing)
  · intro closureless
    by_contra found
    obtain ⟨closure, isFound⟩ := Option.ne_none_iff_exists'.1 found
    obtain ⟨place, outermost⟩ := exists_isOutermostClosure isFound
    exact closureless ⟨place, closure, outermost.isBelow⟩

/-! ### The first preview -/

/-- Holds of a node that starts with the preview macro: a number sign and its name, white space
between them at most, and no longer word. A whole file does not count. -/
structure IsPreviewCall (source : Bytes) (node : Node) : Prop where
  notFile : node.kind ≠ "source_file"
  spelled : ∃ gap rest, node.bytes source = 35 :: (gap ++ encode "Preview" ++ rest) ∧
    (∀ byte ∈ gap, isBlankByte byte = true) ∧
    ∀ byte, rest.head? = some byte → isWordByte byte = false

theorem hashWord?_eq_some_iff {bytes word : Bytes} (isWord : ∀ byte ∈ word, isWordByte byte = true)
    (begins : ∀ byte, word.head? = some byte → isBlankByte byte = false) (nonempty : word ≠ []) :
    hashWord? bytes = some word ↔
      ∃ gap rest, bytes = 35 :: (gap ++ word ++ rest) ∧
        (∀ byte ∈ gap, isBlankByte byte = true) ∧
        ∀ byte, rest.head? = some byte → isWordByte byte = false := by
  constructor
  · intro found
    cases bytes with
    | nil => exact absurd found (Option.some_ne_none word).symm
    | cons first rest =>
      rw [hashWord?, Option.ite_none_right_eq_some, beq_iff_eq, Option.some_inj] at found
      obtain ⟨rfl, rfl⟩ := found
      refine ⟨rest.takeWhile isBlankByte, (rest.dropWhile isBlankByte).dropWhile isWordByte, ?_,
        fun byte member => List.mem_takeWhile_imp member, fun byte isFirst => ?_⟩
      · rw [List.append_assoc, List.takeWhile_append_dropWhile, List.takeWhile_append_dropWhile]
      · have stops := List.head?_dropWhile_not isWordByte (rest.dropWhile isBlankByte)
        rw [isFirst] at stops
        simpa using stops
  · rintro ⟨gap, rest, rfl, onGap, ends⟩
    rw [hashWord?, if_pos (by rfl), List.append_assoc, List.dropWhile_append_of_pos onGap]
    obtain ⟨first, others, rfl⟩ := List.exists_cons_of_ne_nil nonempty
    rw [List.cons_append, List.dropWhile_cons_of_neg (by simp [begins first rfl]),
      ← List.cons_append, List.takeWhile_append_of_pos isWord]
    have stops : rest.takeWhile isWordByte = [] := by
      cases rest with
      | nil => rfl
      | cons next after => exact List.takeWhile_cons_of_neg (by simp [ends next rfl])
    rw [stops, List.append_nil]

theorem isSnippet_iff (source : Bytes) (node : Node) :
    isSnippet source node = true ↔ IsPreviewCall source node := by
  rw [isSnippet, Bool.and_eq_true, bne_iff_ne, beq_iff_eq,
    hashWord?_eq_some_iff (by decide +kernel) (by decide +kernel) (by decide +kernel)]
  exact ⟨fun ⟨notFile, spelled⟩ => ⟨notFile, spelled⟩, fun ⟨notFile, spelled⟩ => ⟨notFile, spelled⟩⟩

/-- Holds of the place of a macro call that stands in no other one. -/
structure IsTopmostPreview (source : Bytes) (root : Node) (place : List Nat) (node : Node) :
    Prop where
  atPlace : root.at? place = some node
  isCall : IsPreviewCall source node
  topmost : ∀ above outer, above <+: place → above ≠ place → root.at? above = some outer →
    ¬ IsPreviewCall source outer

theorem isTopmostPreview_nil_iff {source : Bytes} {root node : Node} :
    IsTopmostPreview source root [] node ↔ root = node ∧ IsPreviewCall source root := by
  constructor
  · rintro ⟨atPlace, isCall, _⟩
    obtain rfl : root = node := Option.some.inj atPlace
    exact ⟨rfl, isCall⟩
  · rintro ⟨rfl, isCall⟩
    exact ⟨rfl, isCall, fun above _ isAbove proper => absurd (List.prefix_nil.1 isAbove) proper⟩

theorem isTopmostPreview_cons_iff {source : Bytes} {root node : Node} {step : Nat}
    {rest : List Nat} :
    IsTopmostPreview source root (step :: rest) node ↔ ¬ IsPreviewCall source root ∧
      ∃ child, root.children[step]? = some child ∧ IsTopmostPreview source child rest node := by
  constructor
  · rintro ⟨atPlace, isCall, topmost⟩
    obtain ⟨child, atStep, atRest⟩ := Node.at?_cons_eq_some_iff.1 atPlace
    refine ⟨topmost [] root (List.nil_prefix) (by simp) rfl, child, atStep, atRest, isCall, ?_⟩
    intro above outer isAbove proper atAbove
    have isPrefix : step :: above <+: step :: rest := (List.prefix_cons_inj step).2 isAbove
    exact topmost (step :: above) outer isPrefix (by simpa using proper)
      (Node.at?_cons_eq_some_iff.2 ⟨child, atStep, atAbove⟩)
  · rintro ⟨plain, child, atStep, atRest, isCall, topmost⟩
    refine ⟨Node.at?_cons_eq_some_iff.2 ⟨child, atStep, atRest⟩, isCall, ?_⟩
    intro above outer isAbove proper atAbove
    rcases List.prefix_cons_iff.1 isAbove with rfl | ⟨others, rfl, isPrefix⟩
    · rwa [← Option.some.inj atAbove]
    · obtain ⟨same, atSame, atOthers⟩ := Node.at?_cons_eq_some_iff.1 atAbove
      obtain rfl : child = same := Option.some.inj (atStep.symm.trans atSame)
      exact topmost others outer isPrefix (by simpa using proper) atOthers

theorem snippetClosureIn?_append (source : Bytes) (nodes rest : List Node) :
    snippetClosureIn? source (nodes ++ rest) =
      (snippetClosureIn? source nodes <|> snippetClosureIn? source rest) := by
  fun_induction snippetClosureIn? source nodes with
  | case1 => simp
  | case2 node others isCall closure found =>
    rw [List.cons_append, snippetClosureIn?, if_pos isCall, found]
    rfl
  | case3 node others isCall nothing inductionHypothesis =>
    rw [List.cons_append, snippetClosureIn?, if_pos isCall, nothing]
    exact inductionHypothesis
  | case4 node others plain inductionHypothesis =>
    rw [List.cons_append, snippetClosureIn?, if_neg plain, ← List.append_assoc]
    exact inductionHypothesis

theorem snippetClosureIn?_eq_findSome? (source : Bytes) (nodes : List Node) :
    snippetClosureIn? source nodes =
      nodes.findSome? fun node => snippetClosureIn? source [node] := by
  induction nodes with
  | nil => rw [snippetClosureIn?]; rfl
  | cons node rest inductionHypothesis =>
    rw [← List.singleton_append, snippetClosureIn?_append, inductionHypothesis,
      List.singleton_append, List.findSome?_cons]
    cases snippetClosureIn? source [node] <;> rfl

/-- Holds of the place of a topmost macro call, and of the closure that is found in it. -/
def IsPreviewClosure (source : Bytes) (root : Node) (place : List Nat) (closure : Node) : Prop :=
  ∃ node, IsTopmostPreview source root place node ∧ outermostClosure? node = some closure

/-- The search comes to the closure of the first topmost macro call that has one. -/
theorem findsFirst_snippetClosureIn? (source : Bytes) (root : Node) :
    FindsFirst (IsPreviewClosure source root) (snippetClosureIn? source [root]) := by
  induction root using Node.induction_children with
  | step root inductionHypothesis =>
    rw [snippetClosureIn?]
    by_cases isCall : isSnippet source root = true
    · have call := (isSnippet_iff source root).1 isCall
      -- Below a macro call there is no topmost one.
      have here (place : List Nat) (closure : Node) :
          IsPreviewClosure source root place closure ↔
            place = [] ∧ outermostClosure? root = some closure := by
        constructor
        · rintro ⟨node, topmost, found⟩
          cases place with
          | nil => exact ⟨rfl, (isTopmostPreview_nil_iff.1 topmost).1 ▸ found⟩
          | cons step rest => exact absurd call (isTopmostPreview_cons_iff.1 topmost).1
        · rintro ⟨rfl, found⟩
          exact ⟨root, isTopmostPreview_nil_iff.2 ⟨rfl, call⟩, found⟩
      rw [if_pos isCall]
      cases found : outermostClosure? root with
      | some closure =>
        refine ⟨[], (here [] closure).2 ⟨rfl, found⟩, fun other _ _ => ?_⟩
        exact not_lt.1 (List.not_lt_nil other)
      | none =>
        rw [snippetClosureIn?]
        intro place closure isPreview
        exact Option.some_ne_none closure (((here place closure).1 isPreview).2.symm.trans found)
    · have plain : ¬ IsPreviewCall source root :=
        fun call => isCall ((isSnippet_iff source root).2 call)
      rw [if_neg isCall, List.append_nil, snippetClosureIn?_eq_findSome?]
      refine FindsFirst.congr (fun place closure => ?_) (FindsFirst.among inductionHypothesis)
      constructor
      · rintro ⟨step, rest, child, rfl, atStep, node, topmost, found⟩
        exact ⟨node, isTopmostPreview_cons_iff.2 ⟨plain, child, atStep, topmost⟩, found⟩
      · rintro ⟨node, topmost, found⟩
        cases place with
        | nil => exact absurd (isTopmostPreview_nil_iff.1 topmost).2 plain
        | cons step rest =>
          obtain ⟨_, child, atStep, isTopmost⟩ := isTopmostPreview_cons_iff.1 topmost
          exact ⟨step, rest, child, rfl, atStep, node, isTopmost, found⟩

/-- Holds of the first topmost macro call with a closure below it. -/
structure IsFirstPreview (source : Bytes) (root : Node) (place : List Nat) (node : Node) :
    Prop where
  isTopmost : IsTopmostPreview source root place node
  hasClosure : HasClosure node
  first : ∀ other another, IsTopmostPreview source root other another → HasClosure another →
    place ≤ other

/-! ### The body -/

/-- Holds of the first node of a kind among some nodes. -/
def IsFirstOf (kind : String) (nodes : List Node) (node : Node) : Prop :=
  ∃ before after, nodes = before ++ node :: after ∧ node.kind = kind ∧
    ∀ other ∈ before, other.kind ≠ kind

/-- Holds of the last node of a kind among some nodes. -/
def IsLastOf (kind : String) (nodes : List Node) (node : Node) : Prop :=
  IsFirstOf kind nodes.reverse node

/-- Holds of the offsets between which the body of a closure stands: from the end of its first
opening brace to the start of its last closing one. A brace that is missing among the children is
taken to stand at that end of the closure. -/
structure IsBodySpan (closure : Node) (start stop : Nat) : Prop where
  opening : (∃ brace, IsFirstOf "\x7b" closure.children brace ∧ start = brace.stop) ∨
    (∀ child ∈ closure.children, child.kind ≠ "\x7b") ∧ start = closure.start
  closing : (∃ brace, IsLastOf "\x7d" closure.children brace ∧ stop = brace.start) ∨
    (∀ child ∈ closure.children, child.kind ≠ "\x7d") ∧ stop = closure.stop

theorem eq_elim_find?_iff (kind : String) (nodes : List Node) (offset : Node → Nat)
    (value default : Nat) :
    value = (nodes.find? (·.kind == kind)).elim default offset ↔
      (∃ node, IsFirstOf kind nodes node ∧ value = offset node) ∨
        (∀ node ∈ nodes, node.kind ≠ kind) ∧ value = default := by
  have isFirstOf_iff (node : Node) :
      IsFirstOf kind nodes node ↔ nodes.find? (·.kind == kind) = some node := by
    simp only [IsFirstOf, List.find?_eq_some_iff_append, beq_iff_eq, Bool.not_eq_true',
      beq_eq_false_iff_ne]
    exact ⟨fun ⟨before, after, cut, sort, others⟩ => ⟨sort, before, after, cut, others⟩,
      fun ⟨sort, before, after, cut, others⟩ => ⟨before, after, cut, sort, others⟩⟩
  have none_iff : (∀ node ∈ nodes, node.kind ≠ kind) ↔ nodes.find? (·.kind == kind) = none := by
    simp only [List.find?_eq_none, beq_iff_eq, ne_eq]
  simp only [isFirstOf_iff, none_iff]
  cases nodes.find? (·.kind == kind) <;> simp

theorem isBodySpan_iff (closure : Node) (start stop : Nat) :
    IsBodySpan closure start stop ↔
      start = (closure.children.find? (·.kind == "\x7b")).elim closure.start Node.stop ∧
        stop =
          (closure.children.reverse.find? (·.kind == "\x7d")).elim closure.stop Node.start := by
  rw [eq_elim_find?_iff, eq_elim_find?_iff]
  simp only [List.mem_reverse]
  exact ⟨fun span => ⟨span.opening, span.closing⟩, fun ⟨opening, closing⟩ => ⟨opening, closing⟩⟩

/-- Holds of the text of the body of a file's first preview. -/
def IsPreviewBody (source : Bytes) (root : Node) (body : String) : Prop :=
  ∃ place node below closure start stop, IsFirstPreview source root place node ∧
    IsOutermostClosure node below closure ∧ IsBodySpan closure start stop ∧
    body = decodeLenient (Node.slice source start stop)

theorem IsFirstPreview.unique {source : Bytes} {root : Node} {place other : List Nat}
    {node another : Node} (isFirst : IsFirstPreview source root place node)
    (isOther : IsFirstPreview source root other another) : node = another := by
  have same : place = other := le_antisymm
    (isFirst.first other another isOther.isTopmost isOther.hasClosure)
    (isOther.first place node isFirst.isTopmost isFirst.hasClosure)
  subst same
  exact Option.some.inj (isFirst.isTopmost.atPlace.symm.trans isOther.isTopmost.atPlace)

theorem IsOutermostClosure.unique {node closure another : Node} {place other : List Nat}
    (isOutermost : IsOutermostClosure node place closure)
    (isOther : IsOutermostClosure node other another) : closure = another := by
  have same : place = other := by
    rcases isOutermost.outermost other another isOther.isBelow with lower | ⟨level, least⟩
    · rcases isOther.outermost place closure isOutermost.isBelow with higher | ⟨level, _⟩
      · exact absurd higher (Nat.lt_asymm lower)
      · exact absurd level lower.ne'
    · rcases isOther.outermost place closure isOutermost.isBelow with higher | ⟨_, atMost⟩
      · exact absurd level higher.ne'
      · exact le_antisymm least atMost
  subst same
  exact Option.some.inj (isOutermost.isBelow.atPlace.symm.trans isOther.isBelow.atPlace)

theorem IsBodySpan.unique {closure : Node} {start stop otherStart otherStop : Nat}
    (span : IsBodySpan closure start stop) (other : IsBodySpan closure otherStart otherStop) :
    start = otherStart ∧ stop = otherStop := by
  rw [isBodySpan_iff] at span other
  exact ⟨span.1.trans other.1.symm, span.2.trans other.2.symm⟩

theorem IsPreviewBody.unique {source : Bytes} {root : Node} {body other : String}
    (isBody : IsPreviewBody source root body) (isOther : IsPreviewBody source root other) :
    body = other := by
  obtain ⟨_, node, _, closure, start, stop, first, outermost, span, rfl⟩ := isBody
  obtain ⟨_, _, _, _, _, _, otherFirst, otherOutermost, otherSpan, rfl⟩ := isOther
  obtain rfl := first.unique otherFirst
  obtain rfl := outermost.unique otherOutermost
  obtain ⟨rfl, rfl⟩ := span.unique otherSpan
  rfl

theorem isPreviewBody_of_snippetBody? {source : Bytes} {root : Node} {body : String}
    (extracted : snippetBody? source root = some body) : IsPreviewBody source root body := by
  obtain ⟨closure, found, rfl⟩ := Option.map_eq_some_iff.1 extracted
  have finds := findsFirst_snippetClosureIn? source root
  rw [found] at finds
  obtain ⟨place, ⟨node, topmost, isClosure⟩, least⟩ := finds
  obtain ⟨below, outermost⟩ := exists_isOutermostClosure isClosure
  refine ⟨place, node, below, closure, _, _, ⟨topmost, ⟨below, closure, outermost.isBelow⟩, ?_⟩,
    outermost, (isBodySpan_iff closure _ _).2 ⟨rfl, rfl⟩, rfl⟩
  intro other another isTopmost hasClosure
  have notNone : outermostClosure? another ≠ none :=
    fun nothing => (outermostClosure?_eq_none_iff another).1 nothing hasClosure
  obtain ⟨inner, isInner⟩ := Option.ne_none_iff_exists'.1 notNone
  exact least other inner ⟨another, isTopmost, isInner⟩

theorem snippetBody?_eq_none_iff (source : Bytes) (root : Node) :
    snippetBody? source root = none ↔
      ∀ place node, IsTopmostPreview source root place node → ¬ HasClosure node := by
  rw [snippetBody?, Option.map_eq_none_iff]
  have finds := findsFirst_snippetClosureIn? source root
  constructor
  · intro nothing place node topmost
    rw [nothing] at finds
    refine (outermostClosure?_eq_none_iff node).1 (Option.eq_none_iff_forall_ne_some.2 ?_)
    exact fun closure found => finds place closure ⟨node, topmost, found⟩
  · intro closureless
    cases found : snippetClosureIn? source [root] with
    | none => rfl
    | some closure =>
      rw [found] at finds
      obtain ⟨place, ⟨node, topmost, isClosure⟩, _⟩ := finds
      have nothing := (outermostClosure?_eq_none_iff node).2 (closureless place node topmost)
      exact absurd (nothing.symm.trans isClosure) (Option.some_ne_none closure).symm

/-- On every tree the body of the first preview is taken from the first topmost macro call that has
a closure below it, and there from the outermost closure; there is none exactly if no topmost macro
call has a closure below it. -/
theorem previewBody_exact (source : Bytes) (root : Node) :
    (snippetBody? source root = none ↔
      ∀ place node, IsTopmostPreview source root place node → ¬ HasClosure node) ∧
      ∀ body, snippetBody? source root = some body ↔ IsPreviewBody source root body := by
  refine ⟨snippetBody?_eq_none_iff source root, fun body => ⟨isPreviewBody_of_snippetBody?, ?_⟩⟩
  intro isBody
  cases extracted : snippetBody? source root with
  | some other => exact congrArg some ((isPreviewBody_of_snippetBody? extracted).unique isBody)
  | none =>
    obtain ⟨place, node, _, _, _, _, isFirst, _⟩ := isBody
    exact absurd isFirst.hasClosure
      ((snippetBody?_eq_none_iff source root).1 extracted place node isFirst.isTopmost)

end SwiftSlice

/-
Top-level code is neither lost nor doubled. There is one way to cut the children of
the root into single nodes and runs from an `#if` to the `#endif` that closes it,
and this is how they are cut. A segment makes a declaration if it is a node that
holds code, or a run with such a node in it; the declarations of a file are made by
these segments, one by each and in their order, and the text of a declaration is
what its segment spans. Where the nodes stand in order in the source, so do the
spans of the declarations, and none of them overlaps another.

The count of open blocks carries the cutting: inside a run some block is open as
long as a node follows, so that a run cannot end early, nor be longer than it is.
-/

import SwiftSlice.Proofs.Numbering

namespace SwiftSlice

open Text

/-! ### Runs -/

/-- What a node adds to the number of open blocks. -/
def blockChange (source : Bytes) (node : Node) : Int :=
  match conditional? source node with
  | some .opening => 1
  | some .closing => -1
  | _ => 0

/-- The number of blocks that some nodes open, less the number that they close. -/
def balance (source : Bytes) (nodes : List Node) : Int :=
  (nodes.map (blockChange source)).sum

theorem balance_cons (source : Bytes) (node : Node) (nodes : List Node) :
    balance source (node :: nodes) = blockChange source node + balance source nodes := by
  rw [balance, List.map_cons, List.sum_cons, balance]

theorem balance_concat (source : Bytes) (nodes : List Node) (node : Node) :
    balance source (nodes ++ [node]) = balance source nodes + blockChange source node := by
  rw [balance, List.map_append, List.sum_append, List.map_singleton, List.sum_singleton, balance]

/-- Holds of the nodes behind the start of some open blocks, up to the `#endif` that closes the
outermost one, and of the nodes that come behind it. While a node follows, some block is open; and
if the outermost block is never closed, the nodes go on to the end. -/
structure ClosesBlock (source : Bytes) (depth : Nat) (inside behind : List Node) : Prop where
  isOpen : ∀ before node after, inside = before ++ node :: after →
    0 < depth + balance source before
  ends : (∃ before last, inside = before ++ [last] ∧ conditional? source last = some .closing ∧
      depth + balance source before = 1) ∨
    (behind = [] ∧ 0 < depth + balance source inside)

theorem closesBlock_nil {source : Bytes} {depth : Nat} (positive : 0 < depth) :
    ClosesBlock source depth [] [] where
  isOpen := fun before node after cut => by simp at cut
  ends := .inr ⟨rfl, by simpa [balance] using positive⟩

/-- The first node behind some open blocks changes their number. -/
theorem ClosesBlock.cons {source : Bytes} {depth deeper : Nat} {node : Node}
    {inside behind : List Node} (closes : ClosesBlock source deeper inside behind)
    (positive : 0 < depth) (changed : (deeper : Int) = depth + blockChange source node) :
    ClosesBlock source depth (node :: inside) behind where
  isOpen := by
    intro before other after cut
    cases before with
    | nil => simpa [balance] using positive
    | cons first rest =>
      obtain ⟨rfl, further⟩ := List.cons.inj cut
      have still := closes.isOpen rest other after further
      rw [balance_cons]
      omega
  ends := by
    rw [balance_cons, ← Int.add_assoc, ← changed]
    refine closes.ends.imp_left ?_
    rintro ⟨before, last, rfl, closing, outermost⟩
    refine ⟨node :: before, last, rfl, closing, ?_⟩
    rw [balance_cons]
    omega

/-- Cutting some nodes behind open blocks stops where the outermost block is closed. -/
theorem closesBlock_takeBlock (source : Bytes) {depth : Nat} (positive : 0 < depth)
    (nodes : List Node) :
    ClosesBlock source depth (takeBlock source depth nodes).1 (takeBlock source depth nodes).2 := by
  induction nodes generalizing depth with
  | nil => exact closesBlock_nil positive
  | cons node rest inductionHypothesis =>
    unfold takeBlock
    split
    · next opening =>
      exact (inductionHypothesis depth.succ_pos).cons positive (by simp [blockChange, opening])
    · next closing =>
      split
      · next outermost =>
        refine ⟨fun before other after cut => ?_, .inl ⟨[], node, rfl, closing, ?_⟩⟩
        · obtain ⟨rfl, _⟩ := List.append_eq_singleton_iff.1 cut.symm |>.resolve_right (by simp)
          simpa [balance] using positive
        · simp only [balance, List.map_nil, List.sum_nil]
          omega
      · next inner =>
        refine (inductionHypothesis (by omega)).cons positive ?_
        simp only [blockChange, closing]
        omega
    · next noOpening noClosing =>
      refine (inductionHypothesis positive).cons positive ?_
      rw [blockChange]
      split
      · next opening => exact absurd opening noOpening
      · next closing => exact absurd closing noClosing
      · simp

/-- A run that is followed by more of the nodes of another run would have closed before. -/
theorem ClosesBlock.not_longer {source : Bytes} {depth : Nat} {inside more behind after : List Node}
    (short : ClosesBlock source depth inside (more ++ after))
    (long : ClosesBlock source depth (inside ++ more) behind) : more = [] := by
  cases more with
  | nil => rfl
  | cons node rest =>
    have still := long.isOpen inside node rest rfl
    rcases short.ends with ⟨before, last, rfl, closing, outermost⟩ | ⟨nothing, _⟩
    · rw [balance_concat, blockChange, closing] at still
      dsimp only at still
      omega
    · exact absurd nothing (by simp)

theorem ClosesBlock.unique {source : Bytes} {depth : Nat} {inside other behind after : List Node}
    (closes : ClosesBlock source depth inside behind)
    (also : ClosesBlock source depth other after) (same : inside ++ behind = other ++ after) :
    inside = other ∧ behind = after := by
  rcases List.append_eq_append_iff.1 same with ⟨more, rfl, rfl⟩ | ⟨more, rfl, rfl⟩
  · obtain rfl := closes.not_longer also
    simp
  · obtain rfl := also.not_longer closes
    simp

/-! ### Cuts -/

/-- Holds of some nodes and the segments that they are cut into. A node that opens no block stands
alone, be it a stray `#endif`; one that opens a block stands with what comes up to its end. -/
inductive CutInto (source : Bytes) : List Node → List Segment → Prop
  | nil : CutInto source [] []
  | single {node : Node} {behind : List Node} {cut : List Segment}
      (plain : conditional? source node ≠ some .opening) (rest : CutInto source behind cut) :
      CutInto source (node :: behind) (.single node :: cut)
  | block {first : Node} {nodes inside behind : List Node} {cut : List Segment}
      (opens : conditional? source first = some .opening) (whole : inside ++ behind = nodes)
      (closes : ClosesBlock source 1 inside behind) (rest : CutInto source behind cut) :
      CutInto source (first :: nodes) (.block first inside :: cut)

theorem cutInto_segments (source : Bytes) (nodes : List Node) :
    CutInto source nodes (segments source nodes) := by
  fun_induction segments source nodes with
  | case1 => exact .nil
  | case2 node rest opens inductionHypothesis =>
    exact .block opens (takeBlock_append source 1 rest)
      (closesBlock_takeBlock source Nat.one_pos rest) inductionHypothesis
  | case3 node rest plain inductionHypothesis => exact .single plain inductionHypothesis

theorem CutInto.unique {source : Bytes} {nodes : List Node} {cut other : List Segment}
    (isCut : CutInto source nodes cut) (isOther : CutInto source nodes other) : cut = other := by
  induction isCut generalizing other with
  | nil =>
    cases isOther
    rfl
  | single plain _ inductionHypothesis =>
    cases isOther with
    | single _ rest => rw [inductionHypothesis rest]
    | block opens _ _ _ => exact absurd opens plain
  | block opens whole closes _ inductionHypothesis =>
    cases isOther with
    | single plain _ => exact absurd opens plain
    | block _ alsoWhole alsoCloses rest =>
      obtain ⟨rfl, rfl⟩ := closes.unique alsoCloses (whole.trans alsoWhole.symm)
      rw [inductionHypothesis rest]

/-- There is one cut, the one that is made. -/
theorem cutInto_iff (source : Bytes) (nodes : List Node) (cut : List Segment) :
    CutInto source nodes cut ↔ cut = segments source nodes := by
  refine ⟨fun isCut => isCut.unique (cutInto_segments source nodes), ?_⟩
  rintro rfl
  exact cutInto_segments source nodes

/-! ### Segments with code -/

namespace Segment

/-- The first node of a segment. -/
def first : Segment → Node
  | .single node => node
  | .block first _ => first

/-- The last node of a segment. -/
def last : Segment → Node
  | .single node => node
  | .block first rest => rest.getLastD first

/-- Where a segment starts in the source. -/
def start (segment : Segment) : Nat :=
  segment.first.start

/-- Where a segment stops in the source. -/
def stop (segment : Segment) : Nat :=
  segment.last.stop

/-- Holds of the segments with code: an item on its own that is neither an import nor a preview, or
a block with an item that is no preview. -/
def hasCode (source : Bytes) : Segment → Bool
  | .single node =>
    isItem node && itemKind source node != .importing && itemKind source node != .snippet
  | .block first rest =>
    (first :: rest).any fun node => isItem node && itemKind source node != .snippet

theorem first_mem_nodes (segment : Segment) : segment.first ∈ segment.nodes := by
  cases segment with
  | single node => exact List.mem_singleton_self node
  | block first rest => exact List.mem_cons_self

theorem last_mem_nodes (segment : Segment) : segment.last ∈ segment.nodes := by
  cases segment with
  | single node => exact List.mem_singleton_self node
  | block first rest =>
    rw [last, List.getLastD_eq_getLast?, nodes]
    cases isLast : rest.getLast? with
    | none => exact List.mem_cons_self
    | some node => exact List.mem_cons_of_mem first (List.mem_of_getLast? isLast)

/-- The unit of a segment has the items of the segment and reaches from its first node to its
last. -/
theorem unit_of_content {source : Bytes} {segment : Segment} {unit : CodeUnit}
    (code : segment.content source = .code unit) :
    unit.items = segment.nodes.filter isItem ∧ unit.first = segment.first ∧
      unit.last = segment.last := by
  cases segment with
  | single node =>
    obtain ⟨isAnItem, kind, _, rfl⟩ := (content_single_eq_code_iff source node unit).1 code
    exact ⟨by rw [nodes, List.filter_singleton, isAnItem]; rfl, rfl, rfl⟩
  | block first rest =>
    obtain ⟨_, rfl⟩ := (content_block_eq_code_iff source first rest unit).1 code
    exact ⟨rfl, rfl, rfl⟩

theorem exists_unit_iff_hasCode (source : Bytes) (segment : Segment) :
    (∃ unit, segment.content source = .code unit) ↔ segment.hasCode source = true := by
  cases segment with
  | single node =>
    simp only [content_single_eq_code_iff, hasCode, Bool.and_eq_true, bne_iff_ne, ne_eq]
    cases itemKind source node <;> simp
  | block first rest =>
    simp only [content_block_eq_code_iff, hasCode, List.any_eq_true, Bool.and_eq_true, bne_iff_ne,
      List.mem_filter, and_assoc]
    exact ⟨fun ⟨_, code, _⟩ => code, fun code => ⟨_, code, rfl⟩⟩

/-- Holds of a segment and the declaration that it makes, as far as the span of the segment decides
it. -/
structure IsRecordedAs (source : Bytes) (path : String) (segment : Segment)
    (declaration : Declaration) : Prop where
  text : declaration.sourceText =
    decodeLenient (Node.slice source segment.start segment.stop)
  file : declaration.originFile = path
  startLine : declaration.startLine = Node.lineAt source segment.start
  endLine : declaration.endLine = Node.lineAt source segment.stop

theorem isRecordedAs_of_content {source : Bytes} {segment : Segment} {unit : CodeUnit}
    (code : segment.content source = .code unit) (path : String) (index : Int) :
    segment.IsRecordedAs source path (unit.declaration source path index) := by
  obtain ⟨_, isFirst, isLast⟩ := unit_of_content code
  exact ⟨by rw [start, stop, ← isFirst, ← isLast]; rfl, rfl, by rw [start, ← isFirst]; rfl,
    by rw [stop, ← isLast]; rfl⟩

end Segment

/-- The segments of a file that have code, in order. -/
def codeSegments (source : Bytes) (root : Node) : List Segment :=
  (segments source root.children).filter (·.hasCode source)

/-- Each segment with code makes one unit, and no other segment makes any. -/
theorem forall₂_codeUnits (source : Bytes) (root : Node) :
    List.Forall₂ (fun segment unit => segment.content source = .code unit)
      (codeSegments source root) (codeUnits source root) := by
  rw [codeSegments, codeUnits, contents]
  generalize segments source root.children = cut
  induction cut with
  | nil => exact .nil
  | cons segment rest inductionHypothesis =>
    rw [List.map_cons]
    cases code : segment.hasCode source with
    | true =>
      obtain ⟨unit, made⟩ := (segment.exists_unit_iff_hasCode source).2 code
      rw [List.filter_cons_of_pos code, List.filterMap_cons_some (by rw [made]; rfl)]
      exact .cons made inductionHypothesis
    | false =>
      have noUnit : (segment.content source).unit? = none := by
        cases content : segment.content source with
        | code unit =>
          exact absurd ((segment.exists_unit_iff_hasCode source).1 ⟨unit, content⟩) (by simp [code])
        | _ => rfl
      rw [List.filter_cons_of_neg (by simp [code]), List.filterMap_cons_none noUnit]
      exact inductionHypothesis

/-- The declaration at a place of a file is made by the segment with code at that place. -/
theorem exists_codeSegment_of_declaration {source : Bytes} {root : Node} {path : String}
    {startIndex : Int} {offset : Nat} {declaration : Declaration}
    (made : (fileRecord source root path startIndex).declarations[offset]? = some declaration) :
    ∃ segment unit, (codeSegments source root)[offset]? = some segment ∧
      segment.content source = .code unit ∧ unit ∈ codeUnits source root ∧
      declaration = unit.declaration source path (startIndex + offset) := by
  rw [getElem?_declarations_fileRecord] at made
  obtain ⟨unit, atOffset, rfl⟩ := Option.map_eq_some_iff.1 made
  obtain ⟨sameLength, codes⟩ := List.forall₂_iff_get.1 (forall₂_codeUnits source root)
  obtain ⟨isUnit, same⟩ := List.getElem?_eq_some_iff.1 atOffset
  have code := codes offset (sameLength ▸ isUnit) isUnit
  rw [List.get_eq_getElem, List.get_eq_getElem, same] at code
  exact ⟨_, unit, List.getElem?_eq_getElem (sameLength ▸ isUnit), code,
    List.mem_of_getElem? atOffset, rfl⟩

/-- Each segment with code makes one declaration, and these are all. -/
theorem forall₂_declarations (source : Bytes) (root : Node) (path : String) (startIndex : Int) :
    List.Forall₂ (Segment.IsRecordedAs source path) (codeSegments source root)
      (fileRecord source root path startIndex).declarations := by
  have sameLength : (codeSegments source root).length =
      (fileRecord source root path startIndex).declarations.length :=
    (forall₂_codeUnits source root).length_eq.trans List.length_mapIdx.symm
  refine List.forall₂_iff_get.2 ⟨sameLength, fun offset isSegment isDeclaration => ?_⟩
  obtain ⟨segment, unit, atOffset, code, _, made⟩ :=
    exists_codeSegment_of_declaration (List.getElem?_eq_getElem isDeclaration)
  obtain rfl : (codeSegments source root)[offset] = segment :=
    Option.some.inj ((List.getElem?_eq_getElem isSegment).symm.trans atOffset)
  rw [List.get_eq_getElem, List.get_eq_getElem, made]
  exact Segment.isRecordedAs_of_content code path _

/-! ### Spans -/

/-- Holds of nodes that stand one behind the other in the source. -/
structure InOrder (nodes : List Node) : Prop where
  forward : ∀ node ∈ nodes, node.start ≤ node.stop
  apart : nodes.Pairwise fun before after => before.stop ≤ after.start

namespace InOrder

variable {source : Bytes}

/-- Nodes in order are apart within each segment and from one segment to another. -/
theorem apart_segments {nodes : List Node} (ordered : InOrder nodes) :
    (∀ segment ∈ segments source nodes,
      segment.nodes.Pairwise fun before after => before.stop ≤ after.start) ∧
      (segments source nodes).Pairwise fun before after =>
        ∀ node ∈ before.nodes, ∀ other ∈ after.nodes, node.stop ≤ other.start := by
  have apart := ordered.apart
  rwa [← flatMap_segments source nodes, List.pairwise_flatMap] at apart

/-- Segments of nodes in order are in order. -/
theorem pairwise_segments {nodes : List Node} (ordered : InOrder nodes) :
    (segments source nodes).Pairwise fun before after => before.stop ≤ after.start :=
  ordered.apart_segments.2.imp fun between => between _ (Segment.last_mem_nodes _) _
    (Segment.first_mem_nodes _)

/-- A segment of nodes in order goes forward, from its first node to its last. -/
theorem start_le_stop {nodes : List Node} (ordered : InOrder nodes) {segment : Segment}
    (member : segment ∈ segments source nodes) : segment.start ≤ segment.stop := by
  have forward (node : Node) (held : node ∈ segment.nodes) : node.start ≤ node.stop :=
    ordered.forward node ((exists_segment_iff source nodes node).1 ⟨segment, member, held⟩)
  have firstForward : segment.start ≤ segment.first.stop := forward _ segment.first_mem_nodes
  have lastForward : segment.last.start ≤ segment.stop := forward _ segment.last_mem_nodes
  have within := ordered.apart_segments.1 segment member
  cases segment with
  | single node => exact firstForward
  | block first rest =>
    rcases List.mem_cons.1 (Segment.block first rest).last_mem_nodes with same | inRest
    · rw [Segment.stop, same]
      exact firstForward
    · have between : first.stop ≤ (Segment.block first rest).last.start :=
        (List.pairwise_cons.1 within).1 _ inRest
      exact firstForward.trans (between.trans lastForward)

end InOrder

/-! ### Files -/

/-- A node that holds code stands in a segment that makes a declaration. -/
theorem exists_codeSegment_of_item {source : Bytes} {root node : Node}
    (member : node ∈ root.children) (isAnItem : isItem node = true)
    (noImport : itemKind source node ≠ .importing) (noPreview : itemKind source node ≠ .snippet) :
    ∃ segment ∈ codeSegments source root, node ∈ segment.nodes := by
  obtain ⟨segment, inCut, held⟩ := (exists_segment_iff source root.children node).2 member
  refine ⟨segment, List.mem_filter.2 ⟨inCut, ?_⟩, held⟩
  cases segment with
  | single other =>
    obtain rfl : node = other := List.mem_singleton.1 held
    simp [Segment.hasCode, isAnItem, noImport, noPreview]
  | block first rest =>
    exact List.any_eq_true.2 ⟨node, held, by simp [isAnItem, noPreview]⟩

/-- Collecting a file gives its record, unless the keyword of a type declaration is not well-formed
text. -/
theorem outcome_collect_cases (source : Bytes) (root : Node) (path : String) (startIndex : Int) :
    (collect source root path startIndex).outcome = .ok (fileRecord source root path startIndex) ∨
      (collect source root path startIndex).outcome = .error .undecodable ∧
        ∃ item ∈ root.children, ∃ node : Node, node.IsWithin item ∧
          keywordReadable source node = false := by
  rw [outcome_collect]
  cases readable : (codeUnits source root).all (·.isReadable source) with
  | true => exact .inl (if_pos rfl)
  | false =>
    refine .inr ⟨if_neg Bool.false_ne_true, ?_⟩
    obtain ⟨unit, inUnits, unreadable⟩ := List.all_eq_false.1 readable
    obtain ⟨item, inItems, someNode⟩ :=
      List.all_eq_false.1 (Bool.eq_false_iff.2 unreadable)
    obtain ⟨node, inWalk, isUnreadable⟩ := List.all_eq_false.1 (Bool.eq_false_iff.2 someNode)
    obtain ⟨segment, inCut, code⟩ := (mem_codeUnits_iff source root unit).1 inUnits
    rw [(Segment.unit_of_content code).1] at inItems
    have atTop := (exists_segment_iff source root.children item).1
      ⟨segment, inCut, List.mem_of_mem_filter inItems⟩
    exact ⟨item, atTop, node, (Node.mem_walk_iff item node).1 inWalk,
      Bool.eq_false_iff.2 isUnreadable⟩

/-- The children of the root are cut into segments in the one way there is, the segments with code
make one declaration each and the others make none, every node with code stands in a segment that
makes a declaration, the spans of the declarations follow one another, and their numbers are in a
row. This is the record that collecting the file gives, unless the grammar gives a type declaration
a keyword that is not well-formed text. -/
theorem collect_topLevel (source : Bytes) (root : Node) (path : String) (startIndex : Int)
    (ordered : InOrder root.children) :
    let record := fileRecord source root path startIndex
    ((collect source root path startIndex).outcome = .ok record ∨
        (collect source root path startIndex).outcome = .error .undecodable ∧
          ∃ item ∈ root.children, ∃ node : Node, node.IsWithin item ∧
            keywordReadable source node = false) ∧
      (∀ cut, CutInto source root.children cut ↔ cut = segments source root.children) ∧
      (segments source root.children).flatMap (·.nodes) = root.children ∧
      List.Forall₂ (Segment.IsRecordedAs source path) (codeSegments source root)
        record.declarations ∧
      (∀ node ∈ root.children, node.isNamed = true → ¬ node.kind ∈ triviaKinds →
        itemKind source node ≠ .importing → itemKind source node ≠ .snippet →
        ∃ segment ∈ codeSegments source root, node ∈ segment.nodes) ∧
      (∀ segment ∈ codeSegments source root, segment.start ≤ segment.stop) ∧
      (codeSegments source root).Pairwise (fun before after => before.stop ≤ after.start) ∧
      NumberedFrom startIndex record.declarations := by
  refine ⟨outcome_collect_cases source root path startIndex, cutInto_iff source root.children,
    flatMap_segments source root.children, forall₂_declarations source root path startIndex,
    fun node member named noTrivia noImport noPreview => ?_,
    fun segment member => ordered.start_le_stop (List.mem_of_mem_filter member),
    ordered.pairwise_segments.filter _, NumberedFrom.fileRecord source root path startIndex⟩
  have isAnItem : isItem node = true := by
    rw [isItem, named, Bool.true_and, Bool.not_eq_true', ← Bool.not_eq_true,
      List.contains_iff_mem]
    exact noTrivia
  exact exists_codeSegment_of_item member isAnItem noImport noPreview

namespace Unclosed

/-- A block inside of another with an import behind it, an `#endif` too many, a preview, and a block
that is never closed. -/
def source : Bytes :=
  encode ("#if A\n#if B\nlet x = 1\n#endif\nimport C\n#endif\n#endif\n#Preview \x7b\x7d\n" ++
    "#if D\nfunc f() \x7b\x7d")

def node (kind : String) (start stop : Nat) : Node :=
  .branch ⟨kind, none, true, false⟩ start stop []

def constant : Node :=
  node "property_declaration" 12 21

/-- The syntax tree of the file. -/
def file : Node :=
  .branch ⟨"source_file", none, true, false⟩ 0 81
    [node "directive" 0 5, node "directive" 6 11, constant, node "directive" 22 28,
      node "import_declaration" 29 37, node "directive" 38 44, node "directive" 45 51,
      node "macro_invocation" 52 63, node "directive" 64 69, node "function_declaration" 70 81]

theorem inOrder_file : InOrder file.children :=
  ⟨by decide, by decide⟩

end Unclosed

/-- Of four segments two have code: the block that holds another block, and the one that goes on to
the end. -/
theorem collect_topLevel_unclosed :
    let record := fileRecord Unclosed.source Unclosed.file "A.swift" 3
    let declaring := codeSegments Unclosed.source Unclosed.file
    InOrder Unclosed.file.children ∧
      (collect Unclosed.source Unclosed.file "A.swift" 3).outcome = .ok record ∧
      (segments Unclosed.source Unclosed.file.children).map (fun segment =>
        (segment.start, segment.stop)) = [(0, 44), (45, 51), (52, 63), (64, 81)] ∧
      declaring.map (fun segment => (segment.start, segment.stop)) = [(0, 44), (64, 81)] ∧
      List.Forall₂ (Segment.IsRecordedAs Unclosed.source "A.swift") declaring
        record.declarations ∧
      (∃ segment ∈ declaring, Unclosed.constant ∈ segment.nodes) ∧
      declaring.Pairwise (fun before after => before.stop ≤ after.start) ∧
      record.declarations.map (·.discoveryIndex) = [3, 4] := by
  intro record declaring
  obtain ⟨_, _, _, recorded, kept, _, apart, _⟩ :=
    collect_topLevel Unclosed.source Unclosed.file "A.swift" 3 Unclosed.inOrder_file
  have collected : (collect Unclosed.source Unclosed.file "A.swift" 3).outcome = .ok record := by
    rw [outcome_collect, if_pos (by decide +kernel)]
  exact ⟨Unclosed.inOrder_file, collected, by decide +kernel, by decide +kernel, recorded,
    kept Unclosed.constant (by simp [Unclosed.file, Node.children]) rfl (by decide) (by decide)
      (by decide), apart, by decide +kernel⟩

end SwiftSlice

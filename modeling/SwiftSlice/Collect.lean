/-
Collecting the declarations of a file. The children of the root are cut into
segments: single nodes, and runs from an `#if` to the `#endif` that closes it. A
segment is trivia, an import, a preview or a unit of code; each unit of code makes
one declaration, and these are numbered in source order. A type nested in another
never makes a declaration of its own: its name is recorded with the outer one.
Files come from a workspace, which is what all operations on files work over: a
disk, and the grammar that turns the bytes of a Swift source into its syntax tree.
-/

import SwiftSlice.FileTree.Resolve
import SwiftSlice.Log
import SwiftSlice.Syntax.Item

namespace SwiftSlice

open Text

/-! ### Segments -/

/-- Consecutive children of the root that belong together. -/
inductive Segment
  | single (node : Node)
  | block (first : Node) (rest : List Node)

/-- The nodes of a segment. -/
def Segment.nodes : Segment → List Node
  | .single node => [node]
  | .block first rest => first :: rest

/-- Cuts some nodes after the `#endif` that closes the given number of open blocks; without such a
directive all of them are taken. -/
def takeBlock (source : Bytes) (depth : Nat) : List Node → List Node × List Node
  | [] => ([], [])
  | node :: rest =>
    match conditional? source node with
    | some .opening =>
      let (inside, after) := takeBlock source (depth + 1) rest
      (node :: inside, after)
    | some .closing =>
      if depth ≤ 1 then ([node], rest)
      else
        let (inside, after) := takeBlock source (depth - 1) rest
        (node :: inside, after)
    | _ =>
      let (inside, after) := takeBlock source depth rest
      (node :: inside, after)

/-- Cutting loses no node. -/
theorem takeBlock_append (source : Bytes) (depth : Nat) (nodes : List Node) :
    (takeBlock source depth nodes).1 ++ (takeBlock source depth nodes).2 = nodes := by
  induction nodes generalizing depth with
  | nil => rfl
  | cons node rest inductionHypothesis =>
    unfold takeBlock
    split
    · simp [inductionHypothesis]
    · split <;> simp [inductionHypothesis]
    · simp [inductionHypothesis]

theorem length_takeBlock_snd (source : Bytes) (depth : Nat) (nodes : List Node) :
    (takeBlock source depth nodes).2.length ≤ nodes.length := by
  have whole := congrArg List.length (takeBlock_append source depth nodes)
  rw [List.length_append] at whole
  omega

/-- Cuts the children of the root into segments. -/
def segments (source : Bytes) : List Node → List Segment
  | [] => []
  | node :: rest =>
    if conditional? source node = some .opening then
      .block node (takeBlock source 1 rest).1 :: segments source (takeBlock source 1 rest).2
    else .single node :: segments source rest
termination_by nodes => nodes.length
decreasing_by
  · have := length_takeBlock_snd source 1 rest
    simp only [List.length_cons]
    omega
  · simp

/-! ### Units of code -/

/-- Items that make one declaration, and the two nodes between which its text lies. -/
structure CodeUnit where
  items : List Node
  kind : DeclarationKind
  first : Node
  last : Node

/-- What a segment holds. -/
inductive Content
  | nothing
  | importing (name : Option String)
  | preview (names : NameSet)
  | code (unit : CodeUnit)

/-- Holds of the nodes that are items. -/
def isItem (node : Node) : Bool :=
  node.isNamed && !triviaKinds.contains node.kind

/-- What a segment holds. Imports inside a conditional block stay in its text; a block with
nothing but previews in it is a preview. -/
def Segment.content (source : Bytes) : Segment → Content
  | .single node =>
    if !isItem node then .nothing
    else
      match itemKind source node with
      | .importing => .importing (importedModule? source node)
      | .snippet => .preview (capitalizedNames source node)
      | .declaring kind => .code ⟨[node], kind, node, node⟩
  | .block first rest =>
    let items := (first :: rest).filter isItem
    if items.isEmpty then .nothing
    else if items.all fun item => itemKind source item == .snippet then
      .preview (NameSet.unions (items.map (capitalizedNames source)))
    else .code ⟨items, .other, first, rest.getLastD first⟩

/-- What the children of the root hold. -/
def contents (source : Bytes) (root : Node) : List Content :=
  (segments source root.children).map (·.content source)

/-- The unit of code in a segment, if it has one. -/
def Content.unit? : Content → Option CodeUnit
  | .code unit => some unit
  | _ => none

/-- The module that a segment imports, if it does. -/
def Content.module? : Content → Option String
  | .importing (some name) => if name = "" then none else some name
  | _ => none

/-- The names that a segment's previews use. -/
def Content.previewNames : Content → NameSet
  | .preview names => names
  | _ => ∅

namespace CodeUnit

/-- The items of a unit that extend a type. -/
def extensions (source : Bytes) (unit : CodeUnit) : List Node :=
  unit.items.filter fun item => itemKind source item == .declaring .extension

/-- The items of a unit that do not. -/
def ordinary (source : Bytes) (unit : CodeUnit) : List Node :=
  unit.items.filter fun item => itemKind source item != .declaring .extension

/-- The types that the extensions of a unit extend. -/
def extended (source : Bytes) (unit : CodeUnit) : NameSet :=
  NameSet.ofList ((unit.extensions source).filterMap (declaredName? source))

/-- The types declared outside of extensions. -/
def declared (source : Bytes) (unit : CodeUnit) : NameSet :=
  NameSet.unions ((unit.ordinary source).map (typesWithin source))

/-- The types declared inside of extensions. -/
def members (source : Bytes) (unit : CodeUnit) : NameSet :=
  NameSet.unions ((unit.extensions source).map (typesWithin source))

/-- Every type name that a unit mentions. -/
def mentioned (source : Bytes) (unit : CodeUnit) : NameSet :=
  NameSet.unions (unit.items.map (capitalizedNames source)) ∪
    NameSet.unions ((unit.extensions source).map (conformances source)) ∪ unit.extended source

/-- Holds of a unit that is recorded as an extension: an extension on its own, or a conditional
block that declares no type and extends exactly one. -/
def isExtensionUnit (source : Bytes) (unit : CodeUnit) : Bool :=
  unit.kind == .extension ||
    (unit.kind == .other && (unit.declared source).isEmpty &&
      (unit.extended source).toList.length == 1)

/-- The text of a unit, from its first node to its last. -/
def text (source : Bytes) (unit : CodeUnit) : String :=
  decodeLenient (Node.slice source unit.first.start unit.last.stop)

/-- The declaration that a unit makes. -/
def declaration (source : Bytes) (path : String) (index : Int) (unit : CodeUnit) : Declaration :=
  let extended := unit.extended source
  let asExtension := unit.isExtensionUnit source
  let extendedType := if asExtension then extended.toList.head? else none
  let declared :=
    if asExtension then unit.declared source else unit.declared source ∪ unit.members source
  let members := if asExtension then unit.members source else ∅
  { sourceText := unit.text source
    kind := if asExtension && !extended.isEmpty then .extension else unit.kind
    declaredTypes := declared
    memberTypes := extendedType.elim members members.erase
    referencedTypes := (unit.mentioned source \ declared) \ members
    extendedType
    hasEntryPoint := unit.items.any (entryPointWithin source)
    originFile := path
    discoveryIndex := index
    startLine := Node.lineAt source unit.first.start
    endLine := Node.lineAt source unit.last.stop }

/-- Holds when the keyword of every type declaration in the unit is well-formed text. -/
def isReadable (source : Bytes) (unit : CodeUnit) : Bool :=
  unit.items.all fun item => item.walk.all (keywordReadable source)

end CodeUnit

/-! ### Files -/

/-- The units of code of a file. -/
def codeUnits (source : Bytes) (root : Node) : List CodeUnit :=
  (contents source root).filterMap (·.unit?)

/-- The record of a file, its declarations numbered from the given index. -/
def fileRecord (source : Bytes) (root : Node) (path : String) (startIndex : Int) : FileRecord where
  path
  imports := NameSet.ofList ((contents source root).filterMap (·.module?))
  declarations := (codeUnits source root).mapIdx fun offset unit =>
    unit.declaration source path (startIndex + offset)
  snippetTypes := NameSet.unions ((contents source root).map (·.previewNames))

/-- Collects a file from its source and syntax tree. Syntax errors are noted and do not stop it. -/
def collect (source : Bytes) (root : Node) (path : String) (startIndex : Int) :
    Logged FileRecord := do
  if root.hasError then
    Logged.say .debug ("Syntax errors while parsing " ++ path ++ "; continuing")
  if (codeUnits source root).all (·.isReadable source) then
    return fileRecord source root path startIndex
  else Logged.fail .undecodable

/-! ### Workspaces -/

/-- A disk and a grammar. Nothing else of the grammar is used, so that every statement about a
workspace holds of any grammar. -/
structure Workspace extends Disk where
  grammar : Bytes → Node

namespace Workspace

/-- Collects a file of the disk. A file that cannot be read, or is not well-formed text, gives
nothing. -/
def collectFile (workspace : Workspace) (path : Path) (startIndex : Int) :
    Logged (Option FileRecord) :=
  match workspace.read path with
  | .ok source =>
    if isWellFormed source then do
      let record ← collect source (workspace.grammar source) path.text startIndex
      return some record
    else return none
  | .error (.access _ _) => return none
  | .error failure => Logged.fail failure

end Workspace

end SwiftSlice

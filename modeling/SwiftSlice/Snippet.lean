/-
Previews. The snippet of a file is the body of the closure that its first preview
macro is called with. It is found on the syntax tree, so that braces in strings
and comments do not matter: among the macro calls in source order, the first that
has a closure below it counts, and of its closures the outermost.
-/

import SwiftSlice.Collect
import SwiftSlice.Text.Lines

namespace SwiftSlice

open Text

/-! ### Finding the closure -/

/-- Looks for a closure level by level: the nodes of a queue first, then their children. -/
def closureInQueue? : List Node → Option Node
  | [] => none
  | node :: rest =>
    if node.kind = "lambda_literal" then some node
    else closureInQueue? (rest ++ node.children)
termination_by queue => Node.sizeList queue
decreasing_by
  rw [Node.sizeList_append, Node.sizeList, Node.size_eq]
  omega

/-- The closure below a node that is least deep, and leftmost at its depth. -/
def outermostClosure? (node : Node) : Option Node :=
  closureInQueue? node.children

/-- Looks through the nodes on a stack, in source order and not inside macro calls, for a preview
with a closure. -/
def snippetClosureIn? (source : Bytes) : List Node → Option Node
  | [] => none
  | node :: rest =>
    if isSnippet source node then
      match outermostClosure? node with
      | some closure => some closure
      | none => snippetClosureIn? source rest
    else snippetClosureIn? source (node.children ++ rest)
termination_by stack => Node.sizeList stack
decreasing_by
  · rw [Node.sizeList, Node.size_eq]
    omega
  · rw [Node.sizeList_append, Node.sizeList, Node.size_eq]
    omega

/-- The bytes between the outer braces of a closure. -/
def closureBody (source : Bytes) (closure : Node) : Bytes :=
  let opening := closure.children.find? (·.kind == "\x7b")
  let closing := closure.children.reverse.find? (·.kind == "\x7d")
  Node.slice source (opening.elim closure.start Node.stop) (closing.elim closure.stop Node.start)

/-- The body of the first preview, as it stands in the source. -/
def snippetBody? (source : Bytes) (root : Node) : Option String :=
  (snippetClosureIn? source [root]).map fun closure => decodeLenient (closureBody source closure)

/-! ### Imports -/

/-- The modules that a source imports, at any depth. -/
def importedModules (source : Bytes) (root : Node) : NameSet :=
  NameSet.ofList <| (root.walk.filter (·.kind == "import_declaration")).filterMap fun node =>
    (importedModule? source node).filter (· != "")

/-! ### Snippets of files -/

namespace Workspace

/-- The dedented body of the first preview of a file. -/
def extractSnippet (workspace : Workspace) (path : Path) : Except Failure String :=
  match workspace.read path with
  | .error (.access errno _) => .error (.snippetUnreadable path.text errno.reason)
  | .error failure => .error failure
  | .ok source =>
    match snippetBody? source (workspace.grammar source) with
    | none => .error (.noSnippet path.text)
    | some body =>
      let dedented := dedent body
      if trim dedented = "" then .error (.emptySnippet path.text) else .ok dedented

/-- The capitalized identifiers of a piece of code. -/
def referencedTypes (workspace : Workspace) (code : String) : NameSet :=
  if trim code = "" then ∅
  else capitalizedNames (encode code) (workspace.grammar (encode code))

/-- The modules that a file imports; a file that cannot be read imports nothing. -/
def extractImports (workspace : Workspace) (path : Path) : Logged NameSet :=
  match workspace.read path with
  | .ok source => return importedModules source (workspace.grammar source)
  | .error (.access errno place) => do
    Logged.say .warning <|
      "Cannot read file for imports: " ++ path.text ++ ": " ++
        (Failure.access errno place).message
    return ∅
  | .error failure => Logged.fail failure

end Workspace

end SwiftSlice

/-
The texts that a slice is written as: the selected declarations as one source
file, the application that shows the preview, and a summary. The build step that
compiles a slice finds its input files by their names, and the first line of each
tells where it came from.
-/

import SwiftSlice.Data.Json
import SwiftSlice.Reference.Selection
import SwiftSlice.Text.Lines

namespace SwiftSlice

open Text

namespace Artifact

/-- The version of the layout of the summary. -/
def schemaVersion : Int := 1

/-- The file of the selected declarations. -/
def generatedSource : String := "_PreviewGenerated.swift"

/-- The file of the application that shows the preview. -/
def hostApp : String := "PreviewHostApp.swift"

/-- The file of the summary. -/
def summary : String := "resolution.json"

def generatedHeader : String := "// Auto-generated by previewslice"

def hostAppHeader : String := "// Auto-generated PreviewHost"

end Artifact

/-! ### Declarations -/

/-- The lines that import some modules, with an empty line after them. -/
def importBlock (modules : List String) : String :=
  if modules.isEmpty then ""
  else String.join (modules.map fun name => "import " ++ name ++ "\n") ++ "\n"

/-- The selected declarations in the order of their indices. -/
def Selection.ordered (selection : Selection) : List Declaration :=
  selection.declarations.mergeSort fun left right => left.discoveryIndex ≤ right.discoveryIndex

/-- The source file of a selection: a header with the counts, the imports, and every declaration
with an empty line after it. -/
def Selection.source (selection : Selection) : String :=
  Artifact.generatedHeader ++ "\n// Resolved " ++ toString selection.resolvedDeclarations ++
    " declarations from " ++ toString selection.contributingFiles.length ++ " files\n\n" ++
    importBlock selection.imports.toList ++
    String.join (selection.ordered.map fun declaration => declaration.sourceText ++ "\n\n")

/-! ### Host application -/

/-- The modules that the application imports besides the user interface: each one once, without
the one whose sources are compiled in. -/
def hostModules (appModule : Option String) (seen : List String) : List String → List String
  | [] => []
  | name :: rest =>
    if seen.contains name || some name == appModule then hostModules appModule seen rest
    else name :: hostModules appModule (name :: seen) rest

/-- The line that imports a module, with its internals if it is testable. -/
def hostImport (testable : List String) (name : String) : String :=
  (if testable.contains name then "@testable import " else "import ") ++ name ++ "\n"

/-- The lines of the application before the body of the preview. -/
def hostOpening (imports : String) : String :=
  Artifact.hostAppHeader ++ "\n\nimport SwiftUI\n" ++ imports ++
    "\n@main\nstruct PreviewHostApp: App \x7b\n" ++
    "    var body: some Scene \x7b\n" ++
    "        WindowGroup \x7b\n" ++
    "            PreviewContent()\n" ++
    "        \x7d\n    \x7d\n\x7d\n\n" ++
    "struct PreviewContent: View \x7b\n" ++
    "    var body: some View \x7b\n"

/-- The lines of the application after the body of the preview. -/
def hostClosing : String :=
  "\n    \x7d\n\x7d\n"

/-- The application that shows a preview. -/
def hostApp (body : String) (modules : List String) (appModule : Option String)
    (testable : List String) : String :=
  let imports := (hostModules appModule ["SwiftUI"] modules).map (hostImport testable)
  hostOpening (String.join imports) ++ indent "        " body ++ hostClosing

/-! ### Summary -/

/-- The summary of a selection and the names that it was seeded with. -/
def Selection.summary (selection : Selection) (seeds : NameSet) : Data :=
  .object
    [("schema_version", .int Artifact.schemaVersion),
      ("total_declarations", .int selection.totalDeclarations),
      ("resolved_declarations", .int selection.resolvedDeclarations),
      ("contributing_files", .list (selection.contributingFiles.map .string)),
      ("resolved_imports", .list (selection.imports.toList.map .string)),
      ("seed_types", .list (seeds.toList.map .string))]

end SwiftSlice

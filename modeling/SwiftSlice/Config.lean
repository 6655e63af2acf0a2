/-
The configuration of a project: which files are scanned, which names count as
builtin, where the output goes. It is read from a file at the project's root, and
every field has a default. The output directory has to lie inside the root, also
after links are followed.
-/

import SwiftSlice.Data.Check
import SwiftSlice.FileTree.Resolve
import SwiftSlice.Text.Word
import SwiftSlice.Toml.Document

namespace SwiftSlice

open Text

/-- The settings of a project. -/
structure Config where
  outputDir : String := ".previewslice"
  includePatterns : List String := []
  excludePatterns : List String := []
  nestedGitignore : Bool := false
  extraBuiltinTypes : List String := []
  testableModules : List String := []
deriving DecidableEq, Repr

namespace Config

/-- The name of the configuration file. -/
def fileName : String := "previewslice.toml"

/-- The names of the fields. -/
def fieldNames : List String :=
  ["output_dir", "include", "exclude", "nested_gitignore", "extra_builtin_types",
    "testable_modules"]

/-! ### Validation -/

/-- Holds of a letter or underscore followed by letters, digits and underscores; one line feed may
stand at the end. -/
def isIdentifier (text : String) : Bool :=
  match text.toList with
  | [] => false
  | first :: rest =>
    let rest := if rest.getLast? = some '\n' then rest.dropLast else rest
    isAsciiWordStart first && rest.all isAsciiWord

/-- An identifier, if the value is one. -/
def identifier? : Data → Option String
  | .string text => if isIdentifier text then some text else none
  | _ => none

/-- A list of identifiers; the first value that is none is named. Nothing stands for the empty
list. -/
def asIdentifiers : Data → Checked (List String)
  | .null => .accepted []
  | .list items =>
    match items.find? fun item => (identifier? item).isNone with
    | some item =>
      Checked.refuse <| .badValue <|
        if item.hasHugeInteger then digitLimitReason none
        else "Invalid Swift identifier " ++ item.text
    | none => .accepted (items.filterMap identifier?)
  | _ => Checked.refuse .notList

/-- Holds of a value that cannot be a list of identifiers at all. -/
def isNoIdentifierList : Data → Bool
  | .null | .list _ => false
  | _ => true

/-- An error for every field that is not known. -/
def unknownFields (fields : List (String × Data)) : Checked Unit :=
  match fields.filter fun field => !fieldNames.contains field.1 with
  | [] => .accepted ()
  | unknown => .refused (unknown.map fun field => ⟨[.field field.1], .unknownField⟩)

/-- Checks the fields of a configuration. -/
def ofFields (fields : List (String × Data)) : Checked Config :=
  (fun config _ => config)
    <$> (Config.mk
      <$> Data.optional fields "output_dir" ".previewslice" Data.asString
      <*> Data.optional fields "include" [] (Data.asListOf Data.asString)
      <*> Data.optional fields "exclude" [] (Data.asListOf Data.asString)
      <*> Data.optional fields "nested_gitignore" false Data.asBool
      <*> Data.optional fields "extra_builtin_types" [] asIdentifiers
      <*> Data.optional fields "testable_modules" [] asIdentifiers)
    <*> unknownFields fields

/-- Checks a configuration. A list of identifiers that is no list ends the check at once. -/
def ofData (data : Data) : Except ConfigProblem Config :=
  match data with
  | .object fields =>
    let lists := ["extra_builtin_types", "testable_modules"].filterMap (fields.lookup ·)
    if lists.any isNoIdentifierList then .error .notIdentifierList
    else
      match ofFields fields with
      | .accepted config => .ok config
      | .refused errors => .error (.fields errors)
  | _ => .error (.fields [⟨[], .notObject "SliceConfig"⟩])

/-! ### Files -/

/-- The configuration of a project; the default one if there is no file. -/
def load (disk : Disk) (root : Path) : Except Failure Config := do
  let path := root.child fileName
  if !(← disk.isFile path) then return {}
  else
    let content ← disk.read path
    match decode? content with
    | none => .error .undecodable
    | some text =>
      match Toml.parse disk.callRoom text with
      | .error .malformed => .error (.configSyntax path.text)
      | .error (.hugeInteger digits) => .error (.hugeInteger digits)
      | .error .tooDeep => .error .tooDeep
      | .ok data => (ofData data).mapError (.configData path.text)

/-- The place of an output directory, which is given relative to the root and stays inside it. -/
def placeOutput (disk : Disk) (root : Path) (outputDir : String) : Except Failure Path :=
  if outputDir = "" then .error .emptyOutputDir
  else if beginsWith outputDir "~" || (Path.parse outputDir).isAbsolute then
    .error .foreignOutputDir
  else do
    let root ← disk.resolve root
    let output ← disk.resolve (root ++ Path.parse outputDir)
    if (output.relativeTo? root).isSome then .ok output
    else .error (.escapingOutputDir outputDir)

end Config

end SwiftSlice

/-
Reading single nodes of a Swift syntax tree: which sort of item a node is, the
name that it declares, the type names that occur in it, the module that it
imports, and whether it marks the entry point of a program.
-/

import SwiftSlice.NameSet
import SwiftSlice.Record.Declaration
import SwiftSlice.Syntax.Node
import SwiftSlice.Text.Blank
import SwiftSlice.Text.Capital
import SwiftSlice.Text.Word

namespace SwiftSlice

open Text

/-- The sorts of top-level items. -/
inductive ItemKind
  | importing
  | snippet
  | declaring (kind : DeclarationKind)
deriving DecidableEq, Repr

/-- The name of a sort of item. -/
def ItemKind.text : ItemKind → String
  | .importing => "import"
  | .snippet => "snippet"
  | .declaring kind => kind.text

/-- The attributes that make a type the entry point of a program. -/
def entryPointAttributes : List String :=
  ["main", "UIApplicationMain", "NSApplicationMain"]

/-- The nodes that carry no code. -/
def triviaKinds : List String :=
  ["comment", "multiline_comment", "directive", "diagnostic", "shebang_line"]

def identifierKinds : List String :=
  ["type_identifier", "simple_identifier"]

def typeDeclarationKinds : List String :=
  ["class_declaration", "protocol_declaration", "typealias_declaration"]

def declarationKeywords : List String :=
  ["class", "struct", "enum", "actor", "extension", "protocol"]

/-- The keywords that may stand between `import` and the name of what is imported. -/
def importSorts : List String :=
  ["typealias", "struct", "class", "enum", "protocol", "let", "var", "func", "actor"]

/-! ### Words after a number sign -/

/-- White space among bytes. -/
def isBlankByte (byte : UInt8) : Bool :=
  byte == 32 || (9 ≤ byte && byte ≤ 13)

/-- Word characters among bytes. -/
def isWordByte (byte : UInt8) : Bool :=
  byte < 128 && isAsciiWord (Char.ofNat byte.toNat)

/-- The word after a number sign that some bytes start with. -/
def hashWord? (bytes : Bytes) : Option Bytes :=
  match bytes with
  | [] => none
  | first :: rest =>
    if first == 35 then some ((rest.dropWhile isBlankByte).takeWhile isWordByte) else none

/-- The keywords of conditional blocks. -/
inductive Conditional
  | opening
  | branch
  | closing
deriving DecidableEq, Repr

/-- The keyword of a directive of a conditional block. -/
def conditional? (source : Bytes) (node : Node) : Option Conditional :=
  if node.kind = "directive" then
    match hashWord? (node.bytes source) with
    | some word =>
      if word = encode "if" then some .opening
      else if word = encode "elseif" || word = encode "else" then some .branch
      else if word = encode "endif" then some .closing
      else none
    | none => none
  else none

/-- Holds of the nodes that start with the preview macro. -/
def isSnippet (source : Bytes) (node : Node) : Bool :=
  node.kind != "source_file" && hashWord? (node.bytes source) == some (encode "Preview")

/-! ### Names -/

/-- A back-quoted name without its quotes. -/
def unquoteName (name : String) : String :=
  String.ofList (trimWhile (fun char => char == '\x60' || char == ' ') name.toList)

/-- The capitalized name of an identifier node, if it is one. -/
def capitalizedName? (source : Bytes) (node : Node) : Option String :=
  if identifierKinds.contains node.kind then
    let name := unquoteName (node.text source)
    if isCapitalized name then some name else none
  else none

/-- The capitalized identifiers at and below a node. -/
def capitalizedNames (source : Bytes) (node : Node) : NameSet :=
  NameSet.ofList (node.walk.filterMap (capitalizedName? source))

/-- The node that holds the declared name: the child in that role, or else the first identifier or
type among the children. -/
def nameNode? (node : Node) : Option Node :=
  node.child? .name <|> node.children.find? fun child =>
    identifierKinds.contains child.kind || child.kind == "user_type"

/-- The name that a node declares, without blanks. -/
def declaredName? (source : Bytes) (node : Node) : Option String :=
  (nameNode? node).bind fun child =>
    let name := squeeze (child.text source)
    if name = "" then none else some name

/-- The bytes of the keyword of a type declaration, if a child has that role and is not empty. -/
def keywordBytes? (source : Bytes) (node : Node) : Option Bytes :=
  (node.child? .declarationKind).bind fun child =>
    let bytes := child.bytes source
    if bytes.isEmpty then none else some bytes

/-- The keyword of a type declaration. -/
def keyword? (source : Bytes) (node : Node) : Option String :=
  match keywordBytes? source node with
  | some bytes => some (decodeLenient bytes)
  | none => (node.children.find? fun child => declarationKeywords.contains child.kind).map (·.kind)

/-- Holds unless the keyword of a type declaration is ill-formed text. -/
def keywordReadable (source : Bytes) (node : Node) : Bool :=
  node.kind != "class_declaration" || (keywordBytes? source node).all isWellFormed

/-- Holds of the class declarations that extend a type. -/
def isExtensionNode (source : Bytes) (node : Node) : Bool :=
  node.kind == "class_declaration" && keyword? source node == some "extension"

/-! ### Items -/

/-- The sort of an item. -/
def itemKind (source : Bytes) (node : Node) : ItemKind :=
  if node.kind = "import_declaration" then .importing
  else if isSnippet source node then .snippet
  else if node.kind = "class_declaration" then
    if keyword? source node = some "extension" then .declaring .extension else .declaring .type
  else if node.kind = "protocol_declaration" then .declaring .type
  else if node.kind = "typealias_declaration" then .declaring .typealias
  else if node.kind = "function_declaration" then .declaring .function
  else if node.kind = "property_declaration" then .declaring .constant
  else .declaring .other

/-- The name of an attribute, without the sign in front and the arguments behind. -/
def attributeName (source : Bytes) (node : Node) : String :=
  let trimmed := trimWhile isBlank (node.text source).toList
  let bare := trimmed.dropWhile (· == '@')
  String.ofList (trimWhile isBlank (bare.takeWhile (· != '(')))

/-- The nodes where the attributes of a declaration stand. -/
def attributePlaces (node : Node) : List Node :=
  node.children.flatMap fun child => if child.kind = "modifiers" then child.children else [child]

/-- Holds of a declaration with an entry-point attribute. -/
def hasEntryAttribute (source : Bytes) (node : Node) : Bool :=
  (attributePlaces node).any fun child =>
    child.kind == "attribute" && entryPointAttributes.contains (attributeName source child)

/-- Holds of a type declaration that is the entry point of a program. -/
def isEntryPoint (source : Bytes) (node : Node) : Bool :=
  node.kind == "class_declaration" && !isExtensionNode source node && hasEntryAttribute source node

/-- The type that a node declares, if it is a declaration of a type and no extension. -/
def typeName? (source : Bytes) (node : Node) : Option String :=
  if typeDeclarationKinds.contains node.kind && !isExtensionNode source node then
    declaredName? source node
  else none

/-- The types declared at and below a node. -/
def typesWithin (source : Bytes) (node : Node) : NameSet :=
  NameSet.ofList (node.walk.filterMap (typeName? source))

/-- Whether an entry point stands at or below a node. -/
def entryPointWithin (source : Bytes) (node : Node) : Bool :=
  node.walk.any (isEntryPoint source)

/-- The types that a declaration conforms to. -/
def conformances (source : Bytes) (node : Node) : NameSet :=
  NameSet.ofList <| (node.children.filter (·.kind == "inheritance_specifier")).map fun child =>
    squeeze (child.text source)

/-! ### Imports -/

/-- A dotted name that a text starts with. -/
def dottedName? (text : List Char) : Option String :=
  match text with
  | [] => none
  | first :: rest =>
    if isAsciiWordStart first then
      some (String.ofList (first :: rest.takeWhile fun char => isWord char || char == '.'))
    else none

/-- What follows a run of blanks, if there is at least one. -/
def afterBlanks? (text : List Char) : Option (List Char) :=
  match text with
  | first :: rest => if isBlank first then some (rest.dropWhile isBlank) else none
  | [] => none

/-- The name after an optional sort of import. -/
def importedName? (text : List Char) : Option String :=
  let sorted := importSorts.findSome? fun sort =>
    ((sort.toList.isPrefixOf? text).bind afterBlanks?).bind dottedName?
  sorted <|> dottedName? text

/-- Finds the first import in a text; `inWord` tells whether a word character stands before it. -/
def findImport? (inWord : Bool) : List Char → Option String
  | [] => none
  | first :: rest =>
    let here :=
      if inWord then none
      else (("import".toList.isPrefixOf? (first :: rest)).bind afterBlanks?).bind importedName?
    here <|> findImport? (isWord first) rest

/-- The module that a node imports: its identifier, or else what its text says. -/
def importedModule? (source : Bytes) (node : Node) : Option String :=
  match node.children.find? (·.kind == "identifier") with
  | some child => some (squeeze (child.text source))
  | none => findImport? false (node.text source).toList

end SwiftSlice

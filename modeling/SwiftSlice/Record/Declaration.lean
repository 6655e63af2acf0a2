/-
Declarations and the files that they come from. A declaration is one top-level
unit of a Swift file: a type, an extension, an alias, a function, a constant or
another item, or a whole conditional block. It is known by the type names that it
declares, refers to and extends.
-/

import SwiftSlice.NameSet

namespace SwiftSlice

/-- The sorts of top-level units. -/
inductive DeclarationKind
  | type
  | extension
  | typealias
  | function
  | constant
  | other
deriving DecidableEq, Repr

namespace DeclarationKind

/-- The name of a sort. -/
def text : DeclarationKind → String
  | .type => "type"
  | .extension => "extension"
  | .typealias => "typealias"
  | .function => "function"
  | .constant => "constant"
  | .other => "other"

def all : List DeclarationKind :=
  [.type, .extension, .typealias, .function, .constant, .other]

/-- The sort with a name. -/
def ofText? (name : String) : Option DeclarationKind :=
  all.find? (·.text == name)

end DeclarationKind

/-- One top-level unit of a file. The member names are the types nested in the body of an
extension. -/
structure Declaration where
  sourceText : String
  kind : DeclarationKind
  declaredTypes : NameSet
  memberTypes : NameSet
  referencedTypes : NameSet
  extendedType : Option String
  hasEntryPoint : Bool
  originFile : String
  discoveryIndex : Int
  startLine : Int
  endLine : Int
deriving DecidableEq

namespace Declaration

def isExtension (declaration : Declaration) : Bool :=
  declaration.extendedType.isSome

/-- Holds of functions, constants and other items that no type name leads to. -/
def isFreeStanding (declaration : Declaration) : Bool :=
  declaration.declaredTypes.isEmpty && !declaration.isExtension

/-- The type names under which a declaration is found. -/
def typeNames (declaration : Declaration) : NameSet :=
  declaration.declaredTypes ∪ declaration.memberTypes

end Declaration

/-- A file: its imports, its declarations in order, and the names that its previews use. -/
structure FileRecord where
  path : String
  imports : NameSet
  declarations : List Declaration
  snippetTypes : NameSet
deriving DecidableEq

namespace FileRecord

/-- The type names that the file declares, in extensions too. -/
def typeNames (record : FileRecord) : NameSet :=
  NameSet.unions (record.declarations.map (·.typeNames))

/-- The types that the file extends. -/
def extendedTypes (record : FileRecord) : NameSet :=
  NameSet.ofList (record.declarations.filterMap (·.extendedType))

/-- The type names that the declarations of the file refer to. -/
def referencedTypes (record : FileRecord) : NameSet :=
  NameSet.unions (record.declarations.map (·.referencedTypes))

def hasEntryPoint (record : FileRecord) : Bool :=
  record.declarations.any (·.hasEntryPoint)

theorem mem_typeNames (record : FileRecord) (name : String) :
    name ∈ record.typeNames ↔
      ∃ declaration ∈ record.declarations, name ∈ declaration.typeNames :=
  NameSet.mem_unions_map _ _ _

theorem mem_extendedTypes (record : FileRecord) (name : String) :
    name ∈ record.extendedTypes ↔
      ∃ declaration ∈ record.declarations, declaration.extendedType = some name := by
  rw [extendedTypes, NameSet.mem_ofList, List.mem_filterMap]

theorem mem_referencedTypes (record : FileRecord) (name : String) :
    name ∈ record.referencedTypes ↔
      ∃ declaration ∈ record.declarations, name ∈ declaration.referencedTypes :=
  NameSet.mem_unions_map _ _ _

end FileRecord

end SwiftSlice

/-
Where type names lead. One index has the declarations of all files and tells, for
a type name, the positions of those that declare it and of those that extend it;
the other does the same for whole files, which it knows by their paths.
-/

import SwiftSlice.Record.Declaration
import SwiftSlice.Reference.Table

namespace SwiftSlice

/-! ### Declarations -/

/-- The declarations of some files with their lookup tables; a declaration is known by its
position. -/
structure ReferenceIndex where
  declarations : List Declaration
  declarers : Table Nat
  extenders : Table Nat
  fileImports : List (String × NameSet)

namespace ReferenceIndex

/-- Sets the value of a key, at its place if it is there already. -/
def assign (key : String) (value : α) : List (String × α) → List (String × α)
  | [] => [(key, value)]
  | pair :: rest => if pair.1 = key then (key, value) :: rest else pair :: assign key value rest

/-- Each type name with the position that declares it. -/
def declaringPairs (declarations : List Declaration) : List (String × Nat) :=
  declarations.zipIdx.flatMap fun item => item.1.typeNames.toList.map (·, item.2)

/-- Each type name with the position that extends it. -/
def extendingPairs (declarations : List Declaration) : List (String × Nat) :=
  declarations.zipIdx.filterMap fun item => item.1.extendedType.map (·, item.2)

/-- The index of some files, in their order. A path that comes twice keeps its later imports. -/
def ofRecords (records : List FileRecord) : ReferenceIndex :=
  let declarations := records.flatMap (·.declarations)
  { declarations
    declarers := Table.ofPairs (declaringPairs declarations)
    extenders := Table.ofPairs (extendingPairs declarations)
    fileImports := records.foldl (fun imports record => assign record.path record.imports imports) [] }

/-- The positions that declare a type. -/
def declarersOf (index : ReferenceIndex) (name : String) : List Nat :=
  index.declarers.find name

/-- The positions that extend a type. -/
def extendersOf (index : ReferenceIndex) (name : String) : List Nat :=
  index.extenders.find name

/-- What a file imports; nothing if it is not known. -/
def importsOf (index : ReferenceIndex) (path : String) : NameSet :=
  (index.fileImports.lookup path).getD ∅

end ReferenceIndex

/-! ### Files -/

/-- The records of some files with their lookup tables; a file is known by its path. -/
structure FileIndex where
  records : List (String × FileRecord)
  declarers : Table String
  extenders : Table String

namespace FileIndex

/-- The index of some files, in their order. A path that comes twice keeps its later record. -/
def ofRecords (records : List FileRecord) : FileIndex where
  records :=
    records.foldl (fun known record => ReferenceIndex.assign record.path record known) []
  declarers :=
    Table.ofPairs (records.flatMap fun record => record.typeNames.toList.map (·, record.path))
  extenders :=
    Table.ofPairs (records.flatMap fun record => record.extendedTypes.toList.map (·, record.path))

/-- The record of a path. -/
def record? (index : FileIndex) (path : String) : Option FileRecord :=
  index.records.lookup path

end FileIndex

end SwiftSlice

/-
Selecting declarations. The selection starts from the declarations of one file
and from seed names, and follows type names: to what declares or extends a name
that a selected declaration refers to, and to what extends a name that it
declares. Builtin names are not followed, but a declared name always is, since it
is not builtin where it is declared. Declarations with an entry point are never
selected. In the end functions and other items that no type name leads to join
the selected declarations of their file.
-/

import SwiftSlice.Reference.Index
import SwiftSlice.Reference.Worklist

namespace SwiftSlice

/-- The declarations that were selected, in the order of their indices, with the files that they
come from and what these import. -/
structure Selection where
  declarations : List Declaration
  contributingFiles : List String
  imports : NameSet
  totalDeclarations : Int
  resolvedDeclarations : Int
deriving DecidableEq

namespace ReferenceIndex

/-- The positions that may be selected. -/
def eligible (index : ReferenceIndex) : List Nat :=
  index.declarations.zipIdx.filterMap fun item => if item.1.hasEntryPoint then none else some item.2

/-- The positions of a file's declarations without an entry point. -/
def positionsIn (index : ReferenceIndex) (file : String) : List Nat :=
  index.declarations.zipIdx.filterMap fun item =>
    if item.1.originFile = file && !item.1.hasEntryPoint then some item.2 else none

/-- The positions that some names lead to when builtin names are not followed. -/
def follow (index : ReferenceIndex) (isBuiltin : String → Bool) (names : NameSet) : List Nat :=
  names.toList.flatMap fun name =>
    if isBuiltin name then [] else index.declarersOf name ++ index.extendersOf name

/-- The positions that a declaration leads to. -/
def successors (index : ReferenceIndex) (isBuiltin : String → Bool) (position : Nat) : List Nat :=
  match index.declarations[position]? with
  | some declaration =>
    index.follow isBuiltin declaration.referencedTypes ++
      declaration.typeNames.toList.flatMap index.extendersOf
  | none => []

/-- The positions that a selection starts from. -/
def seeds (index : ReferenceIndex) (isBuiltin : String → Bool) (startFile : String)
    (seedNames : NameSet) : List Nat :=
  index.positionsIn startFile ++ index.follow isBuiltin seedNames

/-- The positions that are reached by following names. -/
def reached (index : ReferenceIndex) (isBuiltin : String → Bool) (startFile : String)
    (seedNames : NameSet) : List Nat :=
  Worklist.reach index.eligible (index.successors isBuiltin)
    (index.seeds isBuiltin startFile seedNames)

/-- The file of a position. -/
def fileAt? (index : ReferenceIndex) (position : Nat) : Option String :=
  index.declarations[position]?.map (·.originFile)

/-- Holds of a declaration that comes along with the files that are reached. -/
def ridesAlong (files : List String) (declaration : Declaration) : Bool :=
  !declaration.hasEntryPoint && declaration.isFreeStanding && files.contains declaration.originFile

/-- The positions that are selected, ascending. -/
def selected (index : ReferenceIndex) (isBuiltin : String → Bool) (startFile : String)
    (seedNames : NameSet) : List Nat :=
  let reached := index.reached isBuiltin startFile seedNames
  let files := reached.filterMap index.fileAt?
  index.declarations.zipIdx.filterMap fun item =>
    if reached.contains item.2 || ridesAlong files item.1 then some item.2 else none

/-- The selection of some positions. Declarations with equal indices stay in the order of their
positions. -/
def selectionOf (index : ReferenceIndex) (positions : List Nat) : Selection :=
  let declarations := (positions.filterMap (index.declarations[·]?)).mergeSort
    fun left right => left.discoveryIndex ≤ right.discoveryIndex
  let files := NameSet.ofList (declarations.map (·.originFile))
  { declarations
    contributingFiles := files.toList
    imports := NameSet.unions (files.toList.map index.importsOf)
    totalDeclarations := index.declarations.length
    resolvedDeclarations := declarations.length }

/-- The declarations that a start file and some seed names need. -/
def select (index : ReferenceIndex) (isBuiltin : String → Bool) (startFile : String)
    (seedNames : NameSet) : Selection :=
  index.selectionOf (index.selected isBuiltin startFile seedNames)

end ReferenceIndex

end SwiftSlice

/-
Selecting whole files. A file leads to the files that declare or extend a name it
refers to, unless it declares that name itself, and to those that extend a name it
declares. Files with an entry point are followed, and taken out in the end; the
start file stays in any case.
-/

import SwiftSlice.Path
import SwiftSlice.Reference.Index
import SwiftSlice.Reference.Worklist

namespace SwiftSlice

/-- The files that were selected, the names of those taken out, and how many files there were. -/
structure FileSelection where
  resolvedFiles : List String
  excludedEntryPoints : List String
  totalScanned : Nat
deriving DecidableEq

namespace FileIndex

/-- The names that a file refers to and does not declare. -/
def foreignNames (record : FileRecord) : NameSet :=
  (record.snippetTypes ∪ record.referencedTypes) \ record.typeNames

/-- The files that a file leads to. -/
def successors (index : FileIndex) (isBuiltin : String → Bool) (path : String) : List String :=
  match index.record? path with
  | some record =>
    ((foreignNames record).toList.flatMap fun name =>
      if isBuiltin name then [] else index.declarers.find name ++ index.extenders.find name) ++
    record.typeNames.toList.flatMap index.extenders.find
  | none => []

/-- The files that the start file leads to, itself among them, in ascending order. -/
def visited (index : FileIndex) (isBuiltin : String → Bool) (startFile : String) : NameSet :=
  NameSet.ofList <|
    Worklist.reach (startFile :: index.records.map (·.1)) (index.successors isBuiltin) [startFile]

/-- Holds of the files that are followed and then taken out. -/
def isExcluded (index : FileIndex) (startFile path : String) : Bool :=
  path != startFile && (index.record? path).any (·.hasEntryPoint)

/-- The files that a start file needs. -/
def select (index : FileIndex) (isBuiltin : String → Bool) (startFile : String) : FileSelection :=
  let visited := (index.visited isBuiltin startFile).toList
  { resolvedFiles := visited.filter (!index.isExcluded startFile ·)
    excludedEntryPoints :=
      (visited.filter (index.isExcluded startFile)).map fun path => (Path.parse path).name
    totalScanned := index.records.length }

end FileIndex

end SwiftSlice

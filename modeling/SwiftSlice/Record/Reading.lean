/-
Records from plain data. Names of fields that are not known are passed over, sets
are given as lists, and fields with a default may be left out.
-/

import SwiftSlice.Data.Check
import SwiftSlice.Reference.Selection

namespace SwiftSlice

open Data

/-- Reads the sort of a declaration. -/
def DeclarationKind.ofData : Data → Checked DeclarationKind
  | .string text =>
    match DeclarationKind.ofText? text with
    | some kind => .accepted kind
    | none => Checked.refuse .notKind
  | _ => Checked.refuse .notKind

/-- Reads a declaration. -/
def Declaration.ofData : Data → Checked Declaration :=
  asObject "Declaration" fun fields =>
    Declaration.mk
      <$> required fields "source_text" asString
      <*> required fields "kind" DeclarationKind.ofData
      <*> optional fields "declared_type_names" ∅ asNameSet
      <*> optional fields "member_type_names" ∅ asNameSet
      <*> optional fields "referenced_type_names" ∅ asNameSet
      <*> optional fields "extended_type" none asOptionalString
      <*> optional fields "has_entry_point" false asBool
      <*> required fields "origin_file" asString
      <*> required fields "discovery_index" asInt
      <*> optional fields "start_line" 1 asInt
      <*> optional fields "end_line" 1 asInt

/-- Reads the record of a file. -/
def FileRecord.ofData : Data → Checked FileRecord :=
  asObject "FileRecord" fun fields =>
    FileRecord.mk
      <$> required fields "path" asString
      <*> optional fields "imports" ∅ asNameSet
      <*> optional fields "declarations" [] (asListOf Declaration.ofData)
      <*> optional fields "snippet_type_names" ∅ asNameSet

/-- Reads a selection. -/
def Selection.ofData : Data → Checked Selection :=
  asObject "ResolvedSet" fun fields =>
    Selection.mk
      <$> optional fields "declarations" [] (asListOf Declaration.ofData)
      <*> optional fields "contributing_files" [] (asListOf asString)
      <*> optional fields "resolved_imports" ∅ asNameSet
      <*> optional fields "total_declarations" 0 asInt
      <*> optional fields "resolved_declarations" 0 asInt

end SwiftSlice

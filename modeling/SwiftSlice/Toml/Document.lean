/-
TOML documents. A document is read statement by statement: a pair sets a value in
the table that the last header opened, a header opens a table or adds one to a
list. What has been written in one place cannot be opened again in another: the
tables with a header of their own, those made by dotted keys once their section is
over, and everything inside an array or inline table.
-/

import SwiftSlice.Text.Lines
import SwiftSlice.Toml.Value

namespace SwiftSlice.Toml

open Text

/-- What has been read of a document. -/
structure Document where
  fields : List (String × Data) := []
  /-- The tables that cannot be opened by a header or a dotted key any more. -/
  opened : List Key := []
  /-- The tables made by dotted keys of the current section. -/
  pending : List Key := []
  /-- The arrays and inline tables. -/
  closed : List Key := []
  /-- The table of the current section. -/
  header : Key := []

namespace Document

/-- Holds of a key inside an array or inline table, or of one itself. -/
def isFrozen (document : Document) (key : Key) : Bool :=
  document.closed.any (·.isPrefixOf key)

/-- Closes a section: its dotted tables count as opened. -/
def finishSection (document : Document) : Document :=
  { document with opened := document.pending ++ document.opened, pending := [] }

/-- Opens a table. -/
def openTable (document : Document) (key : Key) : Option Document :=
  if document.opened.contains key || document.isFrozen key then none
  else
    (changeTable true some key document.fields).map fun fields =>
      { document with fields, opened := key :: document.opened, header := key }

/-- Adds an empty table to the list of a name, which is made if it is missing. -/
def addListTable (name : String) (fields : List (String × Data)) : Option (List (String × Data)) :=
  match fields.lookup name with
  | none => some (fields ++ [(name, .list [.object []])])
  | some (.list items) => some (Data.setField fields name (.list (items ++ [.object []])))
  | some _ => none

/-- Opens a new table at the end of a list. What was opened below the table before it can be
opened again. -/
def openListTable (document : Document) (key : Key) : Option Document :=
  if document.isFrozen key then none
  else
    let outside := fun other : Key => !key.isPrefixOf other
    (changeTable true (addListTable (key.getLastD "")) key.dropLast document.fields).map fun fields =>
      { document with
        fields
        opened := key :: document.opened.filter outside
        closed := document.closed.filter outside
        header := key }

/-- The tables on the way of a dotted key. -/
def dottedTables (header key : Key) : List Key :=
  (List.range (key.length - 1)).map fun count => header ++ key.take (count + 1)

/-- Sets a value in the current section. -/
def addPair (document : Document) (key : Key) (value : Data) : Option Document :=
  let tables := dottedTables document.header key
  let whole := document.header ++ key
  if tables.any document.opened.contains || document.isFrozen whole.dropLast then none
  else
    (addValue true whole value document.fields).map fun fields =>
      { document with
        fields
        pending := tables ++ document.pending
        closed := if isClosed value then whole :: document.closed else document.closed }

/-- Reads the header that starts behind its brackets. -/
def headerKey? (closing text : List Char) : Option (Key × List Char) :=
  let start := text.dropWhile isSpace
  (key? (start.length + 1) start).bind fun (key, rest) =>
    (closing.isPrefixOf? rest).map fun rest => (key, rest)

/-- Reads one statement that starts here. -/
def statement (room : Nat) (document : Document) (text : List Char) :
    Except Fault (Document × List Char) :=
  match text with
  | '[' :: '[' :: rest => do
    let (key, rest) ← orMalformed (headerKey? [']', ']'] rest)
    return (← orMalformed (document.finishSection.openListTable key), rest)
  | '[' :: rest => do
    let (key, rest) ← orMalformed (headerKey? [']'] rest)
    return (← orMalformed (document.finishSection.openTable key), rest)
  | '#' :: _ => .ok (document, text)
  | _ => do
    let (key, found, rest) ← keyValue room text
    return (← orMalformed (document.addPair key found), rest)

/-- Reads the statements of a document, each on lines of its own. -/
def statements (room fuel : Nat) (document : Document) (text : List Char) :
    Except Fault Document :=
  match fuel with
  | 0 => .error .malformed
  | fuel + 1 =>
    match text.dropWhile isSpace with
    | [] => .ok document
    | '\n' :: rest => statements room fuel document rest
    | other => do
      let (document, rest) ← document.statement room other
      match ← orMalformed (skipComment? (rest.dropWhile isSpace)) with
      | [] => return document
      | '\n' :: rest => statements room fuel document rest
      | _ => .error .malformed

end Document

/-- The data of a document, whose values are read with room for so many calls. -/
def parse (room : Nat) (text : String) : Except Fault Data := do
  let chars := unifyBreaks text.toList
  let document ← Document.statements room (chars.length + 1) {} chars
  return .object document.fields

end SwiftSlice.Toml

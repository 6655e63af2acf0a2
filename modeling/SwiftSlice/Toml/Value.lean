/-
Keys and values in TOML. Arrays may run over several lines and hold comments;
inline tables stand on one line, and what they hold cannot be extended later. A
reader calls itself for a value inside another, and there is room for so many
calls only: a value that is nested too deeply is not read.
-/

import SwiftSlice.Toml.Number

namespace SwiftSlice.Toml

/-! ### Blanks and comments -/

/-- Passes over a comment, if one starts here; nothing if it holds a control character. -/
def skipComment? (text : List Char) : Option (List Char) :=
  match text with
  | '#' :: rest =>
    let comment := rest.takeWhile (· != '\n')
    if comment.any isControl then none else some (rest.drop comment.length)
  | _ => some text

/-- Passes over blanks, line feeds and comments between the items of an array. -/
def skipFiller? (fuel : Nat) (text : List Char) : Option (List Char) :=
  match fuel with
  | 0 => none
  | fuel + 1 =>
    match text.dropWhile isSpaceOrBreak with
    | '#' :: rest => (skipComment? ('#' :: rest)).bind (skipFiller? fuel)
    | other => some other

/-! ### Keys -/

/-- The parts of a dotted key. -/
abbrev Key := List String

def isBareKeyChar (char : Char) : Bool :=
  char.isAlphanum || char == '-' || char == '_'

/-- One part of a key: bare, or a text on one line. -/
def keyPart? (text : List Char) : Option (String × List Char) :=
  match text with
  | '\x27' :: rest => (literalText false rest).map fun pair => (String.ofList pair.1, pair.2)
  | '"' :: rest => (basicText false .inside rest).map fun pair => (String.ofList pair.1, pair.2)
  | _ =>
    let bare := text.takeWhile isBareKeyChar
    if bare.isEmpty then none else some (String.ofList bare, text.drop bare.length)

/-- A key, with the blanks behind it. -/
def key? (fuel : Nat) (text : List Char) : Option (Key × List Char) :=
  match fuel with
  | 0 => none
  | fuel + 1 =>
    (keyPart? text).bind fun (part, rest) =>
      match rest.dropWhile isSpace with
      | '.' :: after =>
        (key? fuel (after.dropWhile isSpace)).map fun (parts, rest) => (part :: parts, rest)
      | other => some ([part], other)

/-! ### Tables under construction -/

/-- Changes the table behind a key; missing tables on the way are made. With `throughLists`, the
way may pass through the last table of a list. -/
def changeTable (throughLists : Bool) (change : List (String × Data) → Option (List (String × Data))) :
    Key → List (String × Data) → Option (List (String × Data))
  | [], fields => change fields
  | part :: parts, fields =>
    match fields.lookup part with
    | none => (changeTable throughLists change parts []).map fun inner =>
        Data.setField fields part (.object inner)
    | some (.object inner) =>
      (changeTable throughLists change parts inner).map fun inner =>
        Data.setField fields part (.object inner)
    | some (.list items) =>
      match throughLists, items.getLast? with
      | true, some (.object inner) =>
        (changeTable throughLists change parts inner).map fun inner =>
          Data.setField fields part (.list (items.dropLast ++ [.object inner]))
      | _, _ => none
    | some _ => none

/-- Sets a field of a table that does not have it. -/
def addField (name : String) (value : Data) (fields : List (String × Data)) :
    Option (List (String × Data)) :=
  if (fields.lookup name).isSome then none else some (fields ++ [(name, value)])

/-- Sets the value of a key. -/
def addValue (throughLists : Bool) (key : Key) (value : Data) (fields : List (String × Data)) :
    Option (List (String × Data)) :=
  changeTable throughLists (addField (key.getLastD "") value) key.dropLast fields

/-- Holds of arrays and inline tables, which nothing can be added to. -/
def isClosed : Data → Bool
  | .list _ | .object _ => true
  | _ => false

/-! ### Values -/

/-- The calls that reading a value takes at least. -/
def valueCalls : Nat := 3

/-- The calls that are open around a value in an array. -/
def arrayCalls : Nat := 2

/-- The calls that are open around a value in an inline table. -/
def tableCalls : Nat := 3

mutual

/-- A value that starts here, read with room for so many calls. -/
def value (room fuel : Nat) (text : List Char) : Except Fault (Data × List Char) :=
  match fuel with
  | 0 => .error .malformed
  | fuel + 1 =>
    if room < valueCalls then .error .tooDeep
    else
      match text with
      | '"' :: _ | '\x27' :: _ => do
        let (found, rest) ← orMalformed (anyText? text)
        return (.string (String.ofList found), rest)
      | 't' :: 'r' :: 'u' :: 'e' :: rest => .ok (.bool true, rest)
      | 'f' :: 'a' :: 'l' :: 's' :: 'e' :: rest => .ok (.bool false, rest)
      | '[' :: rest => do
        let (found, rest) ← items (room - arrayCalls) fuel rest
        return (.list found, rest)
      | '\x7b' :: rest =>
        match rest.dropWhile isSpace with
        | '\x7d' :: after => .ok (.object [], after)
        | other => do
          let (found, rest) ← pairs (room - tableCalls) fuel [] [] other
          return (.object found, rest)
      | _ => scalarValue text

/-- The items of an array up to its end. -/
def items (room fuel : Nat) (text : List Char) : Except Fault (List Data × List Char) :=
  match fuel with
  | 0 => .error .malformed
  | fuel + 1 => do
    let text ← orMalformed (skipFiller? (text.length + 1) text)
    match text with
    | ']' :: rest => return ([], rest)
    | _ =>
      let (item, rest) ← value room fuel text
      match ← orMalformed (skipFiller? (rest.length + 1) rest) with
      | ']' :: after => return ([item], after)
      | ',' :: after =>
        let (others, rest) ← items room fuel after
        return (item :: others, rest)
      | _ => .error .malformed

/-- The pairs of an inline table up to its end; `closed` are the keys that nothing can be added
to. -/
def pairs (room fuel : Nat) (fields : List (String × Data)) (closed : List Key)
    (text : List Char) : Except Fault (List (String × Data) × List Char) :=
  match fuel with
  | 0 => .error .malformed
  | fuel + 1 => do
    let (key, rest) ← orMalformed (key? (text.length + 1) text)
    let rest ← orMalformed (after? '=' rest)
    let (found, rest) ← value room fuel (rest.dropWhile isSpace)
    if closed.any (·.isPrefixOf key) then .error .malformed
    else
      let fields ← orMalformed (addValue false key found fields)
      match rest.dropWhile isSpace with
      | '\x7d' :: after => return (fields, after)
      | ',' :: after =>
        let closed := if isClosed found then key :: closed else closed
        pairs room fuel fields closed (after.dropWhile isSpace)
      | _ => .error .malformed

end

/-- A key with its value. A bracket that opens an array is read in two steps. -/
def keyValue (room : Nat) (text : List Char) : Except Fault (Key × Data × List Char) := do
  let (key, rest) ← orMalformed (key? (text.length + 1) text)
  let rest ← orMalformed (after? '=' rest)
  let (found, rest) ← value room (2 * rest.length + 2) (rest.dropWhile isSpace)
  return (key, found, rest)

end SwiftSlice.Toml

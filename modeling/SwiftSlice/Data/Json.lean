/-
Plain data as JSON text: two spaces for each level, the fields of an object in the
order of their names, and nothing escaped in a text that need not be.
-/

import SwiftSlice.Data.Basic

namespace SwiftSlice

open Text

/-- How one character is written inside a JSON text. -/
def jsonChar (char : Char) : List Char :=
  if char == '"' || char == '\\' then ['\\', char]
  else if char == '\n' then ['\\', 'n']
  else if char == '\r' then ['\\', 'r']
  else if char == '\t' then ['\\', 't']
  else if char.toNat == 8 then ['\\', 'b']
  else if char.toNat == 12 then ['\\', 'f']
  else if char.toNat < 32 then '\\' :: 'u' :: hexDigits 4 char.toNat
  else [char]

/-- A text between double quotes. -/
def jsonText (text : String) : String :=
  String.ofList ('"' :: text.toList.flatMap jsonChar ++ ['"'])

/-- A new line with the margin of a level. -/
def jsonBreak (level : Nat) : String :=
  String.ofList ('\n' :: List.replicate (2 * level) ' ')

/-- The parts of a list or an object on lines of their own, between brackets. -/
def jsonBlock (level : Nat) (opening closing : String) (parts : List String) : String :=
  if parts.isEmpty then opening ++ closing
  else
    opening ++ jsonBreak (level + 1) ++ ("," ++ jsonBreak (level + 1)).intercalate parts ++
      jsonBreak level ++ closing

namespace Data

mutual

/-- The JSON text of a value that stands at a level. -/
def json (level : Nat) : Data → String
  | .null => "null"
  | .bool true => "true"
  | .bool false => "false"
  | .int value => toString value
  | .float value => value.text
  | .string text => jsonText text
  | .moment value => jsonText value.text
  | .list items => jsonBlock level "[" "]" (jsonItems (level + 1) items)
  | .object fields =>
    let parts := (jsonFields (level + 1) fields).mergeSort fun left right => !(right.1 < left.1 : Bool)
    jsonBlock level "\x7b" "\x7d" (parts.map (·.2))

/-- The JSON texts of the items of a list. -/
def jsonItems (level : Nat) : List Data → List String
  | [] => []
  | item :: rest => item.json level :: jsonItems level rest

/-- The JSON texts of the fields of an object, each with its name. -/
def jsonFields (level : Nat) : List (String × Data) → List (String × String)
  | [] => []
  | (name, value) :: rest =>
    (name, jsonText name ++ ": " ++ value.json level) :: jsonFields level rest

end

end Data

end SwiftSlice

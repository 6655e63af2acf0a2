/-
Plain data: the values that configuration files and stored records are made of,
before they are checked. The fields of an object stay in the order in which they
were given.
-/

import SwiftSlice.Data.Moment
import SwiftSlice.Text.Decimal
import SwiftSlice.Text.Visible

namespace SwiftSlice

open Text

/-- A value without any promise about its shape. -/
inductive Data
  | null
  | bool (value : Bool)
  | int (value : Int)
  | float (value : Binary64)
  | string (text : String)
  | moment (value : Moment)
  | list (items : List Data)
  | object (fields : List (String × Data))
deriving Repr

namespace Data

instance : Inhabited Data := ⟨.null⟩

/-- The value of a field, if the data are an object that has it. -/
def field? (data : Data) (name : String) : Option Data :=
  match data with
  | .object fields => fields.lookup name
  | _ => none

/-- Sets a field, at its place if it is there already and at the end otherwise. -/
def setField (fields : List (String × Data)) (name : String) (value : Data) :
    List (String × Data) :=
  if fields.any (·.1 == name) then
    fields.map fun field => if field.1 == name then (name, value) else field
  else fields ++ [(name, value)]

/-! ### Text -/

/-- The most digits that an integer may have when it is read or shown in decimal. -/
def digitLimit : Nat := 4300

mutual

/-- Holds of a value that cannot be shown, since an integer in it has too many digits. -/
def hasHugeInteger : Data → Bool
  | .int value => digitLimit < (Nat.repr value.natAbs).length
  | .list items => itemsHaveHugeInteger items
  | .object fields => fieldsHaveHugeInteger fields
  | _ => false

/-- Whether one of some items cannot be shown. -/
def itemsHaveHugeInteger : List Data → Bool
  | [] => false
  | item :: rest => item.hasHugeInteger || itemsHaveHugeInteger rest

/-- Whether the value of one of some fields cannot be shown. -/
def fieldsHaveHugeInteger : List (String × Data) → Bool
  | [] => false
  | (_, value) :: rest => value.hasHugeInteger || fieldsHaveHugeInteger rest

end

mutual

/-- A value as messages show it. -/
def text : Data → String
  | .null => "None"
  | .bool true => "True"
  | .bool false => "False"
  | .int value => toString value
  | .float value => value.text
  | .string value => quoted value
  | .moment value => value.text
  | .list items => "[" ++ ", ".intercalate (itemTexts items) ++ "]"
  | .object fields => "\x7b" ++ ", ".intercalate (fieldTexts fields) ++ "\x7d"

/-- The texts of the items of a list. -/
def itemTexts : List Data → List String
  | [] => []
  | item :: rest => item.text :: itemTexts rest

/-- The texts of the fields of an object. -/
def fieldTexts : List (String × Data) → List String
  | [] => []
  | (name, value) :: rest => (quoted name ++ ": " ++ value.text) :: fieldTexts rest

end

end Data

end SwiftSlice

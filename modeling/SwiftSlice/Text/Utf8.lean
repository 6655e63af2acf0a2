/-
Text as bytes. Reading goes byte by byte through a small automaton: it either
stands between two characters or inside one, where it knows how many bytes are
due and the range of the next. A byte that does not fit ends the unfinished
character as one ill-formed piece and is looked at again as a first byte. A
strict reading fails on any ill-formed piece; a lenient one puts the replacement
character in its place.
-/

namespace SwiftSlice.Text

/-- A sequence of bytes, such as the content of a file. -/
abbrev Bytes := List UInt8

/-- A character of which some bytes are still due; the next one lies between `low` and `high`. -/
structure Unfinished where
  value : Nat
  due : Nat
  low : Nat
  high : Nat
deriving DecidableEq, Repr

/-- What a first byte announces. -/
inductive Lead
  | whole (char : Char)
  | opening (rest : Unfinished)
  | stray
deriving DecidableEq, Repr

/-- Reads a first byte. Overlong forms, surrogates and code points that are too large are cut off
by the range of the second byte. -/
def lead (byte : UInt8) : Lead :=
  let code := byte.toNat
  if code < 0x80 then .whole (Char.ofNat code)
  else if code < 0xC2 then .stray
  else if code < 0xE0 then .opening ⟨code - 0xC0, 1, 0x80, 0xBF⟩
  else if code == 0xE0 then .opening ⟨0, 2, 0xA0, 0xBF⟩
  else if code == 0xED then .opening ⟨0xD, 2, 0x80, 0x9F⟩
  else if code < 0xF0 then .opening ⟨code - 0xE0, 2, 0x80, 0xBF⟩
  else if code == 0xF0 then .opening ⟨0, 3, 0x90, 0xBF⟩
  else if code == 0xF4 then .opening ⟨4, 3, 0x80, 0x8F⟩
  else if code < 0xF4 then .opening ⟨code - 0xF0, 3, 0x80, 0xBF⟩
  else .stray

/-- The pieces of a byte sequence: a character each, or nothing for an ill-formed piece. -/
def pieces : Option Unfinished → Bytes → List (Option Char)
  | none, [] => []
  | some _, [] => [none]
  | none, byte :: rest =>
    match lead byte with
    | .whole char => some char :: pieces none rest
    | .opening unfinished => pieces (some unfinished) rest
    | .stray => none :: pieces none rest
  | some unfinished, byte :: rest =>
    let code := byte.toNat
    if unfinished.low ≤ code && code ≤ unfinished.high then
      let value := unfinished.value * 64 + (code - 0x80)
      if unfinished.due ≤ 1 then some (Char.ofNat value) :: pieces none rest
      else pieces (some ⟨value, unfinished.due - 1, 0x80, 0xBF⟩) rest
    else
      none :: match lead byte with
      | .whole char => some char :: pieces none rest
      | .opening opened => pieces (some opened) rest
      | .stray => none :: pieces none rest

/-- The bytes of a text. -/
def encode (text : String) : Bytes :=
  text.toList.flatMap String.utf8EncodeChar

/-- The text of some bytes, with the replacement character for each ill-formed piece. -/
def decodeLenient (bytes : Bytes) : String :=
  String.ofList ((pieces none bytes).map (·.getD (Char.ofNat 0xFFFD)))

/-- The text of some bytes, if they are well formed. -/
def decode? (bytes : Bytes) : Option String :=
  ((pieces none bytes).mapM id).map String.ofList

/-- Holds of well-formed bytes. -/
def isWellFormed (bytes : Bytes) : Bool :=
  (decode? bytes).isSome

end SwiftSlice.Text

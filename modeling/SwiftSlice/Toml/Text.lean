/-
Texts in TOML. A basic text stands between double quotes and has escapes, a
literal one stands between single quotes and has none; both may run over several
lines between tripled quotes. Each reader gives the text and what follows it, or
nothing if the text is not well formed.
-/

namespace SwiftSlice.Toml

/-- A space or a tab. -/
def isSpace (char : Char) : Bool :=
  char == ' ' || char == '\t'

def isSpaceOrBreak (char : Char) : Bool :=
  isSpace char || char == '\n'

/-- The control characters that may stand nowhere but in an escape; line feeds are told apart by
the callers. -/
def isControl (char : Char) : Bool :=
  (char.toNat < 32 && char != '\t') || char.toNat == 127

/-- Control characters that a text may not hold. -/
def isIllegal (multiline : Bool) (char : Char) : Bool :=
  isControl char && !(multiline && char == '\n')

/-! ### Escapes -/

def hexDigit? (char : Char) : Option Nat :=
  if char.isDigit then some (char.toNat - 48)
  else if 'a' ≤ char && char ≤ 'f' then some (char.toNat - 87)
  else if 'A' ≤ char && char ≤ 'F' then some (char.toNat - 55)
  else none

/-- The number that some hexadecimal digits write. -/
def hexNumber? (digits : List Char) : Option Nat :=
  (digits.mapM hexDigit?).map (·.foldl (fun value digit => value * 16 + digit) 0)

/-- The character with a code, unless it is half of a surrogate pair or too large. -/
def scalar? (code : Nat) : Option Char :=
  if code < 0xD800 || (0xE000 ≤ code && code ≤ 0x10FFFF) then some (Char.ofNat code) else none

/-- The character that a short escape stands for. -/
def shortEscape? (char : Char) : Option Char :=
  match char with
  | 'b' => some (Char.ofNat 8)
  | 't' => some '\t'
  | 'n' => some '\n'
  | 'f' => some (Char.ofNat 12)
  | 'r' => some '\r'
  | '"' => some '"'
  | '\\' => some '\\'
  | _ => none

/-! ### Basic texts -/

/-- Where a reader of a basic text stands: in the text, behind a backslash that ends a line, or in
the blanks of the lines after it. -/
inductive Standing
  | inside
  | lineEnd
  | margin
deriving DecidableEq, Repr

/-- Puts a character in front of the text that was read. -/
def withChar (char : Char) (result : Option (List Char × List Char)) :
    Option (List Char × List Char) :=
  result.map fun pair => (char :: pair.1, pair.2)

/-- Reads a basic text up to its closing quotes. -/
def basicText (multiline : Bool) : Standing → List Char → Option (List Char × List Char)
  | _, [] => none
  | standing, char :: rest =>
    if standing = .lineEnd then
      if isSpace char then basicText multiline .lineEnd rest
      else if char == '\n' then basicText multiline .margin rest
      else none
    else if standing = .margin && isSpaceOrBreak char then basicText multiline .margin rest
    else if char == '"' then
      if !multiline then some ([], rest)
      else
        match rest with
        | '"' :: '"' :: after => some ([], after)
        | _ => withChar '"' (basicText multiline .inside rest)
    else if char == '\\' then
      match rest with
      | 'u' :: a :: b :: c :: d :: after =>
        (hexNumber? [a, b, c, d] >>= scalar?).bind fun escaped =>
          withChar escaped (basicText multiline .inside after)
      | 'U' :: a :: b :: c :: d :: e :: f :: g :: h :: after =>
        (hexNumber? [a, b, c, d, e, f, g, h] >>= scalar?).bind fun escaped =>
          withChar escaped (basicText multiline .inside after)
      | escape :: after =>
        if multiline && escape == '\n' then basicText multiline .margin after
        else if multiline && isSpace escape then basicText multiline .lineEnd after
        else (shortEscape? escape).bind fun escaped =>
          withChar escaped (basicText multiline .inside after)
      | [] => none
    else if isIllegal multiline char then none
    else withChar char (basicText multiline .inside rest)

/-! ### Literal texts -/

/-- Reads a literal text up to its closing quotes. -/
def literalText (multiline : Bool) : List Char → Option (List Char × List Char)
  | [] => none
  | char :: rest =>
    if char == '\x27' then
      if !multiline then some ([], rest)
      else
        match rest with
        | '\x27' :: '\x27' :: after => some ([], after)
        | _ => withChar '\x27' (literalText multiline rest)
    else if isIllegal multiline char then none
    else withChar char (literalText multiline rest)

/-! ### Texts of both sorts -/

/-- Takes up to two more quotes behind the closing ones into the text. -/
def extraQuotes (quote : Char) (text rest : List Char) : List Char × List Char :=
  let extra := (rest.take 2).takeWhile (· == quote)
  (text ++ extra, rest.drop extra.length)

/-- Drops a line feed right behind opening quotes. -/
def dropFirstBreak : List Char → List Char
  | '\n' :: rest => rest
  | text => text

/-- Reads a text of any sort that starts here. -/
def anyText? : List Char → Option (List Char × List Char)
  | '"' :: '"' :: '"' :: rest =>
    (basicText true .inside (dropFirstBreak rest)).map fun pair => extraQuotes '"' pair.1 pair.2
  | '"' :: rest => basicText false .inside rest
  | '\x27' :: '\x27' :: '\x27' :: rest =>
    (literalText true (dropFirstBreak rest)).map fun pair => extraQuotes '\x27' pair.1 pair.2
  | '\x27' :: rest => literalText false rest
  | _ => none

end SwiftSlice.Toml

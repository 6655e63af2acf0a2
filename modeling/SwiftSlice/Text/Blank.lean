/-
Blank characters and the operations that only look at them: trimming a text at
its ends, testing that a line has nothing on it, and squeezing the blanks out of
a name. A blank is any character of the Unicode white-space class together with
the four separators `U+001C` to `U+001F`. The ends of a text can also be compared
with another text.
-/

namespace SwiftSlice.Text

/-- White space in the wide sense: controls, spaces of every width, line and paragraph separators. -/
def isBlank (char : Char) : Bool :=
  let code := char.toNat
  (9 ≤ code && code ≤ 13) || (28 ≤ code && code ≤ 32) || code == 0x85 || code == 0xA0 ||
    code == 0x1680 || (0x2000 ≤ code && code ≤ 0x200A) || code == 0x2028 || code == 0x2029 ||
    code == 0x202F || code == 0x205F || code == 0x3000

/-- The two characters that indent a line of code. -/
def isIndent (char : Char) : Bool :=
  char == ' ' || char == '\t'

/-! ### Trimming -/

/-- Drops the longest run of characters in the class at the end. -/
def dropEndWhile (inClass : α → Bool) (items : List α) : List α :=
  (items.reverse.dropWhile inClass).reverse

/-- Drops the characters in the class at both ends. -/
def trimWhile (inClass : α → Bool) (items : List α) : List α :=
  dropEndWhile inClass (items.dropWhile inClass)

/-- A text without the blanks at its two ends. -/
def trim (text : String) : String :=
  String.ofList (trimWhile isBlank text.toList)

/-- A text without any blank in it, as a qualified name is recorded. -/
def squeeze (text : String) : String :=
  String.ofList (text.toList.filter (!isBlank ·))

/-- Holds of a line with nothing on it but blanks. -/
def isBlankLine (line : List Char) : Bool :=
  line.all isBlank

/-! ### Beginnings and endings -/

/-- Whether a text begins with another. -/
def beginsWith (text opening : String) : Bool :=
  opening.toList.isPrefixOf text.toList

/-- Whether a text ends with another. -/
def endsWith (text ending : String) : Bool :=
  ending.toList.isSuffixOf text.toList

end SwiftSlice.Text

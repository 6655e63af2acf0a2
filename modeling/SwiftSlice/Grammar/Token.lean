/-
Tokens of Swift source. The source is read one byte at a time; a byte of a
character outside ASCII counts as part of a word, so every span is a span of
bytes. A string with interpolations comes out as an opening token, the tokens of
the code inside, and a closing token, as a pair of brackets does.
-/

import SwiftSlice.Text.Utf8

namespace SwiftSlice.Grammar

open Text

/-- The sorts of tokens; a misplaced one is a name where none can stand. -/
inductive TokenKind
  | word
  | quotedWord
  | misplaced
  | number
  | text
  | pattern
  | symbol
  | hashWord
  | opening
  | closing
  | lineComment
  | blockComment
  | shebang
deriving DecidableEq, Repr

/-- A token with its span in bytes. `startsLine` tells whether a line ended since the last token
that is not a comment, where the end of a line right before a block comment does not count, and
`followsBlock` whether a block comment stands between the two. -/
structure Token where
  kind : TokenKind
  text : String
  start : Nat
  stop : Nat
  startsLine : Bool
  followsBlock : Bool := false
deriving DecidableEq, Repr

/-- Holds of the tokens without meaning for the code. -/
def TokenKind.isComment : TokenKind → Bool
  | .lineComment | .blockComment | .shebang => true
  | _ => false

/-! ### Classes of bytes -/

/-- The bytes of a source, each as the character with its number. -/
def units (source : Bytes) : List Char :=
  source.map fun byte => Char.ofNat byte.toNat

def isLineEnd (unit : Char) : Bool :=
  unit == '\n' || unit == '\r'

def isSpace (unit : Char) : Bool :=
  unit == ' ' || unit == '\t' || isLineEnd unit || unit == '\x0b' || unit == '\x0c'

/-- Holds of the bytes of words: letters, digits, the low line, the dollar sign, and the bytes of
characters outside ASCII. -/
def isWordUnit (unit : Char) : Bool :=
  unit.isAlphanum || unit == '_' || unit == '$' || 128 ≤ unit.toNat

/-- Holds of the bytes of operators, and of the bytes of characters outside ASCII. -/
def isOperatorUnit (unit : Char) : Bool :=
  "/=-+!*%<>&|^~?.".toList.contains unit || 128 ≤ unit.toNat

/-! ### Characters outside ASCII -/

/-- The length in bytes of the character that a byte starts. -/
def wideLength (first : Char) : Nat :=
  if first.toNat < 0xE0 then 2 else if first.toNat < 0xF0 then 3 else 4

/-- The number of the character outside ASCII that some bytes start with; the later bytes of a
character start none. -/
def wideCode? : List Char → Option Nat
  | [] => none
  | first :: rest =>
    if first.toNat < 0xC0 then none
    else
      let length := wideLength first
      let lead := first.toNat - (if length = 2 then 0xC0 else if length = 3 then 0xE0 else 0xF0)
      some ((rest.take (length - 1)).foldl (fun code unit => code * 64 + unit.toNat % 64) lead)

/-- The ranges of the characters outside ASCII that operators are made of. -/
def wideOperatorRanges : List (Nat × Nat) :=
  [(0xA1, 0xA7), (0xA9, 0xA9), (0xAB, 0xAC), (0xAE, 0xAE), (0xB0, 0xB1), (0xB6, 0xB6), (0xBB, 0xBB),
    (0xBF, 0xBF), (0xD7, 0xD7), (0xF7, 0xF7), (0x2016, 0x2017), (0x2020, 0x2027), (0x2030, 0x203E),
    (0x2041, 0x2053), (0x2055, 0x205E), (0x2190, 0x23FF), (0x2500, 0x2775), (0x2794, 0x2BFF),
    (0x2E00, 0x2E7F), (0x3001, 0x3003), (0x3008, 0x3020), (0x3030, 0x3030)]

/-- Holds of bytes that start with an operator character outside ASCII. -/
def startsWideOperator (text : List Char) : Bool :=
  (wideCode? text).any fun code =>
    wideOperatorRanges.any fun range => range.1 ≤ code && code ≤ range.2

/-- The length of the word that some bytes start with. -/
def wordLength : List Char → Nat
  | [] => 0
  | first :: rest =>
    if isWordUnit first && !startsWideOperator (first :: rest) then 1 + wordLength rest else 0

/-! ### Comments and literals -/

/-- The length of a block comment, in which others may be nested. -/
def blockCommentLength (depth : Nat) : List Char → Nat
  | '/' :: '*' :: rest => 2 + blockCommentLength (depth + 1) rest
  | '*' :: '/' :: rest => if depth ≤ 1 then 2 else 2 + blockCommentLength (depth - 1) rest
  | _ :: rest => 1 + blockCommentLength depth rest
  | [] => 0

/-- How a string is delimited: by the number signs around it, and by three quotes if it may run
over lines. -/
structure Quote where
  signs : Nat
  isBlock : Bool
deriving DecidableEq, Repr

namespace Quote

def signText (quote : Quote) : List Char :=
  List.replicate quote.signs '#'

def marks (quote : Quote) : List Char :=
  List.replicate (if quote.isBlock then 3 else 1) '"'

def opening (quote : Quote) : List Char :=
  quote.signText ++ quote.marks

def closing (quote : Quote) : List Char :=
  quote.marks ++ quote.signText

def escape (quote : Quote) : List Char :=
  '\\' :: quote.signText

end Quote

/-- How a piece of the text of a string ends. -/
inductive PieceEnd
  | closed
  | interpolated
  | unclosed
deriving DecidableEq, Repr

/-- The length of a piece of string text with what ends it: the closing marks, or the opening of an
interpolation. The first `skipped` bytes are taken as they are. -/
def textPiece (quote : Quote) (skipped : Nat) : List Char → Nat × PieceEnd
  | [] => (0, .unclosed)
  | first :: rest =>
    let longer (found : Nat × PieceEnd) := (found.1 + 1, found.2)
    match skipped with
    | left + 1 => longer (textPiece quote left rest)
    | 0 =>
      if quote.closing.isPrefixOf (first :: rest) then (quote.closing.length, .closed)
      else if (quote.escape ++ ['(']).isPrefixOf (first :: rest) then
        (quote.escape.length + 1, .interpolated)
      else if !quote.isBlock && isLineEnd first then (0, .unclosed)
      else if quote.escape.isPrefixOf (first :: rest) then
        longer (textPiece quote quote.escape.length rest)
      else longer (textPiece quote 0 rest)

/-- The marks that a string starts with, if one does. -/
def quote? (text : List Char) : Option Quote :=
  let signs := (text.takeWhile (· == '#')).length
  match text.drop signs with
  | '"' :: '"' :: '"' :: _ => some ⟨signs, true⟩
  | '"' :: _ => some ⟨signs, false⟩
  | _ => none

/-- The length of the rest of a pattern between slashes, if it is closed on its line. -/
def patternLength? : List Char → Option Nat
  | '/' :: _ => some 1
  | '\\' :: second :: rest => if isLineEnd second then none else (patternLength? rest).map (· + 2)
  | first :: rest => if isLineEnd first then none else (patternLength? rest).map (· + 1)
  | [] => none

/-- The length of a text up to and with the first slash and number sign in it. -/
def signedEnd? : List Char → Option Nat
  | '/' :: '#' :: _ => some 2
  | _ :: rest => (signedEnd? rest).map (· + 1)
  | [] => none

/-- The length of a text up to and with the last slash and number sign in it. -/
def lastSignedEnd? : List Char → Option Nat
  | [] => none
  | first :: rest =>
    match lastSignedEnd? rest with
    | some length => some (length + 1)
    | none => if first == '/' && rest.head? = some '#' then some 2 else none

/-- The length of the rest of a pattern behind a number sign and a slash. One that starts on a line
of its own ends at the first closing mark, and any other at the last one on its line. -/
def signedPatternLength? (rest : List Char) : Option Nat :=
  if rest.head?.any isLineEnd then signedEnd? rest
  else lastSignedEnd? (rest.takeWhile (! isLineEnd ·))

/-- The length of a run of operator characters, which a comment ends. -/
def operatorLength : List Char → Nat
  | '/' :: '/' :: _ => 0
  | '/' :: '*' :: _ => 0
  | first :: rest =>
    if isOperatorUnit first && (first.toNat < 0xC0 || startsWideOperator (first :: rest)) then
      1 + operatorLength rest
    else 0
  | [] => 0

/-- The length of a number, without its first digit. -/
def numberLength (rest : List Char) : Nat :=
  let whole := wordLength rest
  match rest.drop whole with
  | '.' :: digit :: after => if digit.isDigit then whole + 2 + wordLength after else whole
  | _ => whole

/-- The words of conditional directives that have a condition. -/
def conditionWords : List String :=
  ["if", "elseif"]

/-- The words of conditional directives, each before those that it starts with. -/
def directiveWords : List String :=
  conditionWords ++ ["else", "endif"]

/-- The length of the word behind a number sign, with the blanks between them. The word of a
directive ends where the directive does, whatever follows. -/
def hashWordLength (rest : List Char) : Nat :=
  match directiveWords.find? fun word => word.toList.isPrefixOf rest with
  | some word => word.length
  | none =>
    let blanks := (rest.takeWhile isSpace).length
    match wordLength (rest.drop blanks) with
    | 0 => 0
    | length => blanks + length

/-! ### Reading tokens -/

/-- What a closing parenthesis closes: an opening one, or an interpolation of a string. -/
inductive Scope
  | parenthesis
  | interpolation (quote : Quote)
deriving DecidableEq, Repr

/-- What stands at one place: a token of some length, or a blank; and what is open after it. -/
structure Lexeme where
  kind : Option TokenKind
  length : Nat
  scopes : List Scope

/-- A piece of a string that starts with some bytes of marks. -/
def textLexeme (scopes : List Scope) (quote : Quote) (continued : Bool) (marks : Nat)
    (text : List Char) : Lexeme :=
  let (length, ending) := textPiece quote 0 (text.drop marks)
  match ending with
  | .interpolated =>
    ⟨some (if continued then .text else .opening), marks + length, .interpolation quote :: scopes⟩
  | _ => ⟨some (if continued then .closing else .text), marks + length, scopes⟩

/-- The words after which an operand is expected. -/
def wordsBeforeOperand : List String :=
  ["return", "in", "case", "where", "if", "while", "switch", "guard", "else", "try", "await",
    "throw", "is", "as", "let", "var"]

/-- Holds of a token that ends an operand. -/
def Token.endsOperand (token : Token) : Bool :=
  match token.kind with
  | .word => !wordsBeforeOperand.contains token.text
  | .quotedWord | .number | .text | .pattern | .closing => true
  | _ => false

/-- What stands at the start of a text that does not start with a comment or a string.
`afterOperand` tells whether a slash here divides. -/
def codeLexeme (scopes : List Scope) (afterOperand : Bool) (first : Char) (rest : List Char) :
    Lexeme :=
  if isSpace first then ⟨none, 1, scopes⟩
  else if startsWideOperator (first :: rest) then
    ⟨some .symbol, operatorLength (first :: rest), scopes⟩
  else if first.isDigit then ⟨some .number, 1 + numberLength rest, scopes⟩
  else if isWordUnit first then ⟨some .word, max 1 (wordLength (first :: rest)), scopes⟩
  else if first == '\x60' then
    ⟨some .quotedWord, min (2 + (rest.takeWhile (· != '\x60')).length) (1 + rest.length), scopes⟩
  else if first == '#' then
    let asPattern := if rest.head? = some '/' then signedPatternLength? rest.tail else none
    match asPattern with
    | some length => ⟨some .pattern, 2 + length, scopes⟩
    | none =>
      let length := hashWordLength rest
      ⟨some (if length = 0 then .symbol else .hashWord), 1 + length, scopes⟩
  else if first == '(' then ⟨some .opening, 1, .parenthesis :: scopes⟩
  else if first == '[' || first == '\x7b' then ⟨some .opening, 1, scopes⟩
  else if first == ']' || first == '\x7d' then ⟨some .closing, 1, scopes⟩
  else if first == ')' then
    match scopes with
    | .interpolation quote :: outer => textLexeme outer quote true 1 (first :: rest)
    | _ => ⟨some .closing, 1, scopes.tail⟩
  else
    let asPattern := if first == '/' && !afterOperand && !rest.head?.any isSpace then
      patternLength? rest else none
    match asPattern with
    | some length => ⟨some .pattern, 1 + length, scopes⟩
    | none => ⟨some .symbol, max 1 (operatorLength (first :: rest)), scopes⟩

/-- What stands at the start of a text. -/
def lexemeAt (scopes : List Scope) (afterOperand : Bool) (first : Char) (rest : List Char) :
    Lexeme :=
  match first, rest with
  | '/', '/' :: after =>
    ⟨some .lineComment, 2 + (after.takeWhile (! isLineEnd ·)).length, scopes⟩
  | '/', '*' :: _ => ⟨some .blockComment, blockCommentLength 0 (first :: rest), scopes⟩
  | _, _ =>
    match quote? (first :: rest) with
    | some quote => textLexeme scopes quote false quote.opening.length (first :: rest)
    | none => codeLexeme scopes afterOperand first rest

/-- What came since the last token of the code: whether a line ended, whether one ended behind all
comments, and whether there was a block comment. -/
structure Gap where
  startsLine : Bool := false
  lineEnded : Bool := false
  hasBlock : Bool := false

namespace Gap

/-- Whether the next token is the first of its line. -/
def isLineStart (gap : Gap) : Bool :=
  gap.startsLine || gap.lineEnded

/-- A gap with one more blank. -/
def addBlank (gap : Gap) (unit : Char) : Gap :=
  { gap with lineEnded := gap.lineEnded || isLineEnd unit }

/-- A gap with one more comment. A block comment takes the end of the line before it away. -/
def addComment (gap : Gap) (kind : TokenKind) : Gap :=
  if kind = .blockComment then { gap with lineEnded := false, hasBlock := true }
  else { gap with startsLine := gap.isLineStart, lineEnded := false }

end Gap

/-- The tokens of a text that starts at an offset behind a gap. -/
def tokensFrom (scopes : List Scope) (afterOperand : Bool) (gap : Gap) (offset : Nat) :
    List Char → List Token
  | [] => []
  | first :: rest =>
    let lexeme := lexemeAt scopes afterOperand first rest
    let width := lexeme.length - 1
    let stop := offset + 1 + width
    let after := rest.drop width
    match lexeme.kind with
    | none => tokensFrom lexeme.scopes afterOperand (gap.addBlank first) stop after
    | some kind =>
      let text := String.ofList (first :: rest.take width)
      let token : Token := ⟨kind, text, offset, stop, gap.isLineStart, gap.hasBlock⟩
      if kind.isComment then
        token :: tokensFrom lexeme.scopes afterOperand (gap.addComment kind) stop after
      else token :: tokensFrom lexeme.scopes token.endsOperand {} stop after
termination_by text => text.length
decreasing_by all_goals simp only [List.length_drop, List.length_cons]; omega

/-- The mark that may stand at the start of a text to tell its encoding. -/
def byteOrderMark : List Char :=
  (units (encode "\uFEFF"))

/-- The tokens of a source. A first line that names an interpreter is one token. -/
def tokens (source : Bytes) : List Token :=
  let all := units source
  let marked := if byteOrderMark.isPrefixOf all then byteOrderMark.length else 0
  let text := all.drop marked
  match text with
  | '#' :: '!' :: _ =>
    let line := text.takeWhile (! isLineEnd ·)
    ⟨.shebang, String.ofList line, marked, marked + line.length, true, false⟩ ::
      tokensFrom [] false ⟨true, false, false⟩ (marked + line.length) (text.drop line.length)
  | _ => tokensFrom [] false ⟨true, false, false⟩ marked text

end SwiftSlice.Grammar

/-
Pieces of Swift code. A piece is a token, or a bracketed group whose inside has
been turned into nodes already. A list of pieces is cut into statements, by the
ends of lines and by the shapes of declarations; nothing inside a group matters
for that.
-/

import SwiftSlice.Grammar.Token
import SwiftSlice.Syntax.Item

namespace SwiftSlice.Grammar

open Text

/-- A token, or a group from its opening token to its end. -/
inductive Piece
  | single (token : Token)
  | group (opening : Token) (stop : Nat) (isClosed : Bool) (inside : List Node)

namespace Piece

/-- The token that a piece starts with. -/
def head : Piece → Token
  | .single token => token
  | .group opening _ _ _ => opening

def start (piece : Piece) : Nat :=
  piece.head.start

def stop : Piece → Nat
  | .single token => token.stop
  | .group _ stop _ _ => stop

def startsLine (piece : Piece) : Bool :=
  piece.head.startsLine

/-- The text of a piece that is a token of one of some kinds. -/
def textOf? (kinds : List TokenKind) : Piece → Option String
  | .single token => if kinds.contains token.kind then some token.text else none
  | .group _ _ _ _ => none

/-- The word that a piece is, if it is not quoted. -/
def word? : Piece → Option String :=
  textOf? [.word]

def symbol? : Piece → Option String :=
  textOf? [.symbol]

/-- The word behind the number sign of a piece. -/
def hashWord? (piece : Piece) : Option String :=
  (piece.textOf? [.hashWord]).map fun text => String.ofList ((text.toList.drop 1).dropWhile isSpace)

/-- Holds of a word, quoted or not. -/
def isName (piece : Piece) : Bool :=
  (piece.textOf? [.word, .quotedWord]).isSome

def isWord (piece : Piece) (word : String) : Bool :=
  piece.word? == some word

def isSymbol (piece : Piece) (symbol : String) : Bool :=
  piece.symbol? == some symbol

/-- Holds of a group with a given bracket. -/
def isGroup (bracket : String) : Piece → Bool
  | .single _ => false
  | .group opening _ _ _ => opening.text == bracket

/-- Holds of a group in braces. -/
def isBlock : Piece → Bool :=
  isGroup "\x7b"

/-- Holds of a group in parentheses. -/
def isParenthesized : Piece → Bool :=
  isGroup "("

/-- Holds of a symbol behind which a member is named. -/
def endsInDot (piece : Piece) : Bool :=
  piece.symbol?.any fun symbol => symbol.toList.getLast? == some '.'

end Piece

/-! ### Words -/

/-- The keywords of type declarations and extensions. -/
def typeKeywords : List String :=
  ["class", "struct", "enum", "actor", "extension", "protocol"]

/-- The keywords of declarations. -/
def itemKeywords : List String :=
  typeKeywords ++ ["import", "typealias", "associatedtype", "func", "let", "var", "init", "deinit",
    "subscript", "case", "macro", "operator", "precedencegroup"]

/-- The keywords that are ordinary words unless a name follows. -/
def softKeywords : List String :=
  ["actor", "macro", "precedencegroup"]

/-- The words that may stand before the keyword of a declaration. -/
def modifierWords : List String :=
  ["public", "private", "fileprivate", "internal", "open", "package", "static", "final", "override",
    "required", "convenience", "lazy", "weak", "unowned", "mutating", "nonmutating", "indirect",
    "dynamic", "optional", "prefix", "postfix", "infix", "nonisolated", "isolated", "distributed",
    "consuming", "borrowing", "async"]

/-- The words that start a statement which is not complete without a block. -/
def controlWords : List String :=
  ["if", "guard", "for", "while", "switch", "do", "repeat", "defer"]

/-- The words that start a declaration with parameters. -/
def parameterWords : List String :=
  ["func", "init", "subscript"]

/-- The words that start a statement with a block. -/
def blockWords : List String :=
  typeKeywords ++ parameterWords ++ controlWords ++ ["deinit", "var", "else", "catch"]

/-- The words that carry on the statement of the line before. -/
def joiningWords : List String :=
  ["else", "catch", "where", "as", "throws", "rethrows"]

/-- The words that something has to follow. -/
def openWords : List String :=
  ["let", "var", "func", "case", "typealias", "associatedtype", "operator", "try", "await", "throw",
    "as", "is", "inout", "where", "else", "catch"]

/-- The words in front of a protocol that stand for a type with it. -/
def qualifierWords : List String :=
  ["some", "any"]

/-- The operators that carry on the line before wherever they stand. -/
def joiningOperators : List String :=
  [".", "=", "->", "&&", "||", "??", "=="]

/-- The operators that may stand in front of an operand. At the start of a line they are the first
part of a new statement. -/
def leadingOperators : List String :=
  ["-", "+", "!", "&", "~", "++", "--", "...", "..<"]

/-- The signs that only stand between operands and cannot start a line: there they belong to
nothing. -/
def innerSigns : List String :=
  [",", "/", "*", "%", "<", ">", "|", "^", "..", "+=", "-=", "*=", "/=", "%=", "<<", ">>", "==="]

/-- The words that are never identifiers. -/
def reservedWords : List String :=
  ["class", "struct", "enum", "extension", "protocol", "import", "typealias", "associatedtype", "func",
    "let", "var", "init", "deinit", "subscript", "case", "operator", "if", "else", "guard", "for",
    "while", "repeat", "switch", "default", "do", "catch", "defer", "return", "throw", "throws",
    "rethrows", "try", "await", "in", "where", "is", "as", "self", "super", "nil", "true", "false",
    "public", "private", "fileprivate", "internal", "static", "inout", "break", "continue",
    "fallthrough", "some", "any"]

/-- The reserved words that are values. -/
def valueWords : List String :=
  ["self", "super", "nil", "true", "false"]

/-- The words of messages to the compiler. -/
def diagnosticWords : List String :=
  ["warning", "error", "sourceLocation"]

/-! ### Modifiers -/

/-- The number of pieces up to the angle bracket that closes `depth` open ones. -/
def anglesLength (depth : Nat) : List Piece → Nat
  | [] => 0
  | piece :: rest =>
    match piece.symbol? with
    | none => 1 + anglesLength depth rest
    | some symbol =>
      let opened := depth + symbol.toList.count '<'
      let left := if symbol = "->" then opened else opened - symbol.toList.count '>'
      if left = 0 then 1 else 1 + anglesLength left rest

/-- The number of pieces of a name with dots in it. -/
def dottedLength : List Piece → Nat
  | first :: second :: rest =>
    if !first.isName then 0
    else if second.isSymbol "." && rest.head?.any (·.isName) then 2 + dottedLength rest
    else 1
  | [only] => if only.isName then 1 else 0
  | [] => 0

/-- The number of pieces of a dotted name and the type arguments behind it. -/
def typeNameLength (pieces : List Piece) : Nat :=
  let named := dottedLength pieces
  match pieces.drop named with
  | next :: rest =>
    if 0 < named && next.isSymbol "<" then named + anglesLength 0 (next :: rest) else named
  | [] => named

/-- Counts a group in parentheses that follows the first pieces without a gap. -/
def withArguments (length : Nat) (pieces : List Piece) : Nat :=
  match pieces.take length |>.getLast?, pieces.drop length with
  | some last, next :: _ =>
    if next.isParenthesized && next.start == last.stop then length + 1 else length
  | _, _ => length

/-- The number of pieces of an attribute; zero if there is none. Its arguments stand on the line
of its name. -/
def attributeLength : List Piece → Nat
  | [] => 0
  | sign :: rest =>
    let named := typeNameLength rest
    let hasArguments := (rest.drop named).head?.any fun next =>
      next.isParenthesized && !next.startsLine
    if sign.isSymbol "@" then 1 + named + (if hasArguments then 1 else 0) else 0

/-- Holds of a keyword of a declaration at the start of some pieces. -/
def startsItem : List Piece → Bool
  | [] => false
  | first :: rest =>
    first.word?.any fun word =>
      itemKeywords.contains word && (!softKeywords.contains word || rest.head?.any (·.isName))

/-- Holds of a word that is a modifier where it stands: `class` is one before a member. -/
def startsModifier : List Piece → Bool
  | [] => false
  | first :: rest =>
    first.word?.any modifierWords.contains ||
      (first.isWord "class" && rest.head?.any fun next =>
        next.word?.any fun word => modifierWords.contains word || itemKeywords.contains word)

/-- The number of pieces of an attribute or modifier; zero if there is none. -/
def modifierLength (pieces : List Piece) : Nat :=
  if startsModifier pieces then withArguments 1 pieces else attributeLength pieces

/-- The attributes and modifiers that some pieces start with. -/
def leadingModifiers : List Piece → List (List Piece)
  | [] => []
  | first :: rest =>
    match modifierLength (first :: rest) with
    | 0 => []
    | length + 1 => (first :: rest.take length) :: leadingModifiers (rest.drop length)
termination_by pieces => pieces.length
decreasing_by simp only [List.length_drop, List.length_cons]; omega

/-- The attributes and modifiers of a declaration; none if what follows is no declaration. -/
def itemModifiers (pieces : List Piece) : List (List Piece) :=
  let found := leadingModifiers pieces
  if startsItem (pieces.drop found.flatten.length) then found else []

/-- The number of pieces of the attributes in front of the call of a macro, which cannot have any;
zero if there are none. -/
def strayLength (pieces : List Piece) : Nat :=
  let found := leadingModifiers pieces
  let length := found.flatten.length
  let isCalled := (pieces.drop length).head?.any fun next =>
    next.hashWord?.any fun word => !directiveWords.contains word
  if isCalled && found.all fun modifier => modifier.head?.any (·.isSymbol "@") then length else 0

/-- Holds of a piece that a value or a type may end with. -/
def Piece.endsOperand (piece : Piece) : Bool :=
  match piece with
  | .group _ _ _ _ => true
  | .single token =>
    [.quotedWord, .number, .text, .pattern].contains token.kind ||
      (token.kind == .word &&
        (!reservedWords.contains token.text || valueWords.contains token.text))

/-- Holds of the attributes, modifiers and keyword of a declaration that no value can hold. -/
def startsDeclaration (pieces : List Piece) : Bool :=
  (pieces.drop (itemModifiers pieces).flatten.length).head?.any fun first =>
    first.word?.any
      ["class", "struct", "enum", "extension", "protocol", "import", "typealias", "func", "let",
        "var"].contains

/-! ### Ends of statements -/

/-- What is known of a statement up to its last piece so far: the word that it starts with, whether
a block and a group in parentheses occurred in it, the number of angle brackets that are open, and
the piece before the last. -/
structure Progress where
  opener : Option String
  hasBlock : Bool
  hasParameters : Bool
  angles : Nat
  before : Option Piece
  last : Piece

namespace Progress

/-- The number of open angle brackets behind a piece. -/
def anglesAfter (angles : Nat) (piece : Piece) : Nat :=
  match piece.symbol? with
  | some "->" | none => angles
  | some symbol => angles + symbol.toList.count '<' - symbol.toList.count '>'

/-- A statement of one piece. -/
def begin (first : Piece) : Progress :=
  ⟨first.word?, first.isBlock, first.isParenthesized, anglesAfter 0 first, none, first⟩

/-- A statement with one more piece. -/
def push (progress : Progress) (piece : Piece) : Progress :=
  { progress with
    hasBlock := progress.hasBlock || piece.isBlock
    hasParameters := progress.hasParameters || piece.isParenthesized
    angles := anglesAfter progress.angles piece
    before := some progress.last
    last := piece }

def opensWith (progress : Progress) (words : List String) : Bool :=
  progress.opener.any words.contains

/-- Holds when the last word needs something behind it. The name of a member does not, whatever
word it is. -/
def awaitsAfterWord (progress : Progress) (word : String) : Bool :=
  (openWords.contains word && !progress.before.any Piece.endsInDot) ||
    (qualifierWords.contains word && progress.before.any fun earlier =>
      (earlier.symbol?.isSome && !earlier.endsInDot) || earlier.word?.any openWords.contains)

/-- Holds when the last symbol needs an operand behind it: it is no mark behind an operand, and no
operator that is only named. -/
def awaitsAfterSymbol (progress : Progress) (symbol : String) : Bool :=
  match progress.before with
  | none => symbol.toList.all isOperatorUnit || symbol == "@"
  | some earlier =>
    let isMark := (earlier.stop == progress.last.start && symbol.toList.all (">?!".toList.contains ·)) ||
      (progress.last.startsLine && symbol.toList.all (· == '>'))
    if earlier.isWord "operator" then false
    else if [",", ":", "=", "->", "@"].contains symbol then true
    else if earlier.isSymbol "=" || !symbol.toList.all isOperatorUnit then false
    else if earlier.word?.any ["as", "try"].contains then true
    else !(isMark || ["++", "--", "...", "!"].contains symbol)

/-- Holds when a statement cannot end here, so that the next line carries it on. -/
def awaitsMore (progress : Progress) : Bool :=
  (progress.opensWith controlWords && !progress.hasBlock) ||
    (progress.opensWith parameterWords && !progress.hasParameters) ||
    progress.last.word?.any progress.awaitsAfterWord ||
    progress.last.symbol?.any progress.awaitsAfterSymbol

/-- Holds when a word at the start of a line carries on the line before. -/
def joinsWord (progress : Progress) (word : String) : Bool :=
  joiningWords.contains word ||
    (word == "while" && progress.opensWith ["repeat"] && progress.last.isBlock) ||
    (word == "async" && progress.opensWith parameterWords && !progress.hasBlock)

/-- Holds when a sign that only stands between operands carries on the line before: a comma where
the statement is not complete yet, and what closes angle brackets. -/
def joinsInner (progress : Progress) (symbol : String) : Bool :=
  if symbol == "," then
    progress.opensWith ["case"] || (progress.opensWith parameterWords && !progress.hasBlock)
  else 0 < progress.angles && symbol.toList.all (· == '>')

/-- Holds when a symbol at the start of a line carries on the line before. -/
def joinsSymbol (progress : Progress) (symbol : String) (stop : Nat) (rest : List Piece) : Bool :=
  if joiningOperators.contains symbol then true
  else if ["+", "-"].contains symbol then rest.head?.any fun next => stop < next.start
  else if leadingOperators.contains symbol then false
  else if innerSigns.contains symbol then progress.joinsInner symbol
  else symbol == ":" || symbol.toList.all isOperatorUnit

/-- Holds when the first of some pieces, at the start of a line, carries on the line before. A
block does, unless what is before it ended with its own. -/
def joins (progress : Progress) : List Piece → Bool
  | [] => false
  | first :: rest =>
    if first.isBlock then !(progress.last.isBlock && progress.opensWith blockWords)
    else
      first.word?.any progress.joinsWord ||
        first.symbol?.any fun symbol => progress.joinsSymbol symbol first.stop rest

/-- Holds at the end of the parameters of a closure. -/
def endsParameters (progress : Progress) : Bool :=
  progress.last.isWord "in" && !progress.opensWith ["for"]

end Progress

/-- The number of pieces that belong to the statement before them. -/
def restLength (progress : Progress) : List Piece → Nat
  | [] => 0
  | piece :: rest =>
    let ends := piece.isSymbol ";" || progress.endsParameters ||
      (if piece.startsLine then
        piece.hashWord?.any directiveWords.contains ||
          !(progress.joins (piece :: rest) || progress.awaitsMore)
      else
        (progress.last.endsOperand && startsDeclaration (piece :: rest)) ||
          (progress.last.isBlock &&
            (startsItem (piece :: rest) || startsModifier (piece :: rest) || piece.isSymbol "@")))
    if ends then 0 else 1 + restLength (progress.push piece) rest

/-- The number of pieces of a statement that ends by its line. -/
def lineLength : List Piece → Nat
  | [] => 0
  | first :: rest => 1 + restLength (Progress.begin first) rest

/-- The number of pieces up to and with the first that satisfies a test. -/
def lengthThrough? (test : Piece → Bool) (pieces : List Piece) : Option Nat :=
  (pieces.findIdx? test).map (· + 1)

/-- The number of pieces before the name in an import. -/
def importLead : List Piece → Nat
  | _ :: second :: third :: _ =>
    if second.word?.any importSorts.contains && third.isName && !third.word?.any itemKeywords.contains
    then 2 else 1
  | _ => 1

/-- The number of pieces of a declaration without its modifiers. -/
def itemLength (pieces : List Piece) : Nat :=
  match pieces.head?.bind Piece.word? with
  | none => lineLength pieces
  | some word =>
    if word = "import" then
      let lead := importLead pieces
      lead + dottedLength (pieces.drop lead)
    else if typeKeywords.contains word then
      (lengthThrough? Piece.isBlock pieces).getD (lineLength pieces)
    else if word = "case" then
      min (lineLength pieces) ((lengthThrough? (·.isSymbol ":") pieces).getD pieces.length)
    else lineLength pieces

/-- The number of pieces of the condition of a directive, which may run over lines. An operand is a
name, with its arguments if it has some, or a condition in parentheses. -/
def conditionLength (awaitsOperand : Bool) : List Piece → Nat
  | [] => 0
  | piece :: rest =>
    if !awaitsOperand then
      if ["&&", "||"].any piece.isSymbol then 1 + conditionLength true rest
      else if piece.isParenthesized && !piece.startsLine then 1 + conditionLength false rest
      else 0
    else if piece.isSymbol "!" then 1 + conditionLength true rest
    else if piece.isName || piece.isParenthesized then 1 + conditionLength false rest
    else 0

/-- The number of pieces of a directive or a message to the compiler; zero if there is none. -/
def directiveLength : List Piece → Nat
  | [] => 0
  | first :: rest =>
    match first.hashWord? with
    | none => 0
    | some word =>
      if conditionWords.contains word then 1 + conditionLength true rest
      else if directiveWords.contains word then 1
      else if diagnosticWords.contains word then 1 + (rest.takeWhile (!·.startsLine)).length
      else 0

/-- Holds of pieces that start with a label in front of a statement. -/
def startsLabel : List Piece → Bool
  | first :: second :: third :: _ =>
    first.isName && second.isSymbol ":" && third.word?.any controlWords.contains
  | _ => false

/-- The number of pieces of a label of a statement or of the default case; zero if there is none. -/
def labelLength (pieces : List Piece) : Nat :=
  let isDefault := pieces.head?.any (·.isWord "default") && pieces[1]?.any (·.isSymbol ":")
  if startsLabel pieces || isDefault then 2 else 0

/-- Holds of pieces that start with what cannot start a statement. -/
def startsInside (pieces : List Piece) : Bool :=
  pieces.head?.any fun first => first.isWord "is" || first.symbol?.any innerSigns.contains

/-- The number of pieces of the statement that some pieces start with. -/
def statementLength (pieces : List Piece) : Nat :=
  let directive := directiveLength pieces
  let label := labelLength pieces
  let modifiers := (itemModifiers pieces).flatten.length
  if pieces.head?.any (·.isSymbol ";") || startsInside pieces then 1
  else if 0 < directive then directive
  else if 0 < label then label
  else if 0 < strayLength pieces then strayLength pieces
  else if startsItem (pieces.drop modifiers) then modifiers + itemLength (pieces.drop modifiers)
  else lineLength pieces

/-- Cuts some pieces into statements; a semicolon is a statement of its own. -/
def statements : List Piece → List (List Piece)
  | [] => []
  | first :: rest =>
    let length := statementLength (first :: rest) - 1
    (first :: rest.take length) :: statements (rest.drop length)
termination_by pieces => pieces.length
decreasing_by simp only [List.length_drop, List.length_cons]; omega

/-- Cutting loses no piece. -/
theorem flatten_statements (pieces : List Piece) : (statements pieces).flatten = pieces := by
  fun_induction statements pieces with
  | case1 => rfl
  | case2 first rest length inductionHypothesis =>
    rw [List.flatten_cons, inductionHypothesis, List.cons_append, List.take_append_drop]

end SwiftSlice.Grammar

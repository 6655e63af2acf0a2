/-
The syntax tree of Swift source, as far as declarations and names go: items with
their modifiers, names and bodies, calls of macros with their closures, comments,
directives, and every identifier. Brackets are matched in one pass over the
tokens; when a bracket closes, what is inside it becomes nodes at once, so that no
piece of code is looked at twice.
-/

import SwiftSlice.Grammar.Piece

namespace SwiftSlice.Grammar

open Text

/-! ### Single nodes -/

/-- A node of a kind without a role. -/
def named (kind : String) (start stop : Nat) (children : List Node) : Node :=
  .branch ⟨kind, none, true, false⟩ start stop children

/-- A token without a kind of its own. -/
def anonymous (text : String) (start stop : Nat) : Node :=
  .branch ⟨text, none, false, false⟩ start stop []

/-- A closing bracket that the source lacks. -/
def absent (text : String) (offset : Nat) : Node :=
  .branch ⟨text, none, false, true⟩ offset offset []

/-- Gives a node a role in its parent. -/
def inRole (role : Role) : Node → Node
  | .branch label start stop children => .branch { label with role := some role } start stop children

/-- The bracket that closes a group. -/
def closingOf (bracket : String) : String :=
  if bracket = "(" then ")" else if bracket = "[" then "]" else if bracket = "\x7b" then "\x7d"
  else "\""

/-- The kind of a group among expressions. -/
def groupKind (bracket : String) : String :=
  if bracket = "(" then "value_arguments" else if bracket = "[" then "array_literal"
  else if bracket = "\x7b" then "lambda_literal" else "line_string_literal"

/-- The node of a group: its brackets around what is inside. -/
def groupNode (kind : String) (opening : Token) (stop : Nat) (isClosed : Bool)
    (inside : List Node) : Node :=
  let closing := closingOf opening.text
  named kind opening.start stop <|
    anonymous opening.text opening.start opening.stop :: inside ++
      [if isClosed then anonymous closing (stop - 1) stop else absent closing stop]

/-- The node of a token among expressions. -/
def tokenNode (token : Token) : Node :=
  match token.kind with
  | .word =>
    if reservedWords.contains token.text then anonymous token.text token.start token.stop
    else named "simple_identifier" token.start token.stop []
  | .quotedWord => named "simple_identifier" token.start token.stop []
  | .number => named "integer_literal" token.start token.stop []
  | .text => named "line_string_literal" token.start token.stop []
  | .pattern => named "regex_literal" token.start token.stop []
  | .closing | .misplaced => named "ERROR" token.start token.stop []
  | _ => anonymous token.text token.start token.stop

/-- The node of a piece among expressions. -/
def pieceNode : Piece → Node
  | .single token => tokenNode token
  | .group opening stop isClosed inside =>
    groupNode (groupKind opening.text) opening stop isClosed inside

/-! ### Expressions -/

/-- Where the last of some pieces ends, or else the given offset. -/
def endOf (offset : Nat) (pieces : List Piece) : Nat :=
  pieces.getLast?.elim offset Piece.stop

/-- The closures with labels that follow a closure on its line. -/
def labelledClosures : List Piece → List Piece
  | label :: colon :: block :: rest =>
    if label.isName && !label.startsLine && colon.isSymbol ":" && block.isBlock then
      label :: colon :: block :: labelledClosures rest
    else []
  | _ => []

/-- The arguments and the closures that follow the name of a macro. -/
def macroSuffix (pieces : List Piece) : List Piece :=
  let arguments := (pieces.take 1).filter fun piece => piece.isParenthesized && !piece.startsLine
  let after := pieces.drop arguments.length
  match after with
  | block :: rest =>
    if block.isBlock then arguments ++ block :: labelledClosures rest else arguments
  | [] => arguments

/-- The call of a macro: the number sign, the name and what it is called with. -/
def macroNode (token : Token) (suffix : List Piece) : Node :=
  let blanks := ((token.text.toList.drop 1).takeWhile isSpace).length
  let name := named "simple_identifier" (token.start + 1 + blanks) token.stop []
  let call := match suffix with
    | [] => []
    | first :: _ => [named "call_suffix" first.start (endOf first.stop suffix)
        (suffix.map pieceNode)]
  named "macro_invocation" token.start (endOf token.stop suffix) <|
    anonymous "#" token.start (token.start + 1) :: name :: call

/-- The nodes of some pieces of an expression. -/
def expressionNodes : List Piece → List Node
  | [] => []
  | .single token :: rest =>
    if token.kind = .hashWord then
      macroNode token (macroSuffix rest) :: expressionNodes (rest.drop (macroSuffix rest).length)
    else tokenNode token :: expressionNodes rest
  | .group opening stop isClosed inside :: rest =>
    pieceNode (.group opening stop isClosed inside) :: expressionNodes rest
termination_by pieces => pieces.length
decreasing_by all_goals simp only [List.length_drop, List.length_cons]; omega

/-- A node over some pieces of an expression. -/
def covering (kind : String) (pieces : List Piece) : Node :=
  named kind (pieces.head?.elim 0 Piece.start) (endOf 0 pieces) (expressionNodes pieces)

/-! ### Declarations -/

/-- The node of an attribute or modifier. -/
def modifierNode (pieces : List Piece) : Node :=
  covering (if pieces.head?.any (·.isSymbol "@") then "attribute" else "modifier") pieces

/-- The node of the attributes and modifiers of a declaration, if it has some. -/
def modifierNodes (modifiers : List (List Piece)) : List Node :=
  match modifiers.flatten with
  | [] => []
  | first :: rest =>
    [named "modifiers" first.start (endOf first.stop rest) (modifiers.map modifierNode)]

/-- The node of a keyword. -/
def keywordNode (piece : Piece) : Node :=
  anonymous piece.head.text piece.start piece.stop

/-- Cuts some pieces at the commas and ampersands outside of angle brackets. -/
def inheritedTypes (depth : Nat) (current : List Piece) : List Piece → List (List Piece)
  | [] => if current.isEmpty then [] else [current.reverse]
  | piece :: rest =>
    match piece.symbol? with
    | none => inheritedTypes depth (piece :: current) rest
    | some symbol =>
      if depth = 0 && (symbol = "," || symbol = "&") then
        (if current.isEmpty then [] else [current.reverse]) ++ inheritedTypes 0 [] rest
      else
        let opened := depth + symbol.toList.count '<'
        let left := if symbol = "->" then opened else opened - symbol.toList.count '>'
        inheritedTypes left (piece :: current) rest

/-- The number of pieces before a colon, a constraint or a body, not counting inside of angle
brackets. -/
def nameSpan (depth : Nat) : List Piece → Nat
  | [] => 0
  | piece :: rest =>
    match piece.symbol? with
    | some symbol =>
      if depth = 0 && symbol = ":" then 0
      else
        let opened := depth + symbol.toList.count '<'
        1 + nameSpan (opened - symbol.toList.count '>') rest
    | none => if piece.isBlock || (depth = 0 && piece.isWord "where") then 0 else 1 + nameSpan depth rest

/-- The name of a type declaration: the first word, or the whole type for an extension. -/
def typeNameNodes (isExtension : Bool) (pieces : List Piece) : List Node :=
  match pieces with
  | [] => []
  | first :: rest =>
    if isExtension then [inRole .name (covering "user_type" pieces)]
    else inRole .name (named "type_identifier" first.start first.stop []) ::
      expressionNodes rest

/-- The types after the colon of a type declaration, without their attributes. -/
def inheritanceNodes (pieces : List Piece) : List Node :=
  (inheritedTypes 0 [] pieces).flatMap fun inherited =>
    let marked := attributeLength inherited
    expressionNodes (inherited.take marked) ++
      (match inherited.drop marked with
      | [] => []
      | bare => [covering "inheritance_specifier" bare])

/-- The body of a declaration. -/
def bodyNodes (kind : String) (pieces : List Piece) : List Node :=
  pieces.flatMap fun piece => match piece with
    | .group opening stop isClosed inside =>
      if piece.isBlock then [groupNode kind opening stop isClosed inside] else [pieceNode piece]
    | .single _ => [pieceNode piece]

/-- The parts of a type declaration after its keyword. -/
def typeParts (keyword : String) (pieces : List Piece) : List Node :=
  let head := pieces.takeWhile (!·.isBlock)
  let body := pieces.dropWhile (!·.isBlock)
  let nameLength := nameSpan 0 head
  let bodyKind := if keyword = "enum" then "enum_class_body"
    else if keyword = "protocol" then "protocol_body" else "class_body"
  let after := head.drop nameLength
  let inherited := if after.head?.any (·.isSymbol ":") then
    (after.drop 1).takeWhile (!·.isWord "where") else []
  let colon := if inherited.isEmpty then 0 else 1
  typeNameNodes (keyword = "extension") (head.take nameLength) ++
    expressionNodes (after.take colon) ++ inheritanceNodes inherited ++
    expressionNodes (after.drop (colon + inherited.length)) ++ bodyNodes bodyKind body

/-- The parts of an import after its keyword. -/
def importParts (pieces : List Piece) : List Node :=
  let lead := importLead pieces
  match pieces.drop lead with
  | [] => []
  | name => (pieces.drop 1 |>.take (lead - 1)).map keywordNode ++ [covering "identifier" name]

/-- The parts of another declaration after its keyword. -/
def plainParts (pieces : List Piece) : List Node :=
  match pieces with
  | [] => []
  | first :: rest =>
    if first.isName then
      inRole .name (named "type_identifier" first.start first.stop []) :: expressionNodes rest
    else expressionNodes (first :: rest)

/-- The kind of a declaration with a keyword. -/
def itemNodeKind (keyword : String) : String :=
  if keyword = "protocol" then "protocol_declaration"
  else if typeKeywords.contains keyword then "class_declaration"
  else if keyword = "func" then "function_declaration"
  else if keyword = "let" || keyword = "var" then "property_declaration"
  else if keyword = "case" then "enum_entry"
  else keyword ++ "_declaration"

/-- The node of a declaration: its modifiers, its keyword and the rest. -/
def itemNode (modifiers : List (List Piece)) (keyword : Piece) (rest : List Piece) : Node :=
  let lead := modifierNodes modifiers
  let start := (lead.head?.map Node.start).getD keyword.start
  let word := keyword.head.text
  let parts :=
    if typeKeywords.contains word then
      inRole .declarationKind (keywordNode keyword) :: typeParts word rest
    else if word = "import" then keywordNode keyword :: importParts (keyword :: rest)
    else keywordNode keyword :: plainParts rest
  named (itemNodeKind word) start (endOf keyword.stop rest) (lead ++ parts)

/-! ### Statements -/

/-- Where statements stand: outside of all braces, in the body of a type, in that of an enumeration,
or in any other braces. -/
inductive Place
  | outer
  | members
  | cases
  | inner
deriving DecidableEq, Repr

/-- The place inside of braces behind some pieces, the latest first: the body of a type if the last
keyword of a declaration there is one of a type. -/
def Place.behind (pieces : List Piece) : Place :=
  let header := pieces.takeWhile fun piece => !piece.isBlock && !piece.isSymbol ";"
  match (header.filterMap Piece.word?).find? itemKeywords.contains with
  | some "enum" => .cases
  | some word => if typeKeywords.contains word then .members else .inner
  | none => .inner


/-- The node of a directive: its word and the identifiers of its condition. -/
def directiveNode (first : Piece) (rest : List Piece) : Node :=
  let word := first.hashWord?.getD ""
  if diagnosticWords.contains word then
    named "diagnostic" first.start (endOf first.stop rest)
      [anonymous "#" first.start (first.start + 1)]
  else
    named "directive" first.start (endOf first.stop rest)
      (keywordNode first :: expressionNodes rest)

/-- Holds of a statement that is nothing but a label. -/
def isLabel : List Piece → Bool
  | [first, second] => first.isName && !first.isWord "default" && second.isSymbol ":"
  | _ => false

/-- Holds of a statement that belongs to nothing: a sign between operands, or nothing but
attributes. -/
def isStray (statement : List Piece) : Bool :=
  startsInside statement || (statement.head?.any (·.isSymbol "@") &&
    (leadingModifiers statement).flatten.length = statement.length)

/-- Holds of a reserved word that is a statement, or a value, all by itself. -/
def standsAlone : List Piece → Bool
  | [only] => only.word?.any
    ["return", "break", "continue", "fallthrough", "self", "super", "true", "false"].contains
  | _ => false

/-- The words that are plain names outside of all braces, where they would mean nothing. -/
def innerWords : List String :=
  ["return", "break", "continue", "case", "some"]

/-- A piece as a name where none can stand. -/
def misplace : Piece → Piece
  | .single token => .single { token with kind := .misplaced }
  | group => group

/-- Whether a name right behind a piece is misplaced in any case. Outside of all braces it is behind
a word that is only a name there, if that starts the statement, and behind parameters. -/
def misplacesNext (place : Place) (isStart : Bool) (piece : Piece) : Bool :=
  place = .outer && piece.word?.any fun word => if isStart then innerWords.contains word else word == "in"

/-- Marks the misplaced names among some pieces behind another. `isForced` tells whether a name at
the start is; any name behind an operand is, if the end of the line between them was taken away. -/
def settle (place : Place) (isForced isStart : Bool) (before : Option Piece) :
    List Piece → List Piece
  | [] => []
  | piece :: rest =>
    let isCut := (place = .outer || place = .inner) && piece.head.followsBlock &&
      before.any Piece.endsOperand
    let isLost := !piece.startsLine && piece.isName && !piece.word?.any reservedWords.contains &&
      (isForced || isCut)
    (if isLost then misplace piece else piece) ::
      settle place (isStart && misplacesNext place true piece) false (some piece) rest

/-- Holds of a single word with a misplaced name behind it. -/
def isBroken : List Piece → Bool
  | [_, .single token] => token.kind = .misplaced
  | _ => false

/-- The nodes of a statement behind a piece. A semicolon has no node, but one behind a blank is an
error, unless it stands behind a case. -/
def statementNodes (place : Place) (before : Option Piece) (pieces : List Piece) : List Node :=
  let statement := settle place (before.any (misplacesNext place false)) true none pieces
  match statement with
  | [] => []
  | first :: rest =>
    if first.isSymbol ";" then
      if place != .cases && before.any (·.stop < first.start) then
        [named "ERROR" first.start first.start []]
      else []
    else if 0 < directiveLength statement then [directiveNode first rest]
    else if isLabel statement then [named "statement_label" first.start (endOf first.stop rest) []]
    else if isBroken statement then
      named "simple_identifier" first.start first.stop [] :: expressionNodes rest
    else
      let modifiers := itemModifiers statement
      let bare := statement.drop modifiers.flatten.length
      match bare with
      | keyword :: after =>
        if startsItem bare && labelLength statement = 0 then [itemNode modifiers keyword after]
        else if isStray statement then [covering "ERROR" statement]
        else if standsAlone statement then [covering "statement" statement]
        else match expressionNodes statement with
          | [single] => [single]
          | _ => [covering "statement" statement]
      | [] => [covering "statement" statement]

/-- Holds when the first piece of a statement needs a line end or a semicolon before it and has none.
Between the members of a type a block comment is enough, and cases need nothing. -/
def lacksBreak (place : Place) (first : Piece) : Bool :=
  !first.startsLine && !first.isSymbol ";" && first.head.kind != .closing && place != .cases &&
    !(place = .members && first.head.followsBlock)

/-- Holds of a statement that is complete and that another one follows without a break. -/
def runsOn (place : Place) (statement : List Piece) (rest : List (List Piece)) : Bool :=
  directiveLength statement = 0 && statement.getLast?.any Piece.endsOperand &&
    rest.head?.any fun next => next.head?.any (lacksBreak place) &&
      (statement.getLast?.any Piece.isBlock || startsDeclaration next)

/-- One error over some nodes. -/
def asError (nodes : List Node) : List Node :=
  match nodes with
  | [] => []
  | first :: rest => [named "ERROR" first.start ((rest.getLast?.map Node.stop).getD first.stop) nodes]

/-- The nodes of some statements behind others, of which `before` is the last piece. When a statement
runs on into the next, all up to its end is wrong. -/
def statementsNodes (place : Place) (done : List Node) (before : Option Piece) :
    List (List Piece) → List Node
  | [] => done
  | statement :: rest =>
    let nodes := done ++ statementNodes place before statement
    statementsNodes place (if runsOn place statement rest then asError nodes else nodes)
      statement.getLast? rest

/-! ### Matching brackets -/

/-- An open bracket with the pieces and comments found in it so far, the latest first; the whole
source has no bracket. -/
structure Level where
  opening : Option Token
  pieces : List Piece
  comments : List Node

/-- The nodes of a level: statements between braces and at the top, expressions elsewhere; and the
comments between them. -/
def Level.nodes (level : Level) (place : Place) : List Node :=
  let pieces := level.pieces.reverse
  let code :=
    if level.opening.all (·.text == "\x7b") then statementsNodes place [] none (statements pieces)
    else expressionNodes pieces
  let comments := level.comments.reverse.filter fun comment =>
    code.all fun node => comment.start < node.start || node.stop < comment.stop
  code.merge comments fun left right => left.start ≤ right.start

/-- The group that a level becomes when it ends; `above` is the level around it. -/
def Level.close (level above : Level) (opening : Token) (stop : Nat) (isClosed : Bool) : Piece :=
  let place := if opening.text == "\x7b" then Place.behind above.pieces else .inner
  .group opening stop isClosed (level.nodes place)

def Level.push (level : Level) (piece : Piece) : Level :=
  { level with pieces := piece :: level.pieces }

/-- The node of a comment. -/
def commentNode (token : Token) : Node :=
  named (match token.kind with
    | .blockComment => "multiline_comment"
    | .shebang => "shebang_line"
    | _ => "comment") token.start token.stop []

/-- Takes a token in: `inner` is the level that it falls into and `outer` those around it. A
closing bracket without an opening one stays a piece. -/
def takeToken (state : Level × List Level) (token : Token) : Level × List Level :=
  let (inner, outer) := state
  if token.kind.isComment then
    ({ inner with comments := commentNode token :: inner.comments }, outer)
  else if token.kind = .opening then (⟨some token, [], []⟩, inner :: outer)
  else if token.kind = .closing then
    match inner.opening, outer with
    | some opening, above :: rest => (above.push (inner.close above opening token.stop true), rest)
    | _, _ => (inner.push (.single token), outer)
  else (inner.push (.single token), outer)

/-- Where the last piece of a level ends. -/
def Level.stop (level : Level) (opening : Token) : Nat :=
  level.pieces.head?.elim opening.stop Piece.stop

/-- Ends the levels that are still open. -/
def closeAll (inner : Level) : List Level → Level
  | [] => inner
  | above :: rest =>
    match inner.opening with
    | some opening => closeAll (above.push (inner.close above opening (inner.stop opening) false)) rest
    | none => closeAll above rest

/-- The syntax tree of a source. -/
def readTree (source : Bytes) : Node :=
  let (inner, outer) := (tokens source).foldl takeToken (⟨none, [], []⟩, [])
  named "source_file" 0 source.length ((closeAll inner outer).nodes .outer)

end SwiftSlice.Grammar

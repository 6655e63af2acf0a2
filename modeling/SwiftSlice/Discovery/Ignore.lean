/-
Ignore files. Each line of such a file is a rule that takes paths out of a scan,
or, behind an exclamation mark, puts them back. A rule is spelled out as a regular
expression over the path relative to the directory of the file; the expression is
read when a path is tested, so that a malformed set does no harm before that.
-/

import SwiftSlice.Discovery.Expression
import SwiftSlice.FileTree.Access
import SwiftSlice.Text.Lines

namespace SwiftSlice

open Text

/-- A rule of an ignore file: its expression as text, and whether it puts paths back. -/
structure IgnoreRule where
  expression : List Char
  isNegated : Bool
deriving DecidableEq, Repr

/-- The rules of an ignore file, with the directory that they are relative to. -/
structure IgnoreFile where
  base : Path
  rules : List IgnoreRule

namespace IgnoreRule

/-! ### Stars -/

/-- Shortens two stars or more behind another character to one. -/
def shortenAfter : List Char → List Char
  | [] => []
  | char :: '*' :: '*' :: rest =>
    if char == '/' then char :: shortenAfter ('*' :: '*' :: rest)
    else char :: '*' :: shortenAfter (rest.dropWhile (· == '*'))
  | char :: rest => char :: shortenAfter rest
termination_by text => text.length
decreasing_by
  · simp
  · have := (List.dropWhile_sublist (l := rest) (· == '*')).length_le
    simp only [List.length_cons]
    omega
  · simp

/-- Shortens two stars or more in front of another character to one; three or more before a slash
or at the end are shortened to two. -/
def shortenBefore : List Char → List Char
  | [] => []
  | '*' :: '*' :: rest =>
    match _behind : rest.dropWhile (· == '*') with
    | char :: after =>
      if char != '/' then '*' :: char :: shortenBefore after
      else '*' :: '*' :: char :: shortenBefore after
    | [] => ['*', '*']
  | char :: rest => char :: shortenBefore rest
termination_by text => text.length
decreasing_by
  · have := (List.dropWhile_sublist (l := rest) (· == '*')).length_le
    rw [_behind] at this
    simp only [List.length_cons] at this ⊢
    omega
  · have := (List.dropWhile_sublist (l := rest) (· == '*')).length_le
    rw [_behind] at this
    simp only [List.length_cons] at this ⊢
    omega
  · simp

/-! ### Spelling out a pattern -/

/-- The characters that have a meaning in expressions. -/
def specialChars : List Char :=
  "()[]\x7b\x7d?*+-|^$\\.&~# \t\n\r".toList ++ [Char.ofNat 11, Char.ofNat 12]

/-- A character that stands for itself. -/
def literal (char : Char) : List Char :=
  if specialChars.contains char then ['\\', char] else [char]

/-- The content of a set as an expression writes it: without slashes, with backslashes doubled, and
with the sign that turns it around. -/
def setContent (content : List Char) : Except Failure (List Char) :=
  let plain := (content.filter (· != '/')).flatMap fun char =>
    if char == '\\' then ['\\', '\\'] else [char]
  match plain with
  | [] => .error .emptyPattern
  | '!' :: rest => .ok ('^' :: rest)
  | '^' :: rest => .ok ('\\' :: '^' :: rest)
  | _ => .ok plain

/-- Spells out the wildcards of a pattern. -/
def spell (fuel : Nat) (pattern : List Char) : Except Failure (List Char) :=
  match fuel, pattern with
  | 0, _ => .ok []
  | _, [] => .ok []
  | fuel + 1, '*' :: '*' :: '/' :: rest => do return "(.*[/])?".toList ++ (← spell fuel rest)
  | fuel + 1, '*' :: '*' :: rest => do return ".*".toList ++ (← spell fuel rest)
  | fuel + 1, '*' :: rest => do return "[^/]*".toList ++ (← spell fuel rest)
  | fuel + 1, '?' :: rest => do return "[^/]".toList ++ (← spell fuel rest)
  | fuel + 1, '/' :: rest => do return "[/]".toList ++ (← spell fuel rest)
  | fuel + 1, '[' :: rest =>
    match bracketContent? rest with
    | some (content, after) => do
      let inner ← setContent content
      return '[' :: inner ++ ']' :: (← spell fuel after)
    | none => do return '\\' :: '[' :: (← spell fuel rest)
  | fuel + 1, char :: rest => do return literal char ++ (← spell fuel rest)

/-- The expression of a pattern, tied to the start if it is anchored. -/
def expressionOf (pattern : List Char) (isAnchored directoryOnly isNegated : Bool) :
    Except Failure (List Char) := do
  let body ← spell (pattern.length + 1) pattern
  let opening := if isAnchored then "^" else "(^|[/])"
  let closing := if !directoryOnly then "$" else if isNegated then "/$" else "($|\\/)"
  return opening.toList ++ body ++ closing.toList

/-! ### Reading a line -/

/-- Takes away the spaces at the end, up to the last one behind a backslash; such a backslash is
taken away too. -/
def trimSpaces (pattern : List Char) (strip : Bool) : Nat → List Char
  | 0 | 1 => pattern
  | last + 2 =>
    if pattern[last + 2]? = some ' ' then
      if pattern[last + 1]? = some '\\' then
        trimSpaces (pattern.eraseIdx (last + 1)) false last
      else trimSpaces (if strip then pattern.take (last + 2) else pattern) strip (last + 1)
    else pattern

/-- Refuses a pattern with nothing left in it. -/
def nonEmpty (pattern : List Char) : Except Failure (List Char) :=
  if pattern.isEmpty then .error .emptyPattern else .ok pattern

/-- Drops a slash at the start. -/
def dropSlash : List Char → List Char
  | '/' :: rest => rest
  | pattern => pattern

/-- Drops a backslash that keeps a number sign or an exclamation mark from its meaning. -/
def dropEscape : List Char → Except Failure (List Char)
  | ['\\'] => .error .emptyPattern
  | '\\' :: char :: rest =>
    .ok (if char == '#' || char == '!' then char :: rest else '\\' :: char :: rest)
  | pattern => .ok pattern

/-- The rule of a pattern; a single slash is none. -/
def ofPattern (pattern : List Char) (isNegated : Bool) : Except Failure (Option IgnoreRule) := do
  let pattern := shortenBefore (shortenAfter pattern)
  if dropEndWhile isBlank pattern = ['/'] then return none
  let pattern ← nonEmpty pattern
  let directoryOnly := pattern.getLast? = some '/'
  let hasSlash := pattern.dropLast.contains '/'
  let pattern ← nonEmpty (dropSlash pattern)
  let deep := pattern.take 2 = ['*', '*']
  let pattern ← nonEmpty (if deep then pattern.drop 2 else pattern)
  let pattern ← nonEmpty (dropSlash pattern)
  let pattern ← nonEmpty (if pattern.getLast? = some '/' then pattern.dropLast else pattern)
  let pattern ← dropEscape pattern
  let pattern := trimSpaces pattern true (pattern.length - 1)
  let expression ← expressionOf pattern (hasSlash && !deep) directoryOnly isNegated
  return some ⟨expression, isNegated⟩

/-- The rule of a line, unless it is blank or a comment. -/
def ofLine (line : List Char) : Except Failure (Option IgnoreRule) :=
  if isBlankLine line then .ok none
  else
    match line with
    | '#' :: _ => .ok none
    | '!' :: rest => ofPattern rest true
    | _ => ofPattern line false

/-! ### Testing a path -/

/-- Whether a rule applies to a path, given as text. A rule that puts paths back sees a slash at
the end of the path. -/
def appliesTo (directory : Location) (base : Path) (path : String) (rule : IgnoreRule) :
    Except Failure Bool := do
  let whole := (Path.parse path).lexical directory
  match whole.relativeTo? base with
  | none => .error (.outsideBase whole.text base.text)
  | some relative =>
    if rule.isNegated && path = "" then .error .emptyPattern
    else
      let shown := relative.text ++ (if rule.isNegated && endsWith path "/" then "/" else "")
      let shown := if beginsWith shown "./" then String.ofList (shown.toList.drop 2) else shown
      match Expression.parse? rule.expression with
      | some expression => .ok (expression.search shown)
      | none => .error .badPattern

end IgnoreRule

namespace IgnoreFile

/-- Reads the lines of an ignore file; lines without a rule are passed over. -/
def rulesOf (lines : List (List Char)) : Except Failure (List IgnoreRule) := do
  return (← lines.mapM IgnoreRule.ofLine).filterMap id

/-- Reads an ignore file. -/
def load (disk : Disk) (path : Path) : Except Failure IgnoreFile := do
  let content ← disk.read path
  match decode? content with
  | none => .error .undecodable
  | some text =>
    let rules ← rulesOf (splitLines (universalBreaks text.toList))
    return ⟨path.parent.lexical disk.directory, rules⟩

/-- The first of some rules that applies to a path. -/
def firstApplying? (directory : Location) (base : Path) (path : String) :
    List IgnoreRule → Except Failure (Option IgnoreRule)
  | [] => .ok none
  | rule :: rest => do
    if ← rule.appliesTo directory base path then return some rule
    else firstApplying? directory base path rest

/-- Whether an ignore file takes a path out. Where some rule puts paths back, the last rule that
applies decides. -/
def ignores (file : IgnoreFile) (directory : Location) (path : String) : Except Failure Bool := do
  let rules := if file.rules.any (·.isNegated) then file.rules.reverse else file.rules
  match ← firstApplying? directory file.base path rules with
  | some rule => return !rule.isNegated
  | none => return false

/-- Whether one of several ignore files takes a path out; files of other directories have no say
in it. -/
def anyIgnores (directory : Location) (path : String) : List IgnoreFile → Except Failure Bool
  | [] => .ok false
  | file :: rest =>
    match file.ignores directory path with
    | .ok true => .ok true
    | .ok false | .error (.outsideBase _ _) => anyIgnores directory path rest
    | .error failure => .error failure

end IgnoreFile

end SwiftSlice

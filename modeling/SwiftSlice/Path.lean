/-
Paths as they are written, before any file is looked at. A path is an anchor and
a list of names: repeated slashes and single dots are dropped when it is read,
while double dots stay, since only the file tree can tell where they lead. A path
that starts with exactly two slashes keeps both of them.
-/

namespace SwiftSlice

/-- Where a path starts. -/
inductive Anchor
  | relative
  | absolute
  | doubled
deriving DecidableEq, Repr

/-- The text that an anchor puts in front of the names. -/
def Anchor.text : Anchor → String
  | .relative => ""
  | .absolute => "/"
  | .doubled => "//"

/-- A path: its anchor and its names. -/
structure Path where
  anchor : Anchor
  names : List String
deriving DecidableEq, Repr

namespace Path

/-- Cuts a text at its slashes. -/
def components (text : String) : List String :=
  (text.toList.splitOn '/').map String.ofList

/-- The anchor that a text shows: three slashes or more count as one. -/
def anchorOf (text : String) : Anchor :=
  match (text.toList.takeWhile (· == '/')).length with
  | 0 => .relative
  | 2 => .doubled
  | _ => .absolute

/-- Reads a path. -/
def parse (text : String) : Path where
  anchor := anchorOf text
  names := (components text).filter fun name => name != "" && name != "."

/-- A path as text; the path without anchor and names is a single dot. -/
def text (path : Path) : String :=
  if path.anchor = .relative && path.names.isEmpty then "."
  else path.anchor.text ++ "/".intercalate path.names

def isAbsolute (path : Path) : Bool :=
  path.anchor != .relative

/-- The parts of a path: its anchor, if it has one, and its names. -/
def parts (path : Path) : List String :=
  if path.isAbsolute then path.anchor.text :: path.names else path.names

/-- The last name of a path, empty if there is none. -/
def name (path : Path) : String :=
  path.names.getLast?.getD ""

/-- A path without its last name. -/
def parent (path : Path) : Path :=
  { path with names := path.names.dropLast }

/-- Continues a path with another one; an absolute one replaces it. -/
def append (base next : Path) : Path :=
  if next.isAbsolute then next else { base with names := base.names ++ next.names }

instance : Append Path := ⟨append⟩

/-- A path one name deeper. -/
def child (base : Path) (name : String) : Path :=
  { base with names := base.names ++ [name] }

/-- The names that lead from the base to the path, if the path is at or below the base. -/
def relativeTo? (path base : Path) : Option Path :=
  if path.anchor = base.anchor && base.names.isPrefixOf path.names then
    some ⟨.relative, path.names.drop base.names.length⟩
  else none

/-- Drops each double dot with the name before it; at the anchor a double dot has no effect. -/
def foldDots (names : List String) : List String :=
  names.foldl (fun done name => if name = ".." then done.dropLast else done ++ [name]) []

/-- The absolute form of a path that its text alone gives. -/
def lexical (directory : List String) (path : Path) : Path :=
  let whole : Path := ⟨.absolute, directory⟩ ++ path
  { whole with names := foldDots whole.names }

end Path

end SwiftSlice

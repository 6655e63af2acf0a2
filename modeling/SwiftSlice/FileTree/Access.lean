/-
Access to the entries of a tree by path. A path is walked name by name; a link is
replaced by the names of its target, at most forty times in one walk, and a
double dot leads to the directory above the one reached so far. What stands at
the end of the walk is then read, listed, created or replaced. Names and whole
paths have a greatest length, beyond which nothing is looked for.
-/

import SwiftSlice.Failure
import SwiftSlice.FileTree.Basic
import SwiftSlice.Path
import SwiftSlice.Text.Blank

namespace SwiftSlice

open Text

/-- A tree together with what a process brings to it: the working directory, from which relative
paths start, the home directory, and the number of calls that it may still make inside one another
when it reads a value of a configuration. Of a thousand calls a command has made eight by then. -/
structure Disk where
  tree : FileTree
  directory : Location
  home : Location
  callRoom : Nat := 992

/-- The end of a walk: an entry, or a free name in a directory. -/
inductive Spot
  | taken (location : Location)
  | free (location : Location)
deriving DecidableEq, Repr

/-- How many links one walk may follow. -/
def linkLimit : Nat := 40

/-- How many bytes a name may have. -/
def nameLimit : Nat := 255

/-- How many bytes a path may have. -/
def pathLimit : Nat := 4095

namespace FileTree

/-- Walks the names from a location, following links while the budget lasts. A walk that may create
a file refuses a slash behind the last name, whatever stands there. -/
def walk (tree : FileTree) (creates : Bool) (budget : Nat) (here : Location) :
    List String → Except Errno Spot
  | [] => .ok (.taken here)
  | name :: rest =>
    if !tree.isDirectory here then .error .notDirectory
    else if name = "" || name = "." then tree.walk creates budget here rest
    else if name = ".." then tree.walk creates budget here.dropLast rest
    else if creates && !rest.isEmpty && rest.all (· = "") then .error .isDirectory
    else if nameLimit < name.utf8ByteSize then .error .nameTooLong
    else
      match tree.entry? (here ++ [name]) with
      | none => if rest.isEmpty then .ok (.free (here ++ [name])) else .error .noEntry
      | some (.link target) =>
        match budget with
        | 0 => .error .linkLoop
        | left + 1 =>
          tree.walk creates left (if beginsWith target "/" then [] else here)
            (Path.components target ++ rest)
      | some _ => tree.walk creates budget (here ++ [name]) rest
termination_by names => (budget, names.length)

end FileTree

namespace Disk

/-- Where the walk along a path starts. -/
def origin (disk : Disk) (path : Path) : Location :=
  if path.isAbsolute then [] else disk.directory

/-- Refuses a path with a null character in it. -/
def checkNames (path : Path) : Except Failure Unit :=
  if path.names.any fun name => name.toList.contains (Char.ofNat 0) then .error .nulInPath
  else .ok ()

/-- Refuses a path that cannot be walked: one with a null character in it, or one that is too
long. -/
def checkPath (path : Path) : Except Failure Unit := do
  checkNames path
  if pathLimit < path.text.utf8ByteSize then .error (.access .nameTooLong path.text)

/-- Puts the path into a failed access. -/
def blame (path : Path) : Except Errno α → Except Failure α
  | .ok value => .ok value
  | .error errno => .error (.access errno path.text)

/-- The end of the walk along a path. -/
def walkTo (disk : Disk) (creates : Bool) (path : Path) : Except Failure Spot := do
  checkPath path
  blame path (disk.tree.walk creates linkLimit (disk.origin path) path.names)

/-- The end of a walk that creates nothing. -/
def spot (disk : Disk) (path : Path) : Except Failure Spot :=
  disk.walkTo false path

/-- The entry that a path leads to. -/
def entry (disk : Disk) (path : Path) : Except Failure Entry := do
  match ← disk.spot path with
  | .free _ => .error (.access .noEntry path.text)
  | .taken location =>
    match disk.tree.entry? location with
    | some found => .ok found
    | none => .error (.access .noEntry path.text)

/-! ### Questions -/

/-- What a path leads to, if it leads anywhere. Only a name that is too long is an error. -/
def probe (disk : Disk) (path : Path) : Except Failure (Option Entry) :=
  match disk.entry path with
  | .ok found => .ok (some found)
  | .error (.access .nameTooLong place) => .error (.access .nameTooLong place)
  | .error _ => .ok none

/-- Whether a path leads to an entry of any kind. -/
def pathExists (disk : Disk) (path : Path) : Except Failure Bool :=
  Option.isSome <$> disk.probe path

def isFile (disk : Disk) (path : Path) : Except Failure Bool := do
  match ← disk.probe path with
  | some (.file _) => return true
  | _ => return false

def isDirectory (disk : Disk) (path : Path) : Except Failure Bool := do
  return (← disk.probe path) == some .directory

/-- Whether the last name of a path is itself a link. -/
def isLink (disk : Disk) (path : Path) : Bool :=
  match disk.spot path.parent with
  | .ok (.taken above) =>
    match disk.tree.entry? (above ++ [path.name]) with
    | some (.link _) => true
    | _ => false
  | _ => false

/-- The content of the file that a path leads to. -/
def read (disk : Disk) (path : Path) : Except Failure Bytes := do
  match ← disk.entry path with
  | .file content => .ok content
  | _ => .error (.access .isDirectory path.text)

/-- What lies below the directory that a path leads to, without passing through links. -/
def below (disk : Disk) (path : Path) : List (Location × Entry) :=
  match disk.spot path with
  | .ok (.taken location) => disk.tree.below location
  | _ => []

/-! ### Changes -/

/-- Makes one directory; the last name of the path is not followed if it is a link. -/
def makeOne (disk : Disk) (path : Path) : Except Failure Disk := do
  checkPath path
  if path.names.isEmpty || path.name = ".." then
    discard <| disk.entry path
    .error (.access .alreadyExists path.text)
  else
    match ← (disk.spot path.parent).mapError relabel with
    | .free _ => .error (.access .noEntry path.text)
    | .taken above =>
      if !disk.tree.isDirectory above then .error (.access .notDirectory path.text)
      else if nameLimit < path.name.utf8ByteSize then .error (.access .nameTooLong path.text)
      else if (disk.tree.entry? (above ++ [path.name])).isSome then
        .error (.access .alreadyExists path.text)
      else .ok { disk with tree := disk.tree.put (above ++ [path.name]) .directory }
where
  /-- A refused walk to the directory above is blamed on the whole path. -/
  relabel : Failure → Failure
    | .access errno _ => .access errno path.text
    | other => other

/-- A refusal to make a directory does not count where the path leads to one already. -/
def tolerate (disk : Disk) (path : Path) : Failure → Except Failure Unit
  | .access errno place => do
    if ← disk.isDirectory path then return () else .error (.access errno place)
  | other => .error other

/-- Makes a directory and those above it that are missing. A directory that is there already is
left alone. What was made before a failure stays. -/
def makeDirectories (disk : Disk) (path : Path) : Disk × Except Failure Unit :=
  match disk.makeOne path with
  | .ok made => (made, .ok ())
  | .error (.access .noEntry place) =>
    if _nonempty : path.names = [] then (disk, .error (.access .noEntry place))
    else
      match disk.makeDirectories path.parent with
      | (above, .ok ()) =>
        match above.makeOne path with
        | .ok made => (made, .ok ())
        | .error failure => (above, above.tolerate path failure)
      | (above, .error failure) => (above, .error failure)
  | .error failure => (disk, disk.tolerate path failure)
termination_by path.names.length
decreasing_by
  simp only [Path.parent, List.length_dropLast]
  have := List.length_pos_iff.2 _nonempty
  omega

/-- Writes a file, in place of the one that the path leads to if there is one. -/
def write (disk : Disk) (path : Path) (content : Bytes) : Except Failure Disk := do
  match ← disk.walkTo true path with
  | .free location => .ok { disk with tree := disk.tree.put location (.file content) }
  | .taken location =>
    if disk.tree.isDirectory location then .error (.access .isDirectory path.text)
    else .ok { disk with tree := disk.tree.put location (.file content) }

/-- Writes at the end of a file, which is made if it is missing. -/
def append (disk : Disk) (path : Path) (content : Bytes) : Except Failure Disk :=
  match disk.read path with
  | .ok old => disk.write path (old ++ content)
  | .error _ => disk.write path content

end Disk

end SwiftSlice

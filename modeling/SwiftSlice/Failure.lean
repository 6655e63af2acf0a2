/-
The ways in which an operation fails, with the wording of each. Failures of the
file system carry the path as it was given; failures of validation list every
field that was refused.
-/

import SwiftSlice.Text.Visible

namespace SwiftSlice

open Text

/-! ### File system -/

/-- Why the file system refused an access. -/
inductive Errno
  | noEntry
  | alreadyExists
  | notDirectory
  | isDirectory
  | nameTooLong
  | linkLoop
deriving DecidableEq, Repr

/-- The number of an error. -/
def Errno.code : Errno → Nat
  | .noEntry => 2
  | .alreadyExists => 17
  | .notDirectory => 20
  | .isDirectory => 21
  | .nameTooLong => 36
  | .linkLoop => 40

/-- The wording of an error. -/
def Errno.reason : Errno → String
  | .noEntry => "No such file or directory"
  | .alreadyExists => "File exists"
  | .notDirectory => "Not a directory"
  | .isDirectory => "Is a directory"
  | .nameTooLong => "File name too long"
  | .linkLoop => "Too many levels of symbolic links"

/-! ### Integers -/

/-- The refusal to convert an integer with too many digits, given their number if it is known. -/
def digitLimitReason (digits : Option Nat) : String :=
  "Exceeds the limit (4300 digits) for integer string conversion" ++
    (digits.elim "" fun count => ": value has " ++ toString count ++ " digits") ++
    "; use sys.set_int_max_str_digits() to increase the limit"

/-! ### Validation -/

/-- One step on the way to a refused value. -/
inductive FieldStep
  | field (name : String)
  | index (position : Nat)
deriving DecidableEq, Repr

/-- A step as text. -/
def FieldStep.text : FieldStep → String
  | .field name => name
  | .index position => toString position

/-- What is wrong with a value. -/
inductive Problem
  | missing
  | unknownField
  | notString
  | notList
  | notSet
  | notObject (typeName : String)
  | notBool
  | unreadableBool
  | notInt
  | unreadableInt
  | oversizedInt
  | fractionalInt
  | infiniteInt
  | notKind
  | badValue (reason : String)
deriving DecidableEq, Repr

/-- The name of a problem. -/
def Problem.code : Problem → String
  | .missing => "missing"
  | .unknownField => "extra_forbidden"
  | .notString => "string_type"
  | .notList => "list_type"
  | .notSet => "frozen_set_type"
  | .notObject _ => "model_type"
  | .notBool => "bool_type"
  | .unreadableBool => "bool_parsing"
  | .notInt => "int_type"
  | .unreadableInt => "int_parsing"
  | .oversizedInt => "int_parsing_size"
  | .fractionalInt => "int_from_float"
  | .infiniteInt => "finite_number"
  | .notKind => "literal_error"
  | .badValue _ => "value_error"

/-- The wording of a problem. -/
def Problem.message : Problem → String
  | .missing => "Field required"
  | .unknownField => "Extra inputs are not permitted"
  | .notString => "Input should be a valid string"
  | .notList => "Input should be a valid list"
  | .notSet => "Input should be a valid frozenset"
  | .notObject typeName => "Input should be a valid dictionary or instance of " ++ typeName
  | .notBool => "Input should be a valid boolean"
  | .unreadableBool => "Input should be a valid boolean, unable to interpret input"
  | .notInt => "Input should be a valid integer"
  | .unreadableInt => "Input should be a valid integer, unable to parse string as an integer"
  | .oversizedInt => "Unable to parse input string as an integer, exceeded maximum size"
  | .fractionalInt => "Input should be a valid integer, got a number with a fractional part"
  | .infiniteInt => "Input should be a finite number"
  | .notKind => "Input should be 'type', 'extension', 'typealias', 'function', 'constant' or 'other'"
  | .badValue reason => "Value error, " ++ reason

/-- A refused value: the way to it and what is wrong. -/
structure FieldError where
  place : List FieldStep
  problem : Problem
deriving DecidableEq, Repr

/-- Puts the way to a record in front of the way to its field. -/
def FieldError.under (step : FieldStep) (error : FieldError) : FieldError :=
  { error with place := step :: error.place }

/-- Why configuration data were refused. -/
inductive ConfigProblem
  | notIdentifierList
  | fields (errors : List FieldError)
deriving DecidableEq, Repr

/-! ### All failures -/

/-- Why an operation gave no result. -/
inductive Failure
  | access (errno : Errno) (path : String)
  | nulInPath
  | noPath
  | noName
  | linkLoop (path : String)
  | noHome
  | undecodable
  | emptyPattern
  | badPattern
  | outsideBase (path base : String)
  | hugeInteger (digits : Nat)
  | tooDeep
  | configSyntax (path : String)
  | configData (path : String) (problem : ConfigProblem)
  | invalidData (problem : ConfigProblem)
  | emptyOutputDir
  | foreignOutputDir
  | escapingOutputDir (outputDir : String)
  | snippetUnreadable (path reason : String)
  | noSnippet (path : String)
  | emptySnippet (path : String)
  | startUnreadable (path : String)
  | artifactsMissing (path : String)
  | artifactsNotDirectory (path : String)
deriving DecidableEq, Repr

/-- The wording of a failure; empty where there is none of its own. -/
def Failure.message : Failure → String
  | .access errno path =>
    "[Errno " ++ toString errno.code ++ "] " ++ errno.reason ++ ": " ++ quoted path
  | .nulInPath => "embedded null byte"
  | .noPath => "expected str, bytes or os.PathLike object, not list"
  | .noName => "unhashable type: 'list'"
  | .linkLoop path => "Symlink loop from " ++ quoted path
  | .noHome => "Could not determine home directory."
  | .undecodable => ""
  | .emptyPattern => "string index out of range"
  | .badPattern => ""
  | .outsideBase path base =>
    quoted path ++ " is not in the subpath of " ++ quoted base ++
      " OR one path is relative and the other is absolute."
  | .hugeInteger digits => digitLimitReason (some digits)
  | .tooDeep => "maximum recursion depth exceeded"
  | .configSyntax path => "Invalid TOML in " ++ path
  | .configData path .notIdentifierList =>
    "Invalid config in " ++ path ++ ": expected a list of identifiers"
  | .configData path (.fields _) => "Invalid config in " ++ path
  | .invalidData .notIdentifierList => "expected a list of identifiers"
  | .invalidData (.fields _) => ""
  | .emptyOutputDir => "output_dir must be a non-empty relative path"
  | .foreignOutputDir => "output_dir must be a relative path within the project root"
  | .escapingOutputDir outputDir => "output_dir '" ++ outputDir ++ "' escapes the project root"
  | .snippetUnreadable path reason => "File not found: " ++ path ++ ": " ++ reason
  | .noSnippet path => "No #Preview macro found in " ++ path
  | .emptySnippet path => "#Preview body is empty in " ++ path
  | .startUnreadable path => "Cannot read start file: " ++ path
  | .artifactsMissing path => "Artifacts directory does not exist: " ++ path
  | .artifactsNotDirectory path => "Artifacts path is not a directory: " ++ path

end SwiftSlice

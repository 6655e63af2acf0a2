/-
The grammar of command lines. Options may stand anywhere among the arguments, may
be shortened as long as only one option is meant, and have their value behind an
equals sign or in the next argument. A double dash ends the options. What looks
like a negative number or has a space in it is never an option by itself. A double
dash as the value of an option stands for no value at all.
-/

import SwiftSlice.Text.Blank
import SwiftSlice.Text.Visible
import SwiftSlice.Text.Word

namespace SwiftSlice.Command

open Text

/-! ### What a command takes -/

/-- An option of a command. -/
structure OptionSpec where
  name : String
  takesValue : Bool := true
  isRequired : Bool := false
deriving DecidableEq, Repr

/-- A command: its name, whether it is about a file, and its options. -/
structure CommandSpec where
  name : String
  takesFile : Bool
  options : List OptionSpec
deriving DecidableEq, Repr

/-- What a written option does. -/
inductive Action
  | help
  | option (spec : OptionSpec)
deriving DecidableEq, Repr

/-- The options that every command has. -/
def helpActions : List (String × Action) :=
  [("-h", .help), ("--help", .help)]

/-- The options of a command by their names. -/
def CommandSpec.actions (spec : CommandSpec) : List (String × Action) :=
  helpActions ++ spec.options.map fun option => (option.name, .option option)

/-- The name of an action in messages. -/
def Action.text : Action → String
  | .help => "-h/--help"
  | .option spec => spec.name

/-! ### Mistakes -/

/-- What is wrong with a command line. -/
inductive Mistake
  | ambiguous (option : String) (choices : List String)
  | valueMissing (action : Action)
  | valueIgnored (action : Action) (value : String)
  | required (names : List String)
  | unknownCommand (name : String) (choices : List String)
  | unrecognized (arguments : List String)
deriving DecidableEq, Repr

/-- The wording of a mistake. -/
def Mistake.message : Mistake → String
  | .ambiguous option choices =>
    "ambiguous option: " ++ option ++ " could match " ++ ", ".intercalate choices
  | .valueMissing action => "argument " ++ action.text ++ ": expected one argument"
  | .valueIgnored action value =>
    "argument " ++ action.text ++ ": ignored explicit argument " ++ quoted value
  | .required names => "the following arguments are required: " ++ ", ".intercalate names
  | .unknownCommand name choices =>
    "argument command: invalid choice: " ++ quoted name ++ " (choose from " ++
      ", ".intercalate (choices.map quoted) ++ ")"
  | .unrecognized arguments => "unrecognized arguments: " ++ " ".intercalate arguments

/-- Why a command line gives no command to run: help was asked for, or it has a mistake, which the
named program reports. -/
inductive Stop
  | help
  | mistake (program : String) (mistake : Mistake)
deriving DecidableEq, Repr

/-! ### Sorting arguments -/

/-- What an argument is taken for. -/
inductive Mark
  | argument
  | separator
  | option (action : Option Action) (value : Option String)
deriving DecidableEq, Repr

/-- Holds of a dash followed by a number; one line feed may stand at the end. -/
def isNegativeNumber (text : List Char) : Bool :=
  match if text.getLast? = some '\n' then text.dropLast else text with
  | '-' :: rest =>
    let whole := rest.takeWhile isDecimalDigit
    match rest.drop whole.length with
    | [] => !whole.isEmpty
    | '.' :: places => !places.isEmpty && places.all isDecimalDigit
    | _ => false
  | _ => false

/-- Cuts a text at its first equals sign. -/
def splitValue (text : String) : String × Option String :=
  let name := text.toList.takeWhile (· != '=')
  match text.toList.drop name.length with
  | '=' :: value => (String.ofList name, some (String.ofList value))
  | _ => (text, none)

/-- The options that a shortened one may mean. A long one is shortened at its end; a short one may
have more letters behind it. -/
def candidates (actions : List (String × Action)) (text : String) :
    List (String × Action × Option String) :=
  if beginsWith text "--" then
    let (name, value) := splitValue text
    (actions.filter fun action => beginsWith action.1 name).map fun action =>
      (action.1, action.2, value)
  else
    actions.filterMap fun action =>
      if action.1 == String.ofList (text.toList.take 2) then
        some (action.1, action.2, some (String.ofList (text.toList.drop 2)))
      else if beginsWith action.1 text then some (action.1, action.2, none)
      else none

/-- The mark of an option written with a value. Behind a short option, more short options may be
written instead; there is only the one for help. -/
def optionMark (name : String) (action : Action) (value : Option String) : Mark :=
  match value with
  | none => .option (some action) none
  | some text =>
    let rest := String.ofList (text.toList.dropWhile (· == 'h'))
    if beginsWith name "--" || text = "" then .option (some action) (some text)
    else .option (some action) (if rest = "" then none else some rest)

/-- What an argument is taken for before any double dash. -/
def markOf (actions : List (String × Action)) (text : String) : Except Mistake Mark :=
  if !beginsWith text "-" then .ok .argument
  else
    match actions.lookup text with
    | some action => .ok (.option (some action) none)
    | none =>
      let (name, value) := splitValue text
      match actions.lookup name, value with
      | some action, some value => .ok (optionMark name action (some value))
      | _, _ =>
        if text = "-" then .ok .argument
        else
          match candidates actions text with
          | [(name, action, value)] => .ok (optionMark name action value)
          | [] =>
            if isNegativeNumber text.toList || text.toList.contains ' ' then .ok .argument
            else .ok (.option none none)
          | several => .error (.ambiguous text (several.map (·.1)))

/-- What each argument is taken for. -/
def marks (actions : List (String × Action)) : List String → Except Mistake (List (String × Mark))
  | [] => .ok []
  | text :: rest =>
    if text = "--" then .ok ((text, .separator) :: rest.map fun text => (text, .argument))
    else do
      let mark ← markOf actions text
      return (text, mark) :: (← marks actions rest)

/-! ### Reading arguments -/

/-- What has been read of the arguments of a command. An option may have been given without a
value where it takes one. -/
structure Parsed where
  file : Option String := none
  flags : List String := []
  values : List (String × Option String) := []
  extras : List String := []
deriving DecidableEq, Repr

/-- The value that is written behind an equals sign. -/
def writtenValue (text : String) : Option String :=
  if text = "--" then none else some text

/-- Why reading ended early. -/
inductive Halt
  | help
  | mistake (mistake : Mistake)
deriving DecidableEq, Repr

namespace Parsed

/-- Whether an option was given. -/
def gave (parsed : Parsed) (name : String) : Bool :=
  parsed.flags.contains name || (parsed.values.lookup name).isSome

/-- All values of an option, in order. -/
def valuesOf (parsed : Parsed) (name : String) : List (Option String) :=
  (parsed.values.filter (·.1 == name)).map (·.2)

/-- What an option was last given with, if it was given. -/
def value? (parsed : Parsed) (name : String) : Option (Option String) :=
  (parsed.valuesOf name).getLast?

/-- Reads marked arguments. The first free argument is the file, if the command is about one; a
double dash right before or behind it belongs to it. -/
def read (takesFile : Bool) (parsed : Parsed) : List (String × Mark) → Except Halt Parsed
  | [] => .ok parsed
  | (_, .separator) :: (text, .argument) :: rest =>
    if takesFile && parsed.file.isNone then read takesFile { parsed with file := some text } rest
    else
      read takesFile { parsed with extras := parsed.extras ++ ["--", text] } rest
  | (text, .separator) :: rest =>
    read takesFile { parsed with extras := parsed.extras ++ [text] } rest
  | (text, .argument) :: (dashes, .separator) :: rest =>
    if takesFile && parsed.file.isNone then read takesFile { parsed with file := some text } rest
    else
      read takesFile { parsed with extras := parsed.extras ++ [text] } ((dashes, .separator) :: rest)
  | (text, .argument) :: rest =>
    if takesFile && parsed.file.isNone then read takesFile { parsed with file := some text } rest
    else read takesFile { parsed with extras := parsed.extras ++ [text] } rest
  | (text, .option none _) :: rest =>
    read takesFile { parsed with extras := parsed.extras ++ [text] } rest
  | (_, .option (some .help) none) :: _ => .error .help
  | (_, .option (some action) (some value)) :: rest =>
    match action with
    | .option ⟨name, true, _⟩ =>
      read takesFile { parsed with values := parsed.values ++ [(name, writtenValue value)] } rest
    | _ => .error (.mistake (.valueIgnored action value))
  | (_, .option (some (.option ⟨name, true, isRequired⟩)) none) :: rest =>
    match rest with
    | (value, .argument) :: after =>
      read takesFile { parsed with values := parsed.values ++ [(name, some value)] } after
    | _ => .error (.mistake (.valueMissing (.option ⟨name, true, isRequired⟩)))
  | (_, .option (some (.option ⟨name, false, _⟩)) none) :: rest =>
    read takesFile { parsed with flags := parsed.flags ++ [name] } rest

end Parsed

/-- The names of what a command needs and did not get. -/
def CommandSpec.missing (spec : CommandSpec) (parsed : Parsed) : List String :=
  (if spec.takesFile && parsed.file.isNone then ["file"] else []) ++
    (spec.options.filter fun option => option.isRequired && !parsed.gave option.name).map (·.name)

/-- Reads the arguments of a command. -/
def CommandSpec.read (spec : CommandSpec) (arguments : List String) : Except Halt Parsed := do
  let marked ← (marks spec.actions arguments).mapError .mistake
  let parsed ← Parsed.read spec.takesFile {} marked
  match spec.missing parsed with
  | [] => return parsed
  | names => .error (.mistake (.required names))

/-! ### Choosing the command -/

/-- Gives a mistake the program that reports it. -/
def stopOf (program : String) : Halt → Stop
  | .help => .help
  | .mistake mistake => .mistake program mistake

/-- Reads a command line: options of no command, the name of a command, and its arguments. What no
one takes is a mistake in the end. -/
def choose (program : String) (commands : List CommandSpec) (extras : List String) :
    List (String × Mark) → Except Stop (CommandSpec × Parsed)
  | [] => .error (.mistake program (.required ["command"]))
  | (_, .option (some action) value) :: _ =>
    match value with
    | some value => .error (.mistake program (.valueIgnored action value))
    | none => .error .help
  | (text, .option none _) :: rest => choose program commands (extras ++ [text]) rest
  | (text, .separator) :: [] => choose program commands (extras ++ [text]) []
  | (text, _) :: rest =>
    match commands.find? (·.name == text) with
    | none => .error (.mistake program (.unknownCommand text (commands.map (·.name))))
    | some spec => do
      let parsed ← (spec.read (rest.map (·.1))).mapError (stopOf (program ++ " " ++ spec.name))
      match extras ++ parsed.extras with
      | [] => return (spec, parsed)
      | unrecognized => .error (.mistake program (.unrecognized unrecognized))

/-- Reads a whole command line. -/
def parse (program : String) (commands : List CommandSpec) (arguments : List String) :
    Except Stop (CommandSpec × Parsed) := do
  let marked ← (marks helpActions arguments).mapError (.mistake program)
  choose program commands [] marked

end SwiftSlice.Command

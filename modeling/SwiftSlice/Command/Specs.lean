/-
The commands of the program and what each of them takes.
-/

import SwiftSlice.Command.Arguments

namespace SwiftSlice.Command

/-- The name of the program. -/
def program : String := "previewslice"

/-- The options about the project. -/
def projectOptions : List OptionSpec :=
  [{ name := "--root" }, { name := "--sources-dir" }]

/-- The options about logging. -/
def loggingOptions : List OptionSpec :=
  [{ name := "--verbose", takesValue := false }, { name := "--log-file" }]

/-- Prints the body of a preview, or the types or modules that it uses. -/
def extractSpec : CommandSpec where
  name := "extract"
  takesFile := true
  options := [{ name := "--types", takesValue := false }, { name := "--imports", takesValue := false }]

/-- Writes the sources that a preview needs. -/
def sliceSpec : CommandSpec where
  name := "slice"
  takesFile := true
  options := projectOptions ++
    [{ name := "--out-dir" }, { name := "--seed" }, { name := "--module" },
      { name := "--stdout", takesValue := false }] ++ loggingOptions

/-- Prints the files that a start file needs. -/
def resolveSpec : CommandSpec where
  name := "resolve"
  takesFile := false
  options :=
    [{ name := "--start", isRequired := true }, { name := "--sources-dir", isRequired := true }] ++
      loggingOptions

/-- Checks that written sources are reproduced. -/
def verifySpec : CommandSpec where
  name := "verify"
  takesFile := true
  options := projectOptions ++ [{ name := "--artifacts-dir", isRequired := true }] ++ loggingOptions

/-- All commands, in the order in which they are listed. -/
def commands : List CommandSpec :=
  [extractSpec, sliceSpec, resolveSpec, verifySpec]

end SwiftSlice.Command

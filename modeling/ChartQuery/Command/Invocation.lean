/-
# Invocations

What a command line asks for: one of four commands with everything that was said about it, or help.
Before the command only switches may stand; behind it options and arguments may be mixed.
-/

import ChartQuery.Command.Option
import ChartQuery.Library.Path

namespace ChartQuery.Command

/-- What an execution is told. -/
structure ExecuteOptions where
  chart : Text
  project : Text
  baseUrl : Option Text
  timeout : Option Binary64
  extended : Bool
  output : Text
  deriving Repr, Inhabited

/-- What a command line asks for. -/
inductive Invocation where
  | help
  | list (folder : Path)
  | compile (folder : Path) (chart : Text) (removeDateItems : Bool)
  | validate (folder : Path)
  | execute (folder : Path) (options : ExecuteOptions)
  deriving Repr, Inhabited

/-- The folder that an invocation is about. -/
def Invocation.folder? : Invocation → Option Path
  | .help => none
  | .list folder => some folder
  | .compile folder _ _ => some folder
  | .validate folder => some folder
  | .execute folder _ => some folder

/-- The folder where charts are looked for when nothing is said about it. -/
def standardFolder : Text := "./visualizations"

/-- The switch for help. -/
def helpForm : OptionForm := ⟨["--help"], false⟩

/-- The option for the folder. -/
def folderForm : OptionForm := ⟨["--dir", "-d"], true⟩

/-- The options before the command. -/
def leadingForms : List OptionForm := [⟨["--verbose", "-v"], false⟩, helpForm]

/-- The options of the command that compiles. -/
def compileForms : List OptionForm :=
  [folderForm, ⟨["--remove-date-items"], false⟩, helpForm]

/-- The options of the command that executes. -/
def executeForms : List OptionForm := [
  ⟨["--project", "-p"], true⟩, folderForm, ⟨["--base-url"], true⟩, ⟨["--timeout"], true⟩,
  ⟨["--extended"], false⟩, ⟨["--output", "-o"], true⟩, helpForm]

/-- How a chart is called in the list of arguments. -/
def chartArgument : Text := "NAME"

/-- The folder that words name. -/
def Words.folder (w : Words) : Path :=
  .ofText ((w.value? "--dir").getD standardFolder)

/-- No argument is left. -/
def noneLeft : List Text → Except UsageFault Unit
  | [] => .ok ()
  | text :: _ => .error (.surplusArgument text)

/-- The only argument. -/
def onlyArgument (name : Text) : List Text → Except UsageFault Text
  | [] => .error (.missingArgument name)
  | [text] => .ok text
  | _ :: text :: _ => .error (.surplusArgument text)

/-- What words ask for, unless they ask for help. -/
def unlessHelp (forms : List OptionForm) (args : List Text)
    (read : Words → Except UsageFault Invocation) : Except UsageFault Invocation := do
  let w ← readWords forms true args
  if w.has "--help" then pure .help else read w

/-- What the words behind a command that takes a folder only ask for. -/
def readFolderCommand (args : List Text) (invocation : Path → Invocation) :
    Except UsageFault Invocation :=
  unlessHelp [folderForm, helpForm] args fun w => do
    noneLeft w.arguments
    pure (invocation w.folder)

/-- What the words behind the command that compiles ask for. -/
def readCompile (args : List Text) : Except UsageFault Invocation :=
  unlessHelp compileForms args fun w => do
    let chart ← onlyArgument chartArgument w.arguments
    pure (.compile w.folder chart (w.has "--remove-date-items"))

/-- What the words behind the command that executes ask for. -/
def readExecute (args : List Text) : Except UsageFault Invocation :=
  unlessHelp executeForms args fun w => do
    let chart ← onlyArgument chartArgument w.arguments
    let timeout ← w.number? "--timeout"
    match w.value? "--project" with
    | none => .error (.missingOption "--project")
    | some project =>
      pure (.execute w.folder
        ⟨chart, project, w.value? "--base-url", timeout, w.has "--extended",
          (w.value? "--output").getD "table"⟩)

/-- What the words behind a command of some name ask for. -/
def readCommand (name : Text) (args : List Text) : Except UsageFault Invocation :=
  if name = "list" then readFolderCommand args .list
  else if name = "compile" then readCompile args
  else if name = "validate" then readFolderCommand args .validate
  else if name = "execute" then readExecute args
  else .error (.unknownCommand name)

/-- What a command line asks for. -/
def Invocation.ofArguments (args : List Text) : Except UsageFault Invocation := do
  let w ← readWords leadingForms false args
  if w.has "--help" then pure .help
  else
    match w.arguments with
    | [] => .error .missingCommand
    | name :: rest => readCommand name rest

end ChartQuery.Command

/-
# Options of a command line

The words of a command line as options and arguments. An option takes a value, which is the next
word whatever it looks like, or it is a switch. Options of one letter may be run together, the value
of the last one included. Behind two dashes every word is an argument, and a dash alone is one.
-/

import ChartQuery.Number.Numeral
import ChartQuery.Text.Basic

namespace ChartQuery.Command

/-- An option under all its names; the first one names it in what is read. -/
structure OptionForm where
  names : List Text
  takesValue : Bool
  deriving Repr, Inhabited

/-- The main name of an option. -/
def OptionForm.name (o : OptionForm) : Text :=
  o.names.headD ""

/-- What is wrong with a command line. -/
inductive UsageFault where
  | unknownOption (name : Text)
  | missingValue (name : Text)
  | surplusValue (name : Text)
  | unknownCommand (name : Text)
  | missingCommand
  | missingArgument (name : Text)
  | surplusArgument (text : Text)
  | missingOption (name : Text)
  | notNumber (name text : Text)
  deriving DecidableEq, Repr

/-- The words for a fault. -/
def UsageFault.message : UsageFault → Text
  | .unknownOption name => "No such option: " ++ name
  | .missingValue name => "Option '" ++ name ++ "' requires an argument."
  | .surplusValue name => "Option '" ++ name ++ "' does not take a value."
  | .unknownCommand name => "No such command '" ++ name ++ "'."
  | .missingCommand => "Missing command."
  | .missingArgument name => "Missing argument '" ++ name ++ "'."
  | .surplusArgument text => "Got unexpected extra argument (" ++ text ++ ")"
  | .missingOption name => "Missing option '" ++ name ++ "'."
  | .notNumber name text =>
    "Invalid value for '" ++ name ++ "': '" ++ text ++ "' is not a valid float."

/-- An option that was given, with its value unless it is a switch. -/
structure Given where
  name : Text
  value : Option Text
  deriving DecidableEq, Repr

/-- The options and arguments of a command line, both in order. -/
structure Words where
  options : List Given
  arguments : List Text
  deriving DecidableEq, Repr

/-- What one word is. -/
inductive Role where
  | argument
  | separator
  | complete (options : List Given)
  | incomplete (options : List Given) (name : Text)
  | fault (f : UsageFault)
  deriving DecidableEq, Repr

/-- The option of a name. -/
def formOf? (forms : List OptionForm) (name : Text) : Option OptionForm :=
  forms.find? (·.names.contains name)

/-- The role of a word with further switches before it. -/
def Role.after (before : Given) : Role → Role
  | .complete options => .complete (before :: options)
  | .incomplete options name => .incomplete (before :: options) name
  | role => role

/-- The role of letters behind a dash. -/
def lettersRole (forms : List OptionForm) : List Point → Role
  | [] => .complete []
  | c :: rest =>
    let name := Text.ofList [.char '-', c]
    match formOf? forms name with
    | none => .fault (.unknownOption name)
    | some form =>
      if form.takesValue then
        if rest.isEmpty then .incomplete [] form.name
        else .complete [⟨form.name, some (Text.ofList rest)⟩]
      else (lettersRole forms rest).after ⟨form.name, none⟩

/-- The role of a word that starts with two dashes: the name of an option, with its value behind an
equals sign. -/
def longRole (forms : List OptionForm) (word : List Point) : Role :=
  let name := Text.ofList (word.takeWhile (· ≠ .char '='))
  match formOf? forms name with
  | none => .fault (.unknownOption name)
  | some form =>
    if word.contains (.char '=') then
      let value := Text.ofList (word.drop (name.length + 1))
      if form.takesValue then .complete [⟨form.name, some value⟩]
      else .fault (.surplusValue name)
    else if form.takesValue then .incomplete [] form.name
    else .complete [⟨form.name, none⟩]

/-- The role of a word. -/
def roleOf (forms : List OptionForm) (word : Text) : Role :=
  match word.toList with
  | [.char '-', .char '-'] => .separator
  | .char '-' :: .char '-' :: _ => longRole forms word.toList
  | .char '-' :: c :: rest => lettersRole forms (c :: rest)
  | _ => .argument

/-- Words with further options before them. -/
def Words.afterOptions (options : List Given) (w : Words) : Words :=
  { w with options := options ++ w.options }

/-- Words with a further argument before them. -/
def Words.afterArgument (argument : Text) (w : Words) : Words :=
  { w with arguments := argument :: w.arguments }

/-- The options and arguments of a command line. Unless arguments may stand between options,
everything from the first argument on is an argument. -/
def readWords (forms : List OptionForm) (mixed : Bool) :
    List Text → Except UsageFault Words
  | [] => .ok ⟨[], []⟩
  | word :: rest =>
    match roleOf forms word with
    | .fault f => .error f
    | .separator => .ok ⟨[], rest⟩
    | .argument =>
      if mixed then (readWords forms mixed rest).map (·.afterArgument word)
      else .ok ⟨[], word :: rest⟩
    | .complete options => (readWords forms mixed rest).map (·.afterOptions options)
    | .incomplete options name =>
      match rest with
      | [] => .error (.missingValue name)
      | value :: more =>
        (readWords forms mixed more).map (·.afterOptions (options ++ [⟨name, some value⟩]))

namespace Words

/-- A switch was given. -/
def has (w : Words) (name : Text) : Bool :=
  w.options.any (·.name == name)

/-- The value of an option; the last one counts. -/
def value? (w : Words) (name : Text) : Option Text :=
  (w.options.reverse.find? (·.name == name)).bind (·.value)

/-- The number of an option. -/
def number? (w : Words) (name : Text) : Except UsageFault (Option Binary64) :=
  match w.value? name with
  | none => .ok none
  | some text =>
    match text.string?.bind Numeral.grouped? with
    | some x => .ok (some x)
    | none => .error (.notNumber name text)

end Words

end ChartQuery.Command

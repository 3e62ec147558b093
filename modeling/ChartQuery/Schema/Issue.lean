/-
# Issues of a reading

What is wrong with a value that does not have the expected form. An issue says where the value
stands, what is wrong with it, and what the value is; a rejection gathers the issues of one reading
under the name of the form that was read. `Rejection.message` is the full report and
`Rejection.headline` its first line.
-/

import ChartQuery.Value.Display

namespace ChartQuery.Schema

/-- One step of the way to a value: a key of an object or a position in a list. -/
inductive PathStep where
  | key (name : String)
  | index (position : Nat)
  deriving DecidableEq, Repr

/-- What is wrong with a value. -/
inductive Fault where
  | missing
  | notText
  | undecodableText
  | unclearBool
  | notBool
  | fractionalInt
  | infiniteInt
  | oversizedInt
  | unclearInt
  | notInt
  | unclearNumber
  | notNumber
  | notList
  | notObject
  | notRecord (model : String)
  | notDirection
  deriving DecidableEq, Repr

/-- The short name of a fault. -/
def Fault.code : Fault → String
  | .missing => "missing"
  | .notText => "string_type"
  | .undecodableText => "string_unicode"
  | .unclearBool => "bool_parsing"
  | .notBool => "bool_type"
  | .fractionalInt => "int_from_float"
  | .infiniteInt => "finite_number"
  | .oversizedInt => "int_parsing_size"
  | .unclearInt => "int_parsing"
  | .notInt => "int_type"
  | .unclearNumber => "float_parsing"
  | .notNumber => "float_type"
  | .notList => "list_type"
  | .notObject => "dict_type"
  | .notRecord _ => "model_type"
  | .notDirection => "enum"

/-- The words for a fault. -/
def Fault.message : Fault → String
  | .missing => "Field required"
  | .notText => "Input should be a valid string"
  | .undecodableText =>
    "Input should be a valid string, unable to parse raw data as a unicode string"
  | .unclearBool => "Input should be a valid boolean, unable to interpret input"
  | .notBool => "Input should be a valid boolean"
  | .fractionalInt => "Input should be a valid integer, got a number with a fractional part"
  | .infiniteInt => "Input should be a finite number"
  | .oversizedInt => "Unable to parse input string as an integer, exceeded maximum size"
  | .unclearInt => "Input should be a valid integer, unable to parse string as an integer"
  | .notInt => "Input should be a valid integer"
  | .unclearNumber => "Input should be a valid number, unable to parse string as a number"
  | .notNumber => "Input should be a valid number"
  | .notList => "Input should be a valid list"
  | .notObject => "Input should be a valid dictionary"
  | .notRecord model => "Input should be a valid dictionary or instance of " ++ model
  | .notDirection => "Input should be 'asc' or 'desc'"

/-- One thing that is wrong, at the end of a way from the outermost value. -/
structure Issue where
  path : List PathStep
  fault : Fault
  input : Value
  deriving Repr

/-- The issues of one reading. -/
structure Rejection where
  model : String
  issues : List Issue
  deriving Repr

/-- A step as it stands in a report; a name with a point in it is set off. -/
def PathStep.text : PathStep → String
  | .key name => if name.toList.contains '.' then "`" ++ name ++ "`" else name
  | .index position => toString position

/-- The longest run of leading characters that fits into `size` bytes of UTF-8. -/
def leadingBytes : Nat → List Char → List Char
  | _, [] => []
  | size, c :: rest =>
    if c.utf8Size ≤ size then c :: leadingBytes (size - c.utf8Size) rest else []

/-- A long text with its middle left out: at most 25 bytes at the front and 24 at the end remain of
a text of more than 50. -/
def abbreviated (text : String) : String :=
  if text.utf8ByteSize ≤ 50 then text
  else
    let front := leadingBytes 25 text.toList
    let back := (leadingBytes 24 text.toList.reverse).reverse
    String.ofList front ++ "..." ++ String.ofList back

/-- The literal of a value in a report; a value whose literal cannot be written is named by its
kind. -/
def shownInput (v : Value) : String :=
  if v.isWritable then v.literal else "<unprintable " ++ v.kindName ++ " object>"

/-- The lines of a report about one issue. -/
def Issue.lines (issue : Issue) : List String :=
  let place := String.intercalate "." (issue.path.map PathStep.text)
  (if issue.path.isEmpty then [] else [place]) ++
    ["  " ++ issue.fault.message ++ " [type=" ++ issue.fault.code ++ ", input_value=" ++
      abbreviated (shownInput issue.input) ++ ", input_type=" ++ issue.input.kindName ++ "]"]

/-- The first line of the report: how many issues a reading has. -/
def Rejection.headline (r : Rejection) : String :=
  toString r.issues.length ++ " validation error" ++ (if r.issues.length = 1 then "" else "s") ++
    " for " ++ r.model

/-- The report on a rejection. -/
def Rejection.message (r : Rejection) : String :=
  String.intercalate "\n" (r.headline :: r.issues.flatMap Issue.lines)

end ChartQuery.Schema

/-
# Writing CSV

Records as lines of fields with commas between them. A field that holds a comma, a quotation mark or
a line end stands in quotation marks, and each mark inside is doubled. A record whose only field is
empty is written as an empty pair of marks, so that it can be told from a record without fields.
-/

import ChartQuery.Text.Quoted

namespace ChartQuery.Csv

/-- A code point that needs marks around its field. -/
def needsMarks (c : Point) : Bool :=
  c == .char ',' || c == .char Text.doubleQuote || c == .char '\n' || c == .char '\r'

/-- The code points of a field with every mark doubled. -/
def doubledMarks : List Point → List Point
  | [] => []
  | c :: rest =>
    if c = .char Text.doubleQuote then c :: c :: doubledMarks rest else c :: doubledMarks rest

/-- A field in marks. -/
def marked (field : List Point) : List Point :=
  .char Text.doubleQuote :: (doubledMarks field ++ [.char Text.doubleQuote])

/-- A field as it is written. -/
def writtenField (field : List Point) : List Point :=
  if field.any needsMarks then marked field else field

/-- Fields with commas between them. -/
def writtenFields : List (List Point) → List Point
  | [] => []
  | [only] => writtenField only
  | first :: rest => writtenField first ++ .char ',' :: writtenFields rest

/-- What ends a record. -/
def recordEnd : List Point := [.char '\r', .char '\n']

/-- A record as it is written. -/
def writtenRecord (record : List (List Point)) : List Point :=
  (match record with
    | [[]] => marked []
    | _ => writtenFields record) ++ recordEnd

/-- The text of records. -/
def write (records : List (List Text)) : Text :=
  Text.ofList (records.flatMap fun record => writtenRecord (record.map Text.toList))

end ChartQuery.Csv

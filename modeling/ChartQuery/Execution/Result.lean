/-
# Results

What an execution gives: the headers of the columns, the rows as the server sent them, and warnings.
A result may be empty, which is not a failure.
-/

import ChartQuery.Execution.Header

namespace ChartQuery

open Schema

/-- The outcome of an execution. -/
structure ResultSet where
  isLoaded : Bool
  headers : List Header
  rows : List Value
  warnings : List Value
  isEmpty : Bool
  deriving Repr, Inhabited

/-- The value of a result. -/
def ResultSet.toValue (r : ResultSet) : Value :=
  .ofFields [("isLoaded", .bool r.isLoaded), ("headers", .list (r.headers.map Header.toValue)),
    ("rawData", .list r.rows), ("warnings", .list r.warnings), ("isEmpty", .bool r.isEmpty)]

/-- A result. -/
def readResultSet : Value → Reading ResultSet :=
  readRecord "ExecutionResult" fun record =>
    ResultSet.mk
      <$> optional record ⟨"isLoaded", "is_loaded"⟩ false readBool
      <*> optional record (.single "headers") [] (readList readHeader)
      <*> optional record ⟨"rawData", "raw_data"⟩ [] (readList readAny)
      <*> optional record (.single "warnings") [] (readList readAny)
      <*> optional record ⟨"isEmpty", "is_empty"⟩ false readBool

end ChartQuery

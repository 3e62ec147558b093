/-
# Headers of a result

A header describes a returned column. The server sends more about a column than is understood here,
and all of it is kept. Annotating writes into each header the measure that its column was made from:
every mapping claims the first matching header that no measure has claimed yet.
-/

import ChartQuery.Query.Configuration

namespace ChartQuery

open Schema

/-- What the server says about a column, with the measure that it was made from once that is known.
-/
structure Header where
  id : Option Text
  uri : Option Text
  title : Option Text
  kind : Option Text
  measureIndex : Option Int
  isPrevious : Option Bool
  /-- The fields that have no meaning here, as they came. -/
  others : Fields
  deriving Repr, Inhabited

namespace Header

/-- The fields of a header that are understood. -/
def knownFields : List FieldName :=
  [.single "id", .single "uri", .single "title", .single "type", ⟨"measureIndex", "measure_index"⟩,
    ⟨"isPoP", "is_po_p"⟩]

/-- The fields of a record that are not understood. -/
def otherFields (record : Value) : Fields :=
  let used : List Text := knownFields.filterMap fun name =>
    (givenField name record).map fun (key, _) => (key : Text)
  record.fields.filter fun (key, _) =>
    match key with
    | .text k => !used.contains k
    | _ => true

/-- A key that holds half of a surrogate pair: it has no form in which it could be compared with the
keys that are understood. -/
def isUncomparable (key : Value) : Bool :=
  match key with
  | .text k => !k.isWhole
  | _ => false

/-- The value of a header: what is understood first, then the rest as it came. -/
def toValue (h : Header) : Value :=
  let known : List (Text × Value) :=
    [("id", .ofText? h.id), ("uri", .ofText? h.uri), ("title", .ofText? h.title),
      ("type", .ofText? h.kind), ("measureIndex", .ofOption .int h.measureIndex),
      ("isPoP", .ofBool? h.isPrevious)]
  .object (known.map (fun (k, v) => (.text k, v)) ++ h.others)

/-- The header belongs to the column of that name. -/
def isOf (h : Header) (element : Text) : Bool :=
  h.id == some element || h.uri == some element

/-- The header is still to be claimed, and it belongs to the column of that name. -/
def isOpenFor (h : Header) (element : Text) : Bool :=
  h.measureIndex.isNone && h.isOf element

/-- The header of a column that was made from the measure of a mapping. -/
def claimedBy (h : Header) (m : MetricMapping) : Header :=
  { h with measureIndex := some m.measureIndex, isPrevious := m.isPrevious }

/-- The headers after a mapping has claimed the first one that is open for it. -/
def claimFirst (m : MetricMapping) : List Header → List Header
  | [] => []
  | h :: rest => if h.isOpenFor m.element then h.claimedBy m :: rest else h :: claimFirst m rest

/-- The headers after every mapping has claimed one, in the order of the mappings. -/
def annotate (mappings : List MetricMapping) (headers : List Header) : List Header :=
  mappings.foldl (fun hs m => claimFirst m hs) headers

end Header

/-- A header. A key that cannot be compared with those that are understood is all that is reported
of a header. -/
def readHeader : Value → Reading Header :=
  readRecord "Header" fun record =>
    match record.fields.find? (Header.isUncomparable ·.1) with
    | some (key, _) => .refuse .undecodableText key
    | none =>
      Header.mk
        <$> optional record (.single "id") none (readOptional readText)
        <*> optional record (.single "uri") none (readOptional readText)
        <*> optional record (.single "title") none (readOptional readText)
        <*> optional record (.single "type") none (readOptional readText)
        <*> optional record ⟨"measureIndex", "measure_index"⟩ none (readOptional readInt)
        <*> optional record ⟨"isPoP", "is_po_p"⟩ none (readOptional readBool)
        <*> pure (Header.otherFields record)

end ChartQuery

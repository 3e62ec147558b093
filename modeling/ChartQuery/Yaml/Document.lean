/-
# Reading documents

The value of a document from the bytes of a file. The bytes are UTF-8; all forms of line ends count
as a line feed; characters that have no business in a text are refused. A file without any document
has the value null.
-/

import ChartQuery.Yaml.Content

namespace ChartQuery.Yaml

/-- The text with a line feed at the end of each line, whatever was there before. -/
def withLineFeeds : List Char → List Char
  | [] => []
  | '\r' :: '\n' :: rest => '\n' :: withLineFeeds rest
  | '\r' :: rest => '\n' :: withLineFeeds rest
  | c :: rest => c :: withLineFeeds rest

/-- The character may stand in a document. -/
def isPrintable (c : Char) : Bool :=
  c == '\t' || c == '\n' || c == '\r' || decide (0x20 ≤ c.toNat ∧ c.toNat ≤ 0x7E) ||
    c.toNat == 0x85 || decide (0xA0 ≤ c.toNat ∧ c.toNat ≤ 0xFFFD) || decide (0x10000 ≤ c.toNat)

/-- The value of the document that a text holds. -/
def readText (text : List Char) : Except Failure Value :=
  match text.findIdx? fun c => !isPrintable c with
  | some position => .error (.unprintable (text.getD position ' ') position)
  | none =>
    match Node.ofText? text with
    | .error e => .error e
    | .ok none => .ok .null
    | .ok (some root) => root.content

/-- The value of the document that bytes hold. -/
def read (bytes : List UInt8) : Except Failure Value :=
  match Text.decodeUtf8 bytes with
  | .error reason => .error (.undecodable reason)
  | .ok chars => readText (withLineFeeds chars)

end ChartQuery.Yaml

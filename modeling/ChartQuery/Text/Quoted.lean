/-
# Quoted text

A text in quotation marks the way messages and table cells show it: in single quotes, or in double
quotes when it holds single quotes only, with a backslash before the quote, before itself and in
front of the codes of unprintable characters.
-/

import ChartQuery.Text.Basic
import ChartQuery.Text.Digit
import ChartQuery.Text.CharTable

namespace ChartQuery.Text

/-- The single quotation mark. -/
def singleQuote : Char := Char.ofNat 39

/-- The double quotation mark. -/
def doubleQuote : Char := Char.ofNat 34

/-- The mark that encloses a text: double only when the text holds single marks and no double
one. -/
def enclosingQuote (text : List Point) : Char :=
  if text.contains (.char singleQuote) && !text.contains (.char doubleQuote) then doubleQuote
  else singleQuote

/-- One character between the marks. -/
def quotedChar (quote c : Char) : List Char :=
  if c = quote ∨ c = '\\' then ['\\', c]
  else if c = '\t' then ['\\', 't']
  else if c = '\n' then ['\\', 'n']
  else if c = '\r' then ['\\', 'r']
  else if c.toNat < 128 then
    if 32 ≤ c.toNat ∧ c.toNat < 127 then [c] else '\\' :: 'x' :: (hexPadded 2 c.toNat).toList
  else if inRuns unprintableRuns c then
    if c.toNat < 0x100 then '\\' :: 'x' :: (hexPadded 2 c.toNat).toList
    else if c.toNat < 0x10000 then '\\' :: 'u' :: (hexPadded 4 c.toNat).toList
    else '\\' :: 'U' :: (hexPadded 8 c.toNat).toList
  else [c]

/-- One code point between the marks: half of a surrogate pair is written as its number. -/
def quotedPoint (quote : Char) : Point → List Char
  | .char c => quotedChar quote c
  | .half n => '\\' :: 'u' :: (hexPadded 4 (Point.half n).code).toList

/-- A text in quotation marks. -/
def quoted (text : Text) : String :=
  let quote := enclosingQuote text.toList
  String.ofList (quote :: (text.toList.flatMap (quotedPoint quote) ++ [quote]))

/-- A byte string in quotation marks behind a `b`; bytes outside printable ASCII as codes. -/
def quotedBytes (bytes : List UInt8) : String :=
  let chars := bytes.map fun b => Char.ofNat b.toNat
  let quote := enclosingQuote (chars.map .char)
  let one := fun (c : Char) =>
    if c.toNat < 128 then quotedChar quote c else '\\' :: 'x' :: (hexPadded 2 c.toNat).toList
  String.ofList ('b' :: quote :: (chars.flatMap one ++ [quote]))

end ChartQuery.Text

namespace ChartQuery

/-- The words for a text that has no form in UTF-8. -/
def Unencodable.message (e : Unencodable) : String :=
  "'utf-8' codec can't encode character" ++
    (if e.count = 1 then
      " '" ++ String.ofList (Text.quotedPoint Text.singleQuote (.half e.first)) ++
        "' in position " ++ toString e.position
    else
      "s in position " ++ toString e.position ++ "-" ++ toString (e.position + e.count - 1)) ++
    ": surrogates not allowed"

end ChartQuery

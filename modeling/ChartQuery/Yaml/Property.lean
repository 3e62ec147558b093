/-
# Names, tags and directives

Reading what stands before a node: an anchor, or an alias in the place of a node, and a tag; and the
directives before a document. A tag is a handle with a suffix, or a whole uri in angle brackets.
Bytes may be written in uris as escapes.
-/

import ChartQuery.Yaml.Cursor
import ChartQuery.Yaml.Token

namespace ChartQuery.Yaml

open Scan

/-- The characters of uris besides letters and digits, escapes apart. -/
def uriSigns : List Char := "-;/?:@&=+$,_.!~*'()[]".toList

/-- A character that stands for itself in a uri. -/
def isUriChar (c : Char) : Bool :=
  c.isAlphanum || uriSigns.contains c

/-- The hexadecimal digit at a distance. -/
def peekUriDigit (activity : Activity) (began : Mark) (distance : Nat) : Scan Char := do
  match ← peek distance with
  | some c =>
    if Text.isHexDigit c then return c
    else refuseIn activity began (.expectedUriEscape (some c))
  | none => refuseIn activity began (.expectedUriEscape none)

/-- The bytes of a run of escapes. The bound is at least the number of escapes. -/
def scanUriBytes (activity : Activity) (began : Mark) : Nat → Scan (List UInt8)
  | 0 => return []
  | bound + 1 => do
    if (← peek 0) ≠ some '%' then return []
    skip 1
    let high ← peekUriDigit activity began 0
    let low ← peekUriDigit activity began 1
    skip 2
    let rest ← scanUriBytes activity began bound
    return UInt8.ofNat (Text.numberOf 16 [high, low]) :: rest

/-- The characters that a run of escapes stands for. -/
def scanUriEscapes (name : String) (began : Mark) : Scan (List Char) := do
  let place ← here
  let bytes ← scanUriBytes (.tagPart name) began (← get).rest.length
  match Text.decodeUtf8 bytes with
  | .ok chars => return chars
  | .error reason =>
    throw (.malformed ⟨some (.tagPart name), some began, .undecodableUri reason, place⟩)

/-- The parts of a uri. The bound is at least the number of characters left. -/
def scanUriParts (name : String) (began : Mark) : Nat → Scan (List Char)
  | 0 => return []
  | bound + 1 => do
    let plain ← taking isUriChar
    if (← peek 0) = some '%' then
      let escaped ← scanUriEscapes name began
      let rest ← scanUriParts name began bound
      return plain ++ escaped ++ rest
    else return plain

/-- A uri, which may not be empty. -/
def scanUri (name : String) (began : Mark) : Scan String := do
  match ← peek 0 with
  | some c =>
    if isUriChar c || c == '%' then
      return String.ofList (← scanUriParts name began (← get).rest.length)
    else refuseIn (.tagPartOpened name) began (.expectedUri (some c))
  | none => refuseIn (.tagPartOpened name) began (.expectedUri none)

/-- A handle: an exclamation mark, alone or with a name and a second one behind it. -/
def scanHandle (name : String) (began : Mark) : Scan String := do
  if (← peek 0) ≠ some '!' then
    refuseIn (.tagPart name) began (.expectedBang (← peek 0))
  skip 1
  if (← peek 0) = some ' ' then return "!"
  let letters ← taking isNameChar
  if (← peek 0) ≠ some '!' then
    refuseIn (.tagPart name) began (.expectedBang (← peek 0))
  skip 1
  return String.ofList ('!' :: letters ++ ['!'])

/-- The part of a tag behind its exclamation mark has another one before it ends. -/
def hasHandle (rest : List Char) : Bool :=
  (rest.takeWhile fun c => !endsWord (some c)).contains '!'

/-- A tag, with a handle unless it is a whole uri. -/
def scanTag : Scan Token.Kind := do
  let began ← here
  let kind ←
    match ← peek 1 with
    | some '<' => do
      skip 2
      let suffix ← scanUri "tag" began
      if (← peek 0) ≠ some '>' then
        refuseIn .tagOpened began (.expectedClosingBracket (← peek 0))
      skip 1
      pure (Token.Kind.tag none suffix)
    | next => do
      if atSpace next then
        skip 1
        pure (Token.Kind.tag none "!")
      else if hasHandle ((← get).rest.drop 1) then
        let handle ← scanHandle "tag" began
        pure (Token.Kind.tag (some handle) (← scanUri "tag" began))
      else
        skip 1
        pure (Token.Kind.tag (some "!") (← scanUri "tag" began))
  if endsWord (← peek 0) then return kind
  else refuseIn .tagWithin began (.expectedBlank (← peek 0))

/-- The characters that may follow a name, white space apart. -/
def nameEnds : List Char := "?:,]\x7d%@`".toList

/-- The name behind the sign of an anchor or an alias. -/
def scanName (activity : Activity) : Scan String := do
  let began ← here
  skip 1
  let name ← taking isNameChar
  let next ← peek 0
  if name.isEmpty || !(atSpace next || next.any nameEnds.contains) then
    refuseIn activity began (.expectedName next)
  return String.ofList name

/-- Pass over a comment and the end of the line; nothing else may stand here. -/
def scanLineEnd (activity : Activity) (began : Mark) : Scan Unit := do
  skipping (· == ' ')
  if (← peek 0) = some '#' then skipping fun c => !isBreak c
  if endsLine (← peek 0) then
    let _ ← lineBreak
    return ()
  else refuseIn activity began (.expectedLineEnd (← peek 0))

/-- A number in the version of a document. -/
def scanVersionNumber (began : Mark) : Scan Nat := do
  let digits ← taking Text.isDigit
  if digits.isEmpty then refuseIn .directive began (.expectedDigit (← peek 0))
  return Text.numberOf 10 digits

/-- The version of a document. -/
def scanVersion (began : Mark) : Scan Directive := do
  skipping (· == ' ')
  let major ← scanVersionNumber began
  if (← peek 0) ≠ some '.' then refuseIn .directive began (.expectedDigitOrPoint (← peek 0))
  skip 1
  let minor ← scanVersionNumber began
  if endsWord (← peek 0) then return .version major minor
  else refuseIn .directive began (.expectedDigitOrBlank (← peek 0))

/-- A handle with what it stands for. -/
def scanHandleDirective (began : Mark) : Scan Directive := do
  skipping (· == ' ')
  let handle ← scanHandle "directive" began
  if (← peek 0) ≠ some ' ' then refuseIn .directive began (.expectedBlank (← peek 0))
  skipping (· == ' ')
  let lead ← scanUri "directive" began
  if endsWord (← peek 0) then return .handle handle lead
  else refuseIn .directive began (.expectedBlank (← peek 0))

/-- A directive, with the rest of its line. -/
def scanDirective : Scan Directive := do
  let began ← here
  skip 1
  let name ← taking isNameChar
  if name.isEmpty || !endsWord (← peek 0) then
    refuseIn .directive began (.expectedName (← peek 0))
  let name := String.ofList name
  let directive ←
    if name = "YAML" then scanVersion began
    else if name = "TAG" then scanHandleDirective began
    else do
      skipping fun c => !isBreak c
      pure (.other name)
  scanLineEnd .directive began
  return directive

end ChartQuery.Yaml

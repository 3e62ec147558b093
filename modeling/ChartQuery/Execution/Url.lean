/-
# Urls

The parts of a url, how a url is read and written, and how a relative url is joined to the base url
of a server: its path is appended to the base path with exactly one slash between them. Characters
that a part may not hold are percent-encoded, for which they must have a form in UTF-8.
-/

import ChartQuery.Number.Numeral
import ChartQuery.Text.Blank
import ChartQuery.Text.Percent
import ChartQuery.Text.Piece
import ChartQuery.Text.Quoted

namespace ChartQuery

/-- A url in parts, all of them already encoded. -/
structure Url where
  scheme : String
  authority : String
  path : String
  query : Option String
  fragment : Option String
  deriving DecidableEq, Repr, Inhabited

/-- Why a text is no url. -/
inductive UrlFault where
  | tooLong
  | unprintable (c : Char) (position : Nat)
  | badHost (host : Text)
  | badPort (port : Text)
  | pathWithoutSlash
  | relativeSlashes
  | relativeColon
  | unencodable (halves : Unencodable)
  deriving Repr

/-- The words for a fault. -/
def UrlFault.message : UrlFault → String
  | .tooLong => "URL too long"
  | .unprintable c position =>
    "Invalid non-printable ASCII character in URL, " ++ Text.quoted (Text.ofList [.char c]) ++
      " at position " ++ toString position ++ "."
  | .badHost host => "Invalid IDNA hostname: " ++ Text.quoted host
  | .badPort port => "Invalid port: " ++ Text.quoted port
  | .pathWithoutSlash => "For absolute URLs, path must be empty or begin with '/'"
  | .relativeSlashes => "Relative URLs cannot have a path starting with '//'"
  | .relativeColon => "Relative URLs cannot have a path starting with ':'"
  | .unencodable halves => halves.message

namespace Url

/-- The longest url that is taken. -/
def maxLength : Nat := 65536

/-- A printable character of ASCII other than those listed. -/
def printableExcept (excluded : String) (c : Char) : Bool :=
  decide (32 < c.toNat ∧ c.toNat < 127) && !excluded.toList.contains c

/-- The characters that stand for themselves in a path. -/
def allowedInPath : Char → Bool :=
  printableExcept "\x22#<>?\x60\x7b\x7d"

/-- The characters that stand for themselves in a query. -/
def allowedInQuery : Char → Bool :=
  printableExcept "\x22#<>"

/-- The characters that stand for themselves in a fragment. -/
def allowedInFragment : Char → Bool :=
  printableExcept "\x22<>\x60"

/-- A part of a url, encoded. Every character is encoded by itself, so that a half that has no form
in UTF-8 is reported without its place. -/
def encoded (allowed : Char → Bool) (part : List Point) : Except UrlFault String :=
  match part.find? Point.isHalf with
  | some (.half n) => .error (.unencodable ⟨0, 1, n⟩)
  | _ => .ok (String.ofList (Text.percentEncoded allowed (Text.characters part)))

/-- A part of a url that may be missing. -/
def encodedPart? (allowed : Char → Bool) :
    Option (List Point) → Except UrlFault (Option String)
  | none => .ok none
  | some part => (encoded allowed part).map some

/-- A letter or digit or sign of a scheme behind its first letter. -/
def isSchemeChar (c : Char) : Bool :=
  c.isAlphanum || c == '+' || c == '.' || c == '-'

/-- The scheme at the head of a url, when one is there, and the rest behind its colon. -/
def splitScheme (text : List Point) : String × List Point :=
  match text with
  | .char ':' :: rest => ("", rest)
  | .char c :: _ =>
    if c.isAlpha then
      match text.dropWhile (·.meets isSchemeChar) with
      | .char ':' :: rest =>
        let scheme := Text.characters (text.takeWhile (·.meets isSchemeChar))
        (String.ofList (Text.asciiLower scheme), rest)
      | _ => ("", text)
    else ("", text)
  | _ => ("", text)

/-- The part of a text before the first character of some kind, and the part from it on. -/
def splitBefore (stops : Char → Bool) (text : List Point) : List Point × List Point :=
  (text.takeWhile fun p => !p.meets stops, text.dropWhile fun p => !p.meets stops)

/-- The ports that go without saying. -/
def defaultPort? (scheme : String) : Option Nat :=
  if scheme = "http" ∨ scheme = "ws" then some 80
  else if scheme = "https" ∨ scheme = "wss" then some 443
  else if scheme = "ftp" then some 21
  else none

/-- The port as it is kept: none when it is empty or goes without saying. -/
def keptPort (scheme : String) (port : List Point) : Except UrlFault String :=
  if port.isEmpty then .ok ""
  else if port.all (·.meets Text.isDigit) && port.length ≤ Numeral.digitLimit then
    let n := Text.numberOf 10 (Text.characters port)
    .ok (if defaultPort? scheme = some n then "" else ":" ++ toString n)
  else .error (.badPort (Text.ofList port))

/-- The host as it is kept. -/
def keptHost (host : List Point) : Except UrlFault String :=
  if host.any Point.isHalf then .error (.badHost (Text.ofList host))
  else .ok (String.ofList (Text.asciiLower (Text.characters host)))

/-- What stands before the host, as it is kept. -/
def keptUser (user : List Point) : Except UrlFault String :=
  match user.find? Point.isHalf with
  | some (.half n) => .error (.unencodable ⟨0, 1, n⟩)
  | _ => .ok (String.ofList (Text.characters user))

/-- The host with what stands before it and the port behind it. -/
def readAuthority (scheme : String) (text : List Point) : Except UrlFault String := do
  let (user, address) : List Point × List Point :=
    match splitBefore (· == '@') text with
    | (user, .char '@' :: address) => (user ++ [Point.char '@'], address)
    | _ => ([], text)
  let (host, port) : List Point × List Point :=
    match address with
    | .char '[' :: _ =>
      match (Text.pieces (.char ']') address).reverse with
      | last :: _ =>
        (address.take (address.length - last.length), last)
      | [] => (address, [])
    | _ => splitBefore (· == ':') address
  let port :=
    match port with
    | .char ':' :: digits => digits
    | _ => port
  let shownUser ← keptUser user
  let shownHost ← keptHost host
  let shownPort ← keptPort scheme port
  return shownUser ++ shownHost ++ shownPort

/-- The segments of a path without those that mean the same place or the place above. -/
def resolvedSegments : List (List Point) → List (List Point) → List (List Point)
  | kept, [] => kept.reverse
  | kept, segment :: rest =>
    if segment = [.char '.'] then resolvedSegments kept rest
    else if segment = [.char '.', .char '.'] then
      match kept with
      | [] => resolvedSegments [] rest
      | [[]] => resolvedSegments [[]] rest
      | _ :: above => resolvedSegments above rest
    else resolvedSegments (segment :: kept) rest

/-- A path with single and double points resolved. -/
def resolvedPath (path : List Point) : List Point :=
  let segments := Text.pieces (.char '/') path
  if segments.contains [.char '.'] || segments.contains [.char '.', .char '.'] then
    [Point.char '/'].intercalate (resolvedSegments [] segments)
  else path

/-- The path is one that may stand behind the scheme and the authority. -/
def checkPath (absolute hasAuthority : Bool) (path : List Point) : Except UrlFault Unit :=
  if hasAuthority && !(path.isEmpty || path.head? == some (.char '/')) then
    .error .pathWithoutSlash
  else if !absolute && [Point.char '/', .char '/'].isPrefixOf path then .error .relativeSlashes
  else if !absolute && path.head? == some (.char ':') then .error .relativeColon
  else .ok ()

/-- A url from parts that are not yet encoded. -/
def ofParts (scheme authority : String) (path : List Point)
    (query fragment : Option (List Point)) : Except UrlFault Url := do
  let absolute := scheme ≠ "" ∨ authority ≠ ""
  checkPath (decide absolute) (authority ≠ "") path
  let resolved := if absolute then resolvedPath path else path
  let shownPath ← encoded allowedInPath resolved
  let shownQuery ← encodedPart? allowedInQuery query
  let shownFragment ← encodedPart? allowedInFragment fragment
  return ⟨scheme, authority, shownPath, shownQuery, shownFragment⟩

/-- The url that a text writes down. -/
def read (text : Text) : Except UrlFault Url :=
  let points := text.toList
  if maxLength < points.length then .error .tooLong
  else
    match points.findIdx? fun p => p.code < 32 || p.code == 127 with
    | some position =>
      .error (.unprintable (Char.ofNat (points.getD position (.char ' ')).code) position)
    | none =>
      let (scheme, rest) := splitScheme points
      let (authority, rest) :=
        match rest with
        | .char '/' :: .char '/' :: more =>
          splitBefore (fun c => c == '/' || c == '?' || c == '#') more
        | _ => ([], rest)
      let (path, rest) := splitBefore (fun c => c == '?' || c == '#') rest
      let (query, rest) :=
        match rest with
        | .char '?' :: more =>
          let (q, r) := splitBefore (· == '#') more
          (some q, r)
        | _ => (none, rest)
      let fragment :=
        match rest with
        | .char '#' :: more => some more
        | _ => none
      match readAuthority scheme authority with
      | .error e => .error e
      | .ok shown => ofParts scheme shown path query fragment

/-- The url names a server. -/
def isAbsolute (u : Url) : Bool :=
  u.scheme != "" && u.authority != ""

/-- The path with the query, as a request asks for it. -/
def target (u : Url) : String :=
  (if u.path = "" then "/" else u.path) ++
    (match u.query with
      | some q => "?" ++ q
      | none => "")

/-- The text of a url. -/
def text (u : Url) : String :=
  (if u.scheme = "" then "" else u.scheme ++ ":") ++
    (if u.authority = "" then "" else "//" ++ u.authority) ++ u.path ++
    (match u.query with
      | some q => "?" ++ q
      | none => "") ++
    (match u.fragment with
      | some f => "#" ++ f
      | none => "")

/-- The url with another path and query, given together. -/
def withTarget (u : Url) (newTarget : List Char) : Except UrlFault Url :=
  let (path, rest) := splitBefore (· == '?') (newTarget.map .char)
  let query :=
    match rest with
    | .char '?' :: q => some q
    | _ => none
  ofParts u.scheme u.authority path query (u.fragment.map fun f => f.toList.map .char)

/-- A base url: its target ends with a slash. -/
def readBase (text : Text) : Except UrlFault Url :=
  match read text with
  | .error e => .error e
  | .ok u =>
    if u.target.toList.getLast? = some '/' then .ok u
    else u.withTarget (u.target.toList ++ ['/'])

/-- The url of a request: absolute urls are taken as they are, others are appended to the base. -/
def resolve (base : Url) (text : Text) : Except UrlFault Url :=
  match read text with
  | .error e => .error e
  | .ok u =>
    if u.isAbsolute then .ok u
    else base.withTarget (base.target.toList ++ u.target.toList.dropWhile (· == '/'))

end Url

end ChartQuery

/-
# Markup

Texts with tags in square brackets, which say how a part looks on a screen. Here only the words
count: `rendered` gives the text without its tags, with the pictographs that it calls by name, or
why it cannot be shown: a closing tag has nothing to close, or it closes a handler that cannot be
evaluated. Backslashes before a tag make it plain text, and `escaped` writes any text so that all
its tags are plain.
-/

import ChartQuery.Terminal.Cell
import ChartQuery.Terminal.Pictograph
import ChartQuery.Text.Piece

namespace ChartQuery.Terminal.Markup

/-- Why a marked-up text cannot be shown. -/
inductive Fault where
  | unmatched (tag : Text)
  | nothingToClose
  | unevaluated (parameter : Text)
  deriving DecidableEq, Repr

/-- A tag that is open: the name of its style in its usual form, and its parameter, empty when there
is none. -/
structure OpenTag where
  name : Text
  parameter : Text
  deriving DecidableEq, Repr

/-- A part of a marked-up text: plain text, or a tag with the backslashes before it. -/
inductive Part where
  | plain (text : List Point)
  | tag (backslashes : Nat) (body : List Point)
  deriving DecidableEq, Repr

/-- A character that may stand first in a tag. -/
def opensTag (c : Char) : Bool :=
  c.isLower || c == '#' || c == '/' || c == '@'

/-- The tag at the head of a text, and what follows it. -/
def tag? (text : List Point) : Option (List Point × List Point) :=
  match text with
  | .char '[' :: c :: rest =>
    if c.meets opensTag then
      let body := rest.takeWhile fun x => x ≠ .char ']' ∧ x ≠ .char '['
      match rest.drop body.length with
      | .char ']' :: after => some (c :: body, after)
      | _ => none
    else none
  | _ => none

/-- Parts with a plain text in front of them. -/
def withPlain (text : List Point) (parts : List Part) : List Part :=
  match parts with
  | .plain more :: rest => .plain (text ++ more) :: rest
  | _ => .plain text :: parts

/-- The parts of a text; `bound` is at least its length. -/
def partsFrom : Nat → List Point → List Part
  | 0, _ => []
  | _, [] => []
  | bound + 1, text =>
    let slashes := text.takeWhile (· = .char '\\')
    let after := text.drop slashes.length
    match tag? after with
    | some (body, rest) => .tag slashes.length body :: partsFrom bound rest
    | none => withPlain (slashes ++ after.take 1) (partsFrom bound (after.drop 1))

/-- The parts of a text. -/
def parts (text : List Point) : List Part :=
  partsFrom text.length text

/-- So many backslashes. -/
def backslashes (count : Nat) : List Point :=
  List.replicate count (.char '\\')

/-- A tag between its brackets. -/
def bracketed (body : List Point) : List Point :=
  .char '[' :: (body ++ [.char ']'])

/-- A part as text that shows what the part is made of. -/
def Part.escaped : Part → List Point
  | .plain text => text
  | .tag count body => backslashes (2 * count + 1) ++ bracketed body

/-- One more backslash when the text ends with a single one. -/
def withClosedEnd (text : List Point) : List Point :=
  match text.reverse with
  | .char '\\' :: .char '\\' :: _ => text
  | .char '\\' :: _ => text ++ [.char '\\']
  | _ => text

/-- A text written so that none of its tags has a meaning. -/
def escaped (text : Text) : Text :=
  Text.ofList (withClosedEnd ((parts text.toList).flatMap Part.escaped))

/-- The words for text attributes in order, each with its short forms. -/
def attributes : List (Text × List Text) := [
  ("bold", ["b"]), ("dim", ["d"]), ("italic", ["i"]), ("underline", ["u"]), ("blink", []),
  ("blink2", []), ("reverse", ["r"]), ("conceal", ["c"]), ("strike", ["s"]),
  ("underline2", ["uu"]), ("frame", []), ("encircle", []), ("overline", ["o"])]

/-- The full form of an attribute. -/
def attribute? (word : Text) : Option Text :=
  (attributes.find? fun (name, short) => name == word || short.contains word).map (·.1)

/-- The words of a text. -/
def wordsOf (text : List Point) : List Text :=
  ((text.splitBy fun a b => a.meets Text.isGap == b.meets Text.isGap).filter fun part =>
    !part.all (·.meets Text.isGap)).map Text.ofList

/-- The name of a style made of attributes and at most one colour, in its usual form: attributes
first, in their order and in full, then the other words. -/
def usualName (text : Text) : Text :=
  let given := wordsOf (text.toList.map Point.toLower)
  let known := given.filterMap attribute?
  Text.joined " " (((attributes.map (·.1)).filter known.contains) ++
    given.filter fun word => (attribute? word).isNone)

/-- The text without gaps at both ends. -/
def stripped (text : List Point) : List Point :=
  let kept := text.dropWhile (·.meets Text.isGap)
  (kept.reverse.dropWhile (·.meets Text.isGap)).reverse

/-- The name of a tag, without its parameter. -/
def tagName (body : List Point) : List Point :=
  body.takeWhile (· ≠ .char '=')

/-- Plain text after its last form: a backslash before a bracket is left out. -/
def unescaped : List Point → List Point
  | .char '\\' :: .char '[' :: rest => .char '[' :: unescaped rest
  | c :: rest => c :: unescaped rest
  | [] => []

/-- The tag that is open names a handler. -/
def OpenTag.isHandler (tag : OpenTag) : Bool :=
  tag.name.toList.head? == some (.char '@')

/-- The tags that stay open when one is closed. Closing a handler evaluates its parameter, if it has
one. -/
def closing (screen : Screen) (tag : OpenTag) (others : List OpenTag) :
    Except Fault (List OpenTag) :=
  if !tag.parameter.isEmpty && tag.isHandler && !screen.evaluates tag.parameter then
    .error (.unevaluated tag.parameter)
  else .ok others

/-- The tags that are open behind a tag, the last opened one first. A closing tag without a name
closes the last one, any other the last one of its name. -/
def afterTag (screen : Screen) (opened : List OpenTag) (body : List Point) :
    Except Fault (List OpenTag) :=
  match tagName body with
  | .char '/' :: rest =>
    match stripped rest with
    | [] =>
      match opened with
      | [] => .error .nothingToClose
      | tag :: others => closing screen tag others
    | name =>
      let style := screen.usualName (Text.ofList name)
      match opened.find? (·.name == style) with
      | some tag => closing screen tag (opened.eraseP (·.name == style))
      | none => .error (.unmatched (Text.ofList body))
  | name =>
    .ok (⟨screen.usualName (Text.ofList name), Text.ofList (body.drop (name.length + 1))⟩ :: opened)

/-- The text of parts without its tags, while some tags are open. -/
def renderedParts (screen : Screen) (opened : List OpenTag) :
    List Part → Except Fault (List Point)
  | [] => .ok []
  | .plain text :: rest =>
    match renderedParts screen opened rest with
    | .error e => .error e
    | .ok more => .ok (pictured (unescaped text) ++ more)
  | .tag count body :: rest =>
    if count % 2 = 1 then
      match renderedParts screen opened rest with
      | .error e => .error e
      | .ok more => .ok (backslashes (count / 2) ++ pictured (bracketed body) ++ more)
    else
      match afterTag screen opened body with
      | .error e => .error e
      | .ok next =>
        match renderedParts screen next rest with
        | .error e => .error e
        | .ok more => .ok (backslashes (count / 2) ++ more)

/-- The text that a marked-up text shows. Without any bracket the backslashes are shown as they are.
-/
def rendered (screen : Screen) (text : Text) : Except Fault Text :=
  if text.toList.contains (.char '[') then
    (renderedParts screen [] (parts text.toList)).map Text.ofList
  else .ok (Text.ofList (pictured text.toList))

/-- A text between the tags of a style. -/
def styled (style text : Text) : Text :=
  "[" ++ style ++ "]" ++ text ++ "[/" ++ style ++ "]"

end ChartQuery.Terminal.Markup

namespace ChartQuery.Terminal

/-- The screen with lines of a width, and of two cells at least. Styles with the same attributes and
further words are the same, and every parameter of a handler can be evaluated. -/
def Screen.ofWidth (width : Nat) : Screen :=
  ⟨max 2 width, Nat.le_max_left 2 width, Markup.usualName, fun _ => true⟩

end ChartQuery.Terminal

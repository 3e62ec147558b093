/-
# Pictographs

A text may call a pictograph by its name between colons, as in `:key:`. Behind the name a hyphen and
a word can ask for the coloured or for the plain form. A name that no pictograph has is left as it
is, both colons included.
-/

import ChartQuery.Terminal.PictographTable
import ChartQuery.Text.Blank
import ChartQuery.Text.Case

namespace ChartQuery.Terminal

/-- The picture that code points spell. -/
def spelled (codes : List Nat) : List Point :=
  codes.map fun code => .char (Char.ofNat code)

/-- The pictograph of a name; half of a surrogate pair stands in no name. -/
def pictograph? (name : Text) : Option (List Point) :=
  (name.string?.bind fun s => pictographs.lookup s).map spelled

/-- The words for the forms of a pictograph, with the character that asks for the form. -/
def pictographForms : List (Text × Char) := [
  ("-emoji", Char.ofNat 0xFE0F), ("-text", Char.ofNat 0xFE0E)]

/-- A call without the form that it asks for, and the mark of that form. -/
def splitForm (call : List Point) : List Point × List Point :=
  match pictographForms.find? fun (ending, _) => ending.toList.isSuffixOf call with
  | some (ending, mark) => (call.take (call.length - ending.length), [.char mark])
  | none => (call, [])

/-- What stands for a call: the pictograph, or the call as it was. -/
def answeredCall (call : List Point) : List Point :=
  let (name, mark) := splitForm call
  match pictograph? (Text.lower (Text.ofList name)) with
  | some picture => picture ++ mark
  | none => .char ':' :: (call ++ [.char ':'])

/-- The text with its pictographs; `bound` is at least its length. -/
def picturedFrom : Nat → List Point → List Point
  | 0, text => text
  | _, [] => []
  | bound + 1, c :: rest =>
    if c = .char ':' then
      let call := rest.takeWhile fun x => x ≠ .char ':' ∧ !x.meets Text.isGap
      match rest.drop call.length with
      | .char ':' :: after => answeredCall call ++ picturedFrom bound after
      | _ => c :: picturedFrom bound rest
    else c :: picturedFrom bound rest

/-- The text with its pictographs. -/
def pictured (text : List Point) : List Point :=
  picturedFrom text.length text

end ChartQuery.Terminal

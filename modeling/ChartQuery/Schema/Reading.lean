/-
# Readings

A reading turns a dynamic value into a typed one or says everything that is wrong with it. Readings
combine so that the issues of all parts are kept in order (`Reading.seq`), and a part's issues are
placed below its key or position (`Reading.below`).

The readers for texts, truth values and numbers are lenient: they also take the forms in which such
values arrive from settings and loosely typed files. Texts alone are never made from anything but
texts and decodable bytes.
-/

import ChartQuery.Schema.Issue
import ChartQuery.Number.Numeral
import ChartQuery.Text.Utf8

namespace ChartQuery.Schema

/-- The outcome of reading a value. -/
inductive Reading (α : Type) where
  | accepted (result : α)
  | rejected (issues : List Issue)
  deriving Repr

namespace Reading

variable {α β : Type}

/-- The result of a reading transformed. -/
def map (f : α → β) : Reading α → Reading β
  | .accepted a => .accepted (f a)
  | .rejected issues => .rejected issues

/-- Two readings side by side; the issues of both are kept. -/
def seq (f : Reading (α → β)) (x : Reading α) : Reading β :=
  match f, x with
  | .accepted g, .accepted a => .accepted (g a)
  | .accepted _, .rejected issues => .rejected issues
  | .rejected issues, .accepted _ => .rejected issues
  | .rejected issues, .rejected others => .rejected (issues ++ others)

instance : Applicative Reading where
  pure := .accepted
  map := map
  seq f x := seq f (x ())

/-- A single issue at the value itself. -/
def refuse (fault : Fault) (input : Value) : Reading α :=
  .rejected [⟨[], fault, input⟩]

/-- The reading of a part: its issues are placed below a step. -/
def below (step : PathStep) : Reading α → Reading α
  | .accepted a => .accepted a
  | .rejected issues => .rejected (issues.map fun i => { i with path := step :: i.path })

/-- The result, or the rejection under the name of what was read. -/
def toExcept (model : String) : Reading α → Except Rejection α
  | .accepted a => .ok a
  | .rejected issues => .error ⟨model, issues⟩

end Reading

/-- What a value spells: characters, bytes that are no text, a text that has no form in UTF-8, or
nothing. -/
inductive Spelling where
  | text (s : String)
  | undecodable
  | unencodable
  | nothing

/-- The spelling of a value; bytes spell the text that they encode. -/
def Spelling.of : Value → Spelling
  | .text t =>
    match t.string? with
    | some s => .text s
    | none => .unencodable
  | .bytes bs =>
    match Text.decodeUtf8 bs with
    | .ok chars => .text (String.ofList chars)
    | .error _ => .undecodable
  | _ => .nothing

/-- What follows from the spelling of a value. A text with half of a surrogate pair spells nothing
of any kind. -/
def readSpelling {α : Type} (undecodable nothing : Fault) (v : Value) (read : String → Reading α) :
    Reading α :=
  match Spelling.of v with
  | .text s => read s
  | .undecodable => .refuse undecodable v
  | .unencodable => .refuse .undecodableText v
  | .nothing => .refuse nothing v

/-- A text, taken as it is, whatever it holds, or made of bytes. -/
def readText (v : Value) : Reading Text :=
  match v with
  | .text t => .accepted t
  | .bytes bs =>
    match Text.decodeUtf8 bs with
    | .ok chars => .accepted (String.ofList chars)
    | .error _ => .refuse .undecodableText v
  | _ => .refuse .notText v

/-- The texts that mean yes. -/
def yesWords : List String := ["1", "t", "y", "on", "yes", "true"]

/-- The texts that mean no. -/
def noWords : List String := ["0", "f", "n", "no", "off", "false"]

/-- The truth value that a word means, in any case. -/
def boolOfWord? (word : String) : Option Bool :=
  let small := String.ofList (Text.asciiLower word.toList)
  if yesWords.contains small then some true
  else if noWords.contains small then some false
  else none

/-- The whole numbers of 64 bits. -/
def fitsWord (n : Int) : Bool :=
  decide (-0x8000000000000000 ≤ n ∧ n < 0x8000000000000000)

/-- The whole numbers that a double is turned into. -/
def fitsInt (n : Int) : Bool :=
  decide (-0x8000000000000000 < n ∧ n < 0x8000000000000000)

/-- The truth value that a whole number means. -/
def boolOfInt? (n : Int) : Option Bool :=
  if n = 0 then some false else if n = 1 then some true else none

/-- A truth value, or a word or number that means one. A number that fills more than 64 bits is of
the wrong kind altogether. -/
def readBool (v : Value) : Reading Bool :=
  let answer : Option Bool → Reading Bool := fun found =>
    match found with
    | some b => .accepted b
    | none => .refuse .unclearBool v
  match v with
  | .bool b => .accepted b
  | .int n => if fitsWord n then answer (boolOfInt? n) else .refuse .notBool v
  | .float x =>
    match x.toInt? with
    | some n => if fitsInt n then answer (boolOfInt? n) else .refuse .notBool v
    | none => .refuse .notBool v
  | _ => readSpelling .unclearBool .notBool v fun word => answer (boolOfWord? word)

/-- A whole number, or a truth value, double or text that spells one. -/
def readInt (v : Value) : Reading Int :=
  match v with
  | .int n => .accepted n
  | .bool b => .accepted (if b then 1 else 0)
  | .float (.finite s m e) =>
    match (Binary64.finite s m e).toInt? with
    | some n => if fitsInt n then .accepted n else .refuse .oversizedInt v
    | none => .refuse .fractionalInt v
  | .float _ => .refuse .infiniteInt v
  | _ =>
    readSpelling .unclearInt .notInt v fun s =>
      if Numeral.isOversized s then .refuse .oversizedInt v
      else
        match Numeral.int? s with
        | some n => .accepted n
        | none => .refuse .unclearInt v

/-- A double, or a whole number, truth value or text that spells one. -/
def readFloat (v : Value) : Reading Binary64 :=
  match v with
  | .float x => .accepted x
  | .int n =>
    match Binary64.ofInt n with
    | .infinite _ => .refuse .notNumber v
    | x => .accepted x
  | .bool b => .accepted (Binary64.ofInt (if b then 1 else 0))
  | _ =>
    readSpelling .unclearNumber .notNumber v fun s =>
      match Numeral.float? s with
      | some x => .accepted x
      | none => .refuse .unclearNumber v

/-- Anything. -/
def readAny (v : Value) : Reading Value :=
  .accepted v

/-- Null, or what another reader takes. -/
def readOptional {α : Type} (read : Value → Reading α) (v : Value) : Reading (Option α) :=
  match v with
  | .null => .accepted none
  | _ => (read v).map some

/-- Every item of a list from a position on. -/
def readItems {α : Type} (read : Value → Reading α) : Nat → List Value → Reading (List α)
  | _, [] => .accepted []
  | position, x :: xs =>
    ((read x).below (.index position)).map List.cons |>.seq (readItems read (position + 1) xs)

/-- A list, every item of which another reader takes. -/
def readList {α : Type} (read : Value → Reading α) (v : Value) : Reading (List α) :=
  match v.unmarked with
  | .list xs => readItems read 0 xs
  | .set xs => readItems read 0 xs
  | _ => .refuse .notList v

/-- The fields of an object, with keys that are read as texts. -/
def readKeys : Fields → Reading Fields
  | [] => .accepted []
  | (key, v) :: rest =>
    (((readText key).below (.key "[key]")).below (.key key.literal)).map
      (fun name => List.cons (.text name, v)) |>.seq (readKeys rest)

/-- An object of any content under texts. -/
def readObject (v : Value) : Reading Fields :=
  match v.unmarked with
  | .object fields => (readKeys fields).map Value.ofEntries
  | _ => .refuse .notObject v

/-- A field of a record: the key under which it travels, and a second key that is also taken. -/
structure FieldName where
  wire : String
  alternative : String
  deriving DecidableEq, Repr

/-- A field with one key. -/
def FieldName.single (name : String) : FieldName :=
  ⟨name, name⟩

/-- The value of a field with the key under which it was given; the first key wins. -/
def givenField (name : FieldName) (record : Value) : Option (String × Value) :=
  match Value.field? name.wire record.fields with
  | some v => some (name.wire, v)
  | none =>
    match Value.field? name.alternative record.fields with
    | some v => some (name.alternative, v)
    | none => none

/-- A field that has to be given. -/
def required {α : Type} (record : Value) (name : FieldName) (read : Value → Reading α) :
    Reading α :=
  match givenField name record with
  | some (key, v) => (read v).below (.key key)
  | none => .rejected [⟨[.key name.wire], .missing, record⟩]

/-- A field with a value to fall back on. -/
def optional {α : Type} (record : Value) (name : FieldName) (fallback : α)
    (read : Value → Reading α) : Reading α :=
  match givenField name record with
  | some (key, v) => (read v).below (.key key)
  | none => .accepted fallback

/-- A field of any content that remembers whether it was given. -/
def given (record : Value) (name : FieldName) : Reading (Option Value) :=
  .accepted ((givenField name record).map (·.2))

/-- A record: an object whose fields are read by `build`; other fields are passed over. -/
def readRecord {α : Type} (model : String) (build : Value → Reading α) (v : Value) : Reading α :=
  match v.unmarked with
  | .object _ => build v
  | _ => .refuse (.notRecord model) v

end ChartQuery.Schema

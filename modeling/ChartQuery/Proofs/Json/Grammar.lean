/-
# The grammar of JSON

A JSON text as the tree of what is written down. Blank space, the forms of numbers and the escapes
in strings are kept, so a tree is one text (`Tree.written`), which means one value (`Tree.value`) as
soon as it is said what numbers mean. The parts carry what the grammar asks of them: every tree is a
text of the standard. The standard has numbers of any length; `Tree.hasShortNumbers` says that they
are short enough to be read.

Texts are written in front of what follows them, as they are read.
-/

import ChartQuery.Json.Reader

namespace ChartQuery.Json

/-! ## Blank space, words and numbers -/

/-- Blank space between the signs of a text. -/
structure Blanks where
  chars : List Char
  areBlank : chars.all isBlank = true := by decide

/-- No blank space. -/
def Blanks.none : Blanks := ⟨[], rfl⟩

/-- A value that has a word. -/
inductive Word where
  | null
  | bool (b : Bool)

/-- The letters of a word. -/
def Word.chars : Word → List Char
  | .null => ['n', 'u', 'l', 'l']
  | .bool true => ['t', 'r', 'u', 'e']
  | .bool false => ['f', 'a', 'l', 's', 'e']

/-- What a word means. -/
def Word.value : Word → Value
  | .null => .null
  | .bool b => .bool b

/-- Digits, at least one. -/
structure Digits where
  chars : List Char
  areDigits : chars.all Text.isDigit = true := by decide
  notEmpty : chars ≠ [] := by decide

/-- The sign of a power, which may be missing. -/
inductive Sign where
  | missing
  | plus
  | minus
  deriving DecidableEq

/-- The sign as it is written. -/
def Sign.chars : Sign → List Char
  | .missing => []
  | .plus => ['+']
  | .minus => ['-']

/-- The power of ten behind a number. -/
structure Power where
  capital : Bool
  sign : Sign
  digits : Digits

namespace Power

/-- The letter that opens a power. -/
def letter (p : Power) : Char := if p.capital then 'E' else 'e'

/-- The power as it is written. -/
def chars (p : Power) : List Char := p.letter :: (p.sign.chars ++ p.digits.chars)

/-- The power as a number. -/
def exponent (p : Power) : Int :=
  let n : Int := Text.numberOf 10 p.digits.chars
  if p.sign = .minus then -n else n

end Power

/-- A number. Digits before the point begin with zero only if there are no others. -/
structure Number where
  negative : Bool
  whole : Digits
  noLeadingZero : whole.chars.head? = some '0' → whole.chars = ['0'] := by decide
  fraction : Option Digits
  power : Option Power

namespace Number

/-- The digits behind the point. -/
def fractionChars (n : Number) : List Char :=
  (n.fraction.map Digits.chars).getD []

/-- The point with the digits behind it. -/
def fractionPart (n : Number) : List Char :=
  (n.fraction.map fun d => '.' :: d.chars).getD []

/-- The power as it is written, if there is one. -/
def powerPart (n : Number) : List Char :=
  (n.power.map Power.chars).getD []

/-- The number as it is written, without its sign. -/
def body (n : Number) : List Char :=
  n.whole.chars ++ n.fractionPart ++ n.powerPart

/-- The number as it is written. -/
def chars (n : Number) : List Char :=
  if n.negative then '-' :: n.body else n.body

/-- A number with a point or a power is a double, the one nearest to the decimal. -/
def value (n : Number) : Value :=
  match n.fraction, n.power with
  | none, none =>
    let magnitude : Int := Text.numberOf 10 n.whole.chars
    .int (if n.negative then -magnitude else magnitude)
  | _, _ =>
    .float (Binary64.ofDecimal n.negative (Text.numberOf 10 (n.whole.chars ++ n.fractionChars))
      ((n.power.map Power.exponent).getD 0 - n.fractionChars.length))

/-- A number without a point and a power has no more digits than are read. -/
def isShort (n : Number) : Bool :=
  n.fraction.isSome || n.power.isSome || decide (n.whole.chars.length ≤ Numeral.digitLimit)

end Number

/-! ## Strings -/

/-- An escape of one letter. -/
inductive Escape where
  | quote
  | backslash
  | slash
  | backspace
  | formFeed
  | lineFeed
  | carriageReturn
  | tab

namespace Escape

/-- The letter behind the backslash. -/
def letter : Escape → Char
  | .quote => Text.doubleQuote
  | .backslash => '\\'
  | .slash => '/'
  | .backspace => 'b'
  | .formFeed => 'f'
  | .lineFeed => 'n'
  | .carriageReturn => 'r'
  | .tab => 't'

/-- The code of the character that an escape stands for. -/
def code : Escape → Nat
  | .quote => 0x22
  | .backslash => 0x5C
  | .slash => 0x2F
  | .backspace => 0x08
  | .formFeed => 0x0C
  | .lineFeed => 0x0A
  | .carriageReturn => 0x0D
  | .tab => 0x09

end Escape

/-- The character may stand in a string without an escape. -/
def isUnescaped (c : Char) : Bool :=
  decide (0x20 ≤ c.toNat) && c != Text.doubleQuote && c != '\\'

/-- A part of a string: a character, an escape of one letter, or an escape by a code. -/
inductive Piece where
  | plain (c : Char) (stands : isUnescaped c = true)
  | short (e : Escape)
  | unit (a b c d : Char) (areDigits : [a, b, c, d].all Text.isHexDigit = true)

namespace Piece

/-- The part as it is written. -/
def chars : Piece → List Char
  | .plain c _ => [c]
  | .short e => ['\\', e.letter]
  | .unit a b c d _ => ['\\', 'u', a, b, c, d]

/-- The code that the part stands for. -/
def code : Piece → Nat
  | .plain c _ => c.toNat
  | .short e => e.code
  | .unit a b c d _ => Text.numberOf 16 [a, b, c, d]

end Piece

/-- Two codes form a pair, which stands for one character. -/
def isPair (high low : Nat) : Bool :=
  decide (0xD800 ≤ high ∧ high < 0xDC00 ∧ 0xDC00 ≤ low ∧ low < 0xE000)

/-- The character that a pair stands for. -/
def charOfPair (high low : Nat) : Char :=
  Char.ofNat (0x10000 + (high - 0xD800) * 0x400 + (low - 0xDC00))

/-- The code points of a string. -/
def stringOf : List Piece → List Point
  | [] => []
  | [p] => [.ofCode p.code]
  | p :: q :: rest =>
    if isPair p.code q.code then .char (charOfPair p.code q.code) :: stringOf rest
    else .ofCode p.code :: stringOf (q :: rest)

/-- A string with its marks, in front of the rest. -/
def quotedBefore (pieces : List Piece) (rest : List Char) : List Char :=
  Text.doubleQuote :: (pieces.flatMap Piece.chars ++ Text.doubleQuote :: rest)

/-- The key of a field with the blank space before and behind it and behind its colon. -/
structure Label where
  before : Blanks
  name : List Piece
  gap : Blanks
  pad : Blanks

/-- The text of a key. -/
def Label.key (l : Label) : Value := .text (Text.ofList (stringOf l.name))

/-! ## Values -/

mutual

/-- A value as it is written. -/
inductive Tree where
  | word (w : Word)
  | number (n : Number)
  | text (pieces : List Piece)
  | emptyList (inside : Blanks)
  | list (items : Items)
  | emptyObject (inside : Blanks)
  | object (members : Members)

/-- The items of a list, with the blank space around each. -/
inductive Items where
  | last (before : Blanks) (item : Tree) (behind : Blanks)
  | more (before : Blanks) (item : Tree) (behind : Blanks) (rest : Items)

/-- The fields of an object. -/
inductive Members where
  | last (label : Label) (value : Tree) (behind : Blanks)
  | more (label : Label) (value : Tree) (behind : Blanks) (rest : Members)

end

section Written

variable (blank : Blanks → List Char)

/-- A key with its colon in front of the rest, where `blank` says how blank space is written. -/
def Label.written (l : Label) (rest : List Char) : List Char :=
  blank l.before ++ quotedBefore l.name (blank l.gap ++ ':' :: (blank l.pad ++ rest))

mutual

/-- A value in front of the rest. -/
def Tree.written : Tree → List Char → List Char
  | .word w, rest => w.chars ++ rest
  | .number n, rest => n.chars ++ rest
  | .text pieces, rest => quotedBefore pieces rest
  | .emptyList inside, rest => '[' :: (blank inside ++ ']' :: rest)
  | .list items, rest => '[' :: items.written (']' :: rest)
  | .emptyObject inside, rest => '{' :: (blank inside ++ '}' :: rest)
  | .object members, rest => '{' :: members.written ('}' :: rest)

/-- Items in front of the rest. -/
def Items.written : Items → List Char → List Char
  | .last before item behind, rest => blank before ++ item.written (blank behind ++ rest)
  | .more before item behind items, rest =>
    blank before ++ item.written (blank behind ++ ',' :: items.written rest)

/-- Fields in front of the rest. -/
def Members.written : Members → List Char → List Char
  | .last label value behind, rest => label.written blank (value.written (blank behind ++ rest))
  | .more label value behind members, rest =>
    label.written blank (value.written (blank behind ++ ',' :: members.written rest))

end

end Written

section Meaning

variable (number : Number → Value)

mutual

/-- What a value means, where `number` says what numbers mean. Of equal keys the last value counts,
at the place of the first. -/
def Tree.value : Tree → Value
  | .word w => w.value
  | .number n => number n
  | .text pieces => .text (Text.ofList (stringOf pieces))
  | .emptyList _ => .list []
  | .list items => .list items.values
  | .emptyObject _ => .object []
  | .object members => .object (Value.ofEntries members.entries)

/-- The values of items. -/
def Items.values : Items → List Value
  | .last _ item _ => [item.value]
  | .more _ item _ items => item.value :: items.values

/-- The keys and values of fields. -/
def Members.entries : Members → Fields
  | .last label value _ => [(label.key, value.value)]
  | .more label value _ members => (label.key, value.value) :: members.entries

end

end Meaning

mutual

/-- The number of values and keys in a value. -/
def Tree.size : Tree → Nat
  | .list items => items.size + 1
  | .object members => members.size + 1
  | _ => 1

/-- The number of values and keys in items. -/
def Items.size : Items → Nat
  | .last _ item _ => item.size + 1
  | .more _ item _ items => item.size + items.size + 1

/-- The number of values and keys in fields. -/
def Members.size : Members → Nat
  | .last _ value _ => value.size + 1
  | .more _ value _ members => value.size + members.size + 1

end

mutual

/-- No whole number has too many digits. -/
def Tree.hasShortNumbers : Tree → Bool
  | .number n => n.isShort
  | .list items => items.hasShortNumbers
  | .object members => members.hasShortNumbers
  | _ => true

/-- No whole number in items has too many digits. -/
def Items.hasShortNumbers : Items → Bool
  | .last _ item _ => item.hasShortNumbers
  | .more _ item _ items => item.hasShortNumbers && items.hasShortNumbers

/-- No whole number in fields has too many digits. -/
def Members.hasShortNumbers : Members → Bool
  | .last _ value _ => value.hasShortNumbers
  | .more _ value _ members => value.hasShortNumbers && members.hasShortNumbers

end

/-- The value is an object. -/
def Tree.isObject : Tree → Bool
  | .emptyObject _ => true
  | .object _ => true
  | _ => false

/-- A text that holds one object, with the blank space around it. -/
structure Document where
  before : Blanks
  root : Tree
  behind : Blanks
  isObject : root.isObject = true := by rfl

namespace Document

/-- The fields that a document means, where `number` says what numbers mean. -/
def fields (number : Number → Value) (d : Document) : Fields :=
  match d.root with
  | .object members => Value.ofEntries (members.entries number)
  | _ => []

/-- The text of a document, where `blank` says how blank space is written. -/
def written (blank : Blanks → List Char) (d : Document) : List Char :=
  blank d.before ++ d.root.written blank (blank d.behind)

/-- The text of a document. -/
def text (d : Document) : List Char :=
  d.written Blanks.chars

@[simp]
theorem root_value (number : Number → Value) (d : Document) :
    d.root.value number = .object (d.fields number) := by
  obtain ⟨before, root, behind, hobject⟩ := d
  cases root with
  | emptyObject inside => rfl
  | object members => rfl
  | _ => cases hobject

end Document

end ChartQuery.Json

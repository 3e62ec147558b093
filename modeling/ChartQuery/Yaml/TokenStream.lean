/-
# The tokens of a document

Cutting a text into tokens. The structure of blocks is given by indentation alone: a line that is
indented more opens a collection, one that is indented less closes collections. A node may turn out
to be the key of a mapping only when a colon is met behind it, so the place of a possible key is
remembered (`PendingKey`), and the tokens that open the key are put there afterwards.

A reader of the stream takes a token only when it is settled whether it opens a key. When the text
is malformed, the stream therefore ends before the first key that is still possible (`Stream.cut`),
and what follows is the failure.
-/

import ChartQuery.Yaml.BlockScalar
import ChartQuery.Yaml.Plain
import ChartQuery.Yaml.QuotedScalar

namespace ChartQuery.Yaml

/-- A place where a key may begin: the number of brackets around it and of tokens before it. A key
is required where a mapping can only go on with one. -/
structure PendingKey where
  depth : Nat
  before : Nat
  required : Bool
  mark : Mark
  deriving Repr

/-- The state of cutting: where it is, the tokens found so far with the latest first, the
indentations of the blocks around, the number of open brackets, and where keys may begin. -/
structure Stream where
  cursor : Cursor
  found : List Token
  indent : Int
  outer : List Int
  depth : Nat
  keyAllowed : Bool
  pending : List PendingKey
  finished : Bool
  deriving Repr

/-- A step that changes the state or fails. -/
abbrev Stream.Step := Stream → Except Failure Stream

namespace Stream

/-- The state at the head of a text. -/
def start (text : List Char) : Stream :=
  ⟨Cursor.ofText text, [], -1, [], 0, true, [], false⟩

/-- The place that is reached. -/
def mark (s : Stream) : Mark := s.cursor.mark

/-- Inside brackets indentation does not count. -/
def inFlow (s : Stream) : Bool := s.depth != 0

/-- The state with one more token. -/
def push (token : Token) (s : Stream) : Stream :=
  { s with found := token :: s.found }

/-- The state with one more token that has no length. -/
def pushEmpty (kind : Token.Kind) (s : Stream) : Stream :=
  s.push ⟨kind, s.mark, s.mark⟩

/-- Pass over the characters of a token and keep it. -/
def pushSign (kind : Token.Kind) (length : Nat) (s : Stream) : Stream :=
  let next := s.cursor.advance length
  { s with cursor := next, found := ⟨kind, s.mark, next.mark⟩ :: s.found }

/-- The state with a token at an earlier place, behind the given number of tokens. -/
def insert (before : Nat) (token : Token) (s : Stream) : Stream :=
  let later := s.found.length - before
  { s with found := s.found.take later ++ token :: s.found.drop later }

/-- The failure of a required key behind which no colon was met. -/
def missingColon (s : Stream) (key : PendingKey) : Failure :=
  .malformed ⟨some .simpleKey, some key.mark, .noColon, s.mark⟩

/-- A possible key is out of reach: its line is over, or it has grown too long. -/
def isStale (s : Stream) (key : PendingKey) : Bool :=
  key.mark.line != s.mark.line || s.mark.index - key.mark.index > 1024

/-- The state without the possible keys that have a property; none of them may be required. -/
def dropKeys (p : PendingKey → Bool) : Step := fun s =>
  match s.pending.find? fun key => p key && key.required with
  | some key => .error (s.missingColon key)
  | none => .ok { s with pending := s.pending.filter fun key => !p key }

/-- The state without possible keys that are out of reach. -/
def dropStale : Step := fun s => dropKeys s.isStale s

/-- The state without a possible key at this depth of brackets. -/
def dropKeyHere : Step := fun s => dropKeys (·.depth == s.depth) s

/-- Remember that a key may begin here, if keys are allowed. -/
def saveKey : Step := fun s =>
  if s.keyAllowed then do
    let required := !s.inFlow && s.indent == (s.mark.column : Int)
    let s ← s.dropKeyHere
    .ok { s with pending := ⟨s.depth, s.found.length, required, s.mark⟩ :: s.pending }
  else .ok s

/-- Close the blocks that are indented more than a column. -/
def closeBlocksFrom (column : Int) : List Int → Stream → Stream
  | [], s => s
  | outer :: rest, s =>
    if column < s.indent then
      closeBlocksFrom column rest { s.pushEmpty .blockEnd with indent := outer, outer := rest }
    else s

/-- Close the blocks that are indented more than a column; there are none inside brackets. -/
def closeBlocks (column : Int) (s : Stream) : Stream :=
  if s.inFlow then s else closeBlocksFrom column s.outer s

/-- The state with a block of a column open, and whether it was not open before. -/
def openBlock (column : Nat) (s : Stream) : Bool × Stream :=
  if s.indent < (column : Int) then
    (true, { s with outer := s.indent :: s.outer, indent := (column : Int) })
  else (false, s)

/-- Pass over blanks, comments and line ends. The bound exceeds the number of characters left. -/
def skipSpaceWithin : Nat → Stream → Stream
  | 0, s => s
  | bound + 1, s =>
    let (_, next) := s.cursor.span (· == ' ')
    let next := if next.peek 0 = some '#' then (next.span fun c => !isBreak c).2 else next
    match next.peek 0 with
    | some c =>
      if isBreak c then
        skipSpaceWithin bound
          { s with cursor := next.advance 1, keyAllowed := s.keyAllowed || !s.inFlow }
      else { s with cursor := next }
    | none => { s with cursor := next }

/-- Pass over everything in front of the next token, at the head of the text also over a byte order
mark. -/
def skipSpace (s : Stream) : Stream :=
  let cursor :=
    if s.mark.index = 0 ∧ s.cursor.peek 0 = some byteOrderMark then s.cursor.advance 1
    else s.cursor
  skipSpaceWithin (cursor.rest.length + 1) { s with cursor := cursor }

/-- The failure at the place that is reached. -/
def refused (s : Stream) (activity : Option Activity) (problem : Problem) : Failure :=
  .malformed ⟨activity, none, problem, s.mark⟩

/-- Run a scan from here and keep the token that it gives. -/
def pushScanned {α : Type} (scan : Scan α) (kind : α → Token.Kind) (s : Stream) :
    Except Failure (α × Stream) :=
  match scan.run s.cursor with
  | .error e => .error e
  | .ok (a, next) =>
    .ok (a, { s with cursor := next, found := ⟨kind a, s.mark, next.mark⟩ :: s.found })

/-- A token that may open a key: an alias, a name, a tag or a scalar. -/
def pushKeyLike (scan : Scan Token.Kind) : Step := fun s => do
  let s ← s.saveKey
  let (_, s) ← pushScanned scan id { s with keyAllowed := false }
  .ok s

/-- A plain scalar; a key may begin behind it when its line is over. -/
def pushPlain : Step := fun s => do
  let s ← s.saveKey
  let ((_, crosses), s) ← pushScanned (scanPlain s.inFlow s.indent) (fun r => .scalar r.1 true) s
  .ok { s with keyAllowed := crosses }

/-- A block scalar, behind which a key may begin. -/
def pushBlockScalar (folded : Bool) : Step := fun s => do
  let s ← s.dropKeyHere
  let (_, s) ← pushScanned (scanBlock folded s.indent) (fun text => .scalar text false) s
  .ok { s with keyAllowed := true }

/-- The end of the text. -/
def pushEnd : Step := fun s => do
  let s ← (s.closeBlocks (-1)).dropKeyHere
  .ok { s.pushEmpty .streamEnd with keyAllowed := false, pending := [], finished := true }

/-- A directive. -/
def pushDirective : Step := fun s => do
  let s ← (s.closeBlocks (-1)).dropKeyHere
  let (_, s) ← pushScanned scanDirective Token.Kind.directive s
  .ok { s with keyAllowed := false }

/-- The three signs that begin or end a document. -/
def pushSeparator (kind : Token.Kind) : Step := fun s => do
  let s ← (s.closeBlocks (-1)).dropKeyHere
  .ok { s.pushSign kind 3 with keyAllowed := false }

/-- An opening bracket, which may itself open a key. -/
def pushFlowStart (kind : Token.Kind) : Step := fun s => do
  let s ← s.saveKey
  .ok { s.pushSign kind 1 with depth := s.depth + 1, keyAllowed := true }

/-- A closing bracket. -/
def pushFlowEnd (kind : Token.Kind) : Step := fun s => do
  let s ← s.dropKeyHere
  .ok { s.pushSign kind 1 with depth := s.depth - 1, keyAllowed := false }

/-- A comma inside brackets. -/
def pushFlowEntry : Step := fun s => do
  let s ← s.dropKeyHere
  .ok { s.pushSign .flowEntry 1 with keyAllowed := true }

/-- Open a block here unless one is open, and keep the token that says so. -/
def openBlockHere (kind : Token.Kind) (refusal : Problem) : Step := fun s =>
  if s.inFlow then .ok s
  else if !s.keyAllowed then .error (s.refused none refusal)
  else
    let (isNew, next) := s.openBlock s.mark.column
    .ok (if isNew then next.pushEmpty kind else next)

/-- The dash before an entry of a block sequence. -/
def pushBlockEntry : Step := fun s => do
  let s ← s.openBlockHere .blockSequenceStart .sequenceNotAllowed
  let s ← s.dropKeyHere
  .ok { s.pushSign .blockEntry 1 with keyAllowed := true }

/-- The question mark before a key. -/
def pushKey : Step := fun s => do
  let s ← s.openBlockHere .blockMappingStart .keyNotAllowed
  let s ← s.dropKeyHere
  .ok { s.pushSign .key 1 with keyAllowed := !s.inFlow }

/-- The tokens of a key that has turned out to be one, put to where it began. -/
def settleKey (key : PendingKey) (s : Stream) : Stream :=
  let s := { s with pending := s.pending.filter (·.depth != s.depth) }
  let s := s.insert key.before ⟨.key, key.mark, key.mark⟩
  if s.inFlow then s
  else
    let (isNew, next) := s.openBlock key.mark.column
    if isNew then next.insert key.before ⟨.blockMappingStart, key.mark, key.mark⟩ else next

/-- The colon before a value. -/
def pushValue : Step := fun s =>
  match s.pending.find? (·.depth == s.depth) with
  | some key =>
    .ok { (s.settleKey key).pushSign .value 1 with keyAllowed := false }
  | none => do
    let s ← s.openBlockHere .blockMappingStart .valueNotAllowed
    let s ← s.dropKeyHere
    .ok { s.pushSign .value 1 with keyAllowed := !s.inFlow }

/-- The signs that may not begin a plain scalar. -/
def plainRefusals : List Char := "-?:,[]\x7b\x7d#&*!|>'\x22%@\x60".toList

/-- A plain scalar begins with a character before the one that follows. -/
def beginsPlain (inFlow : Bool) (c : Char) (next : Option Char) : Bool :=
  !(atSpace (some c) || plainRefusals.contains c) ||
    (!atSpace next && (c == '-' || (!inFlow && (c == '?' || c == ':'))))

/-- The token that begins with a character. -/
def pushNext (c : Char) : Step := fun s =>
  let next := s.cursor.peek 1
  let atLineStart := s.mark.column == 0
  if c = '%' ∧ atLineStart then s.pushDirective
  else if c = '-' ∧ atLineStart ∧ s.cursor.atSeparator then s.pushSeparator .documentStart
  else if c = '.' ∧ atLineStart ∧ s.cursor.atSeparator then s.pushSeparator .documentEnd
  else if c = '[' then s.pushFlowStart .flowSequenceStart
  else if c = '{' then s.pushFlowStart .flowMappingStart
  else if c = ']' then s.pushFlowEnd .flowSequenceEnd
  else if c = '}' then s.pushFlowEnd .flowMappingEnd
  else if c = ',' then s.pushFlowEntry
  else if c = '-' ∧ atSpace next then s.pushBlockEntry
  else if c = '?' ∧ (s.inFlow || atSpace next) then s.pushKey
  else if c = ':' ∧ (s.inFlow || atSpace next) then s.pushValue
  else if c = '*' then s.pushKeyLike (Token.Kind.aliasName <$> scanName .aliasName)
  else if c = '&' then s.pushKeyLike (Token.Kind.anchor <$> scanName .anchorName)
  else if c = '!' then s.pushKeyLike scanTag
  else if c = '|' ∧ !s.inFlow then s.pushBlockScalar false
  else if c = '>' ∧ !s.inFlow then s.pushBlockScalar true
  else if c = Text.singleQuote then
    s.pushKeyLike ((Token.Kind.scalar · false) <$> scanQuoted false)
  else if c = Text.doubleQuote then
    s.pushKeyLike ((Token.Kind.scalar · false) <$> scanQuoted true)
  else if beginsPlain s.inFlow c next then s.pushPlain
  else .error (s.refused (some .nextToken) (.noToken (some c)))

/-- Find the next token. -/
def advance : Step := fun s => do
  let s ← s.skipSpace.dropStale
  let s := s.closeBlocks s.mark.column
  match s.cursor.peek 0 with
  | none => s.pushEnd
  | some c => s.pushNext c

/-- The tokens before the first key that is still possible, in order. -/
def settled (s : Stream) : List Token :=
  let count := s.pending.foldl (fun least key => min least key.before) s.found.length
  (s.found.drop (s.found.length - count)).reverse

/-- All tokens in order, and the failure that follows them if the text is malformed. The bound
exceeds the number of characters left. -/
def collect : Nat → Stream → List Token × Option Failure
  | 0, s => (s.found.reverse, none)
  | bound + 1, s =>
    if s.finished then (s.found.reverse, none)
    else
      match s.dropStale with
      | .error e => (s.settled, some e)
      | .ok fresh =>
        match fresh.advance with
        | .error e => (fresh.settled, some e)
        | .ok next => collect bound next

/-- The tokens of a text, and the failure that follows them if the text is malformed. -/
def tokens (text : List Char) : List Token × Option Failure :=
  collect (text.length + 2) (start text)

end Stream

end ChartQuery.Yaml

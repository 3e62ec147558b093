/-
# Failures of a document

Why a text is no readable document. Most failures are found at a place, while something was being
read; both are kept apart, so that a report can show the activity with its own place first. Some
scalars have the right form and still no value; these failures have no place.
-/

import ChartQuery.Number.Numeral
import ChartQuery.Text.Piece
import ChartQuery.Text.Quoted
import ChartQuery.Text.Utf8

namespace ChartQuery.Yaml

/-- A place in a document: the characters, lines and columns before it. -/
structure Mark where
  index : Nat
  line : Nat
  column : Nat
  deriving DecidableEq, Repr, Inhabited

/-- The place where a document begins. -/
def Mark.start : Mark := ⟨0, 0, 0⟩

/-- What was being read. -/
inductive Activity where
  | nextToken
  | simpleKey
  | directive
  | aliasName
  | anchorName
  | tagWithin
  | tagOpened
  | tagPart (name : String)
  | tagPartOpened (name : String)
  | blockScalar
  | doubleQuoted
  | quoted
  | node
  | blockNode
  | flowNode
  | blockCollection
  | blockMapping
  | flowSequence
  | flowMapping
  | singleDocument
  | firstAnchor (name : String)
  | mapping
  | orderedMap
  | pairs
  deriving DecidableEq, Repr

/-- The words for an activity. -/
def Activity.words : Activity → String
  | .nextToken => "while scanning for the next token"
  | .simpleKey => "while scanning a simple key"
  | .directive => "while scanning a directive"
  | .aliasName => "while scanning an alias"
  | .anchorName => "while scanning an anchor"
  | .tagWithin => "while scanning a tag"
  | .tagOpened => "while parsing a tag"
  | .tagPart name => "while scanning a " ++ name
  | .tagPartOpened name => "while parsing a " ++ name
  | .blockScalar => "while scanning a block scalar"
  | .doubleQuoted => "while scanning a double-quoted scalar"
  | .quoted => "while scanning a quoted scalar"
  | .node => "while parsing a node"
  | .blockNode => "while parsing a block node"
  | .flowNode => "while parsing a flow node"
  | .blockCollection => "while parsing a block collection"
  | .blockMapping => "while parsing a block mapping"
  | .flowSequence => "while parsing a flow sequence"
  | .flowMapping => "while parsing a flow mapping"
  | .singleDocument => "expected a single document in the stream"
  | .firstAnchor name => "found duplicate anchor " ++ Text.quoted name ++ "; first occurrence"
  | .mapping => "while constructing a mapping"
  | .orderedMap => "while constructing an ordered map"
  | .pairs => "while constructing pairs"

/-- What is wrong. A character is `none` at the end of the text. -/
inductive Problem where
  | noToken (c : Option Char)
  | noColon
  | sequenceNotAllowed
  | keyNotAllowed
  | valueNotAllowed
  | expectedName (c : Option Char)
  | expectedDigit (c : Option Char)
  | expectedDigitOrPoint (c : Option Char)
  | expectedDigitOrBlank (c : Option Char)
  | expectedBlank (c : Option Char)
  | expectedLineEnd (c : Option Char)
  | expectedClosingBracket (c : Option Char)
  | expectedBang (c : Option Char)
  | expectedUri (c : Option Char)
  | expectedUriEscape (c : Option Char)
  | undecodableUri (reason : Text.Utf8Failure)
  | zeroIndentation
  | expectedIndicators (c : Option Char)
  | badEscapeCode (count : Nat) (c : Option Char)
  | badEscape (c : Option Char)
  | endInQuotes
  | separatorInQuotes
  | expectedDocument (found : String)
  | secondVersion
  | foreignVersion
  | secondHandle (handle : String)
  | unknownHandle (handle : String)
  | expectedContent (found : String)
  | expectedBlockEnd (found : String)
  | expectedInSequence (found : String)
  | expectedInMapping (found : String)
  | unknownAlias (name : String)
  | secondAnchor
  | secondDocument
  | expectedScalar (found : String)
  | expectedSequence (found : String)
  | expectedMapping (found : String)
  | unorderedMap (found : String)
  | expectedSinglePair (found : String)
  | pairCount (count : Nat)
  | unmergeable (found : String)
  | unmergeableItem (found : String)
  | badKey
  | unknownTag (tag : String)
  | foreignBase64 (words : String)
  | badBase64 (words : String)
  deriving DecidableEq, Repr

/-- A character as it stands in a report; the end is shown as the code zero. -/
def shown (c : Option Char) : String :=
  Text.quoted (Text.ofList [.char (c.getD (Char.ofNat 0))])

/-- The words for bytes that are no text, the first of them at the position. -/
def undecodableWords (position : Nat) (reason : Text.Utf8Failure) : String :=
  "'utf-8' codec can't decode " ++
    (if reason.count = 1 then
      "byte 0x" ++ Text.hexPadded 2 reason.first.toNat ++ " in position " ++ toString position
    else
      "bytes in position " ++ toString position ++ "-" ++ toString (position + reason.count - 1)) ++
    ": " ++ reason.reason.message

/-- The words for a problem. -/
def Problem.words : Problem → String
  | .noToken c => "found character " ++ shown c ++ " that cannot start any token"
  | .noColon => "could not find expected ':'"
  | .sequenceNotAllowed => "sequence entries are not allowed here"
  | .keyNotAllowed => "mapping keys are not allowed here"
  | .valueNotAllowed => "mapping values are not allowed here"
  | .expectedName c => "expected alphabetic or numeric character, but found " ++ shown c
  | .expectedDigit c => "expected a digit, but found " ++ shown c
  | .expectedDigitOrPoint c => "expected a digit or '.', but found " ++ shown c
  | .expectedDigitOrBlank c => "expected a digit or ' ', but found " ++ shown c
  | .expectedBlank c => "expected ' ', but found " ++ shown c
  | .expectedLineEnd c => "expected a comment or a line break, but found " ++ shown c
  | .expectedClosingBracket c => "expected '>', but found " ++ shown c
  | .expectedBang c => "expected '!', but found " ++ shown c
  | .expectedUri c => "expected URI, but found " ++ shown c
  | .expectedUriEscape c =>
    "expected URI escape sequence of 2 hexadecimal numbers, but found " ++ shown c
  | .undecodableUri reason => undecodableWords reason.position reason
  | .zeroIndentation => "expected indentation indicator in the range 1-9, but found 0"
  | .expectedIndicators c =>
    "expected chomping or indentation indicators, but found " ++ shown c
  | .badEscapeCode count c =>
    "expected escape sequence of " ++ toString count ++ " hexadecimal numbers, but found " ++
      shown c
  | .badEscape c => "found unknown escape character " ++ shown c
  | .endInQuotes => "found unexpected end of stream"
  | .separatorInQuotes => "found unexpected document separator"
  | .expectedDocument found => "expected '<document start>', but found " ++ Text.quoted found
  | .secondVersion => "found duplicate YAML directive"
  | .foreignVersion => "found incompatible YAML document (version 1.* is required)"
  | .secondHandle handle => "duplicate tag handle " ++ Text.quoted handle
  | .unknownHandle handle => "found undefined tag handle " ++ Text.quoted handle
  | .expectedContent found => "expected the node content, but found " ++ Text.quoted found
  | .expectedBlockEnd found => "expected <block end>, but found " ++ Text.quoted found
  | .expectedInSequence found => "expected ',' or ']', but got " ++ Text.quoted found
  | .expectedInMapping found => "expected ',' or '\x7d', but got " ++ Text.quoted found
  | .unknownAlias name => "found undefined alias " ++ Text.quoted name
  | .secondAnchor => "second occurrence"
  | .secondDocument => "but found another document"
  | .expectedScalar found => "expected a scalar node, but found " ++ found
  | .expectedSequence found => "expected a sequence node, but found " ++ found
  | .expectedMapping found => "expected a mapping node, but found " ++ found
  | .unorderedMap found => "expected a sequence, but found " ++ found
  | .expectedSinglePair found => "expected a mapping of length 1, but found " ++ found
  | .pairCount count => "expected a single mapping item, but found " ++ toString count ++ " items"
  | .unmergeable found => "expected a mapping or list of mappings for merging, but found " ++ found
  | .unmergeableItem found => "expected a mapping for merging, but found " ++ found
  | .badKey => "found unhashable key"
  | .unknownTag tag => "could not determine a constructor for the tag " ++ Text.quoted tag
  | .foreignBase64 words => "failed to convert base64 data into ascii: " ++ words
  | .badBase64 words => "failed to decode base64 data: " ++ words

/-- A problem at a place, with what was being read and where that began. -/
structure Complaint where
  activity : Option Activity
  began : Option Mark
  problem : Problem
  place : Mark
  deriving DecidableEq, Repr

/-- Why a scalar of a known type has no value. -/
inductive ScalarFault where
  | noBool (word : Text)
  | emptyNumber
  | noInt (base : Nat) (digits : Text)
  | oversizedInt (digits : Nat)
  | noFloat (word : Text)
  | noTimestamp
  | yearRange (year : Nat)
  | monthRange
  | dayRange
  | hourRange
  | minuteRange
  | secondRange
  | offsetRange (literal : String)
  | codeRange
  | codeSize
  | endlessText
  deriving DecidableEq, Repr

/-- The words for a fault. -/
def ScalarFault.words : ScalarFault → String
  | .noBool word => Text.quoted word
  | .emptyNumber => "string index out of range"
  | .noInt base digits =>
    "invalid literal for int() with base " ++ toString base ++ ": " ++ Text.quoted digits
  | .oversizedInt digits => Numeral.oversizedWords digits
  | .noFloat word => "could not convert string to float: " ++ Text.quoted word
  | .noTimestamp => "'NoneType' object has no attribute 'groupdict'"
  | .yearRange year => "year " ++ toString year ++ " is out of range"
  | .monthRange => "month must be in 1..12"
  | .dayRange => "day is out of range for month"
  | .hourRange => "hour must be in 0..23"
  | .minuteRange => "minute must be in 0..59"
  | .secondRange => "second must be in 0..59"
  | .offsetRange literal =>
    "offset must be a timedelta strictly between -timedelta(hours=24) and " ++
      "timedelta(hours=24), not " ++ literal ++ "."
  | .codeRange => "chr() arg not in range(0x110000)"
  | .codeSize => "Python int too large to convert to C int"
  | .endlessText => "maximum recursion depth exceeded"

/-- Why a text is no readable document. -/
inductive Failure where
  | undecodable (reason : Text.Utf8Failure)
  | unprintable (c : Char) (position : Nat)
  | malformed (complaint : Complaint)
  | unreadable (fault : ScalarFault)
  deriving Repr

/-- A place in the file of the given name. -/
def Mark.text (file : Text) (m : Mark) : Text :=
  "  in \x22" ++ file ++ "\x22, line " ++ toString (m.line + 1) ++ ", column " ++
    toString (m.column + 1)

/-- The lines about a complaint. The place of the activity is left out where the problem has the
same. -/
def Complaint.lines (file : Text) (c : Complaint) : List Text :=
  (match c.activity with
    | some activity => [(activity.words : Text)]
    | none => []) ++
  (match c.began with
    | some began =>
      if began.line = c.place.line ∧ began.column = c.place.column then [] else [began.text file]
    | none => []) ++
  [(c.problem.words : Text), c.place.text file]

/-- The words for a failure in the file of the given name. Bytes that only lack their end are
counted from the first of them, because they were set aside until the end was reached. -/
def Failure.message (file : Text) : Failure → Text
  | .undecodable reason =>
    undecodableWords (if reason.reason = .endOfData then 0 else reason.position) reason
  | .unprintable c position =>
    "unacceptable character #x" ++ Text.hexPadded 4 c.toNat ++
      ": special characters are not allowed\n  in \x22" ++ file ++ "\x22, position " ++
      toString position
  | .malformed complaint => Text.joined "\n" (complaint.lines file)
  | .unreadable fault => fault.words

end ChartQuery.Yaml

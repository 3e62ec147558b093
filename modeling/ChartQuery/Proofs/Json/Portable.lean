/-
# JSON texts in YAML

YAML reads most JSON texts, but not all of them, and not all numbers as numbers. Both can be told
from the written forms alone. A text is read (`Document.isReadable`) if its blank space has no tabs,
its strings hold no character that YAML refuses or folds and no escaped pair of halves, which YAML
leaves apart, and the colon behind each key stands on the key's line and within its reach. A number
with a power is a number (`Number.isPortable`) if it has a point before the power and a sign in it;
else it is the text as which it is written.
-/

import ChartQuery.Proofs.Json.Grammar
import ChartQuery.Yaml.Document

namespace ChartQuery.Json

/-- Tabs are no blank space between the signs of YAML. -/
def Blanks.isPortable (b : Blanks) : Bool :=
  !b.chars.contains '\t'

/-- A power makes a number only behind a point and with a sign; else it makes a text. -/
def Number.isPortable (n : Number) : Bool :=
  n.power.all fun p => n.fraction.isSome && p.sign != .missing

/-- What a number means in YAML. -/
def Number.yamlValue (n : Number) : Value :=
  if n.isPortable then n.value else .text (String.ofList n.chars)

/-- Characters that YAML refuses or takes for the end of a line need other forms. -/
def Piece.isPortable : Piece → Bool
  | .plain c _ => Yaml.isPrintable c && !Yaml.isBreak c
  | .short _ => true
  | .unit _ _ _ _ _ => true

/-- The two halves of a pair stand next to each other. -/
def hasPair : List Piece → Bool
  | [] => false
  | [_] => false
  | p :: q :: rest => isPair p.code q.code || hasPair (q :: rest)

/-- YAML reads the string. -/
def arePortable (pieces : List Piece) : Bool :=
  pieces.all Piece.isPortable && !hasPair pieces

/-- The number of characters from the opening mark of a key to its colon. -/
def Label.reach (l : Label) : Nat :=
  (l.name.flatMap Piece.chars).length + 2 + l.gap.chars.length

/-- A key and its colon stand on one line, at most 1024 characters apart. -/
def Label.isPortable (l : Label) : Bool :=
  l.before.isPortable && arePortable l.name && l.gap.chars.all (· == ' ') &&
    l.pad.isPortable && decide (l.reach ≤ 1024)

mutual

/-- YAML reads the value, each number in its way. -/
def Tree.isReadable : Tree → Bool
  | .word _ => true
  | .number _ => true
  | .text pieces => arePortable pieces
  | .emptyList inside => inside.isPortable
  | .list items => items.isReadable
  | .emptyObject inside => inside.isPortable
  | .object members => members.isReadable

/-- YAML reads all items. -/
def Items.isReadable : Items → Bool
  | .last before item behind => before.isPortable && item.isReadable && behind.isPortable
  | .more before item behind items =>
    before.isPortable && item.isReadable && behind.isPortable && items.isReadable

/-- YAML reads all fields. -/
def Members.isReadable : Members → Bool
  | .last label value behind => label.isPortable && value.isReadable && behind.isPortable
  | .more label value behind members =>
    label.isPortable && value.isReadable && behind.isPortable && members.isReadable

end

/-- YAML reads the text. -/
def Document.isReadable (d : Document) : Bool :=
  d.before.isPortable && d.root.isReadable && d.behind.isPortable

mutual

/-- All numbers are numbers in YAML. -/
def Tree.hasPortableNumbers : Tree → Bool
  | .number n => n.isPortable
  | .list items => items.hasPortableNumbers
  | .object members => members.hasPortableNumbers
  | _ => true

/-- All numbers in items are numbers in YAML. -/
def Items.hasPortableNumbers : Items → Bool
  | .last _ item _ => item.hasPortableNumbers
  | .more _ item _ items => item.hasPortableNumbers && items.hasPortableNumbers

/-- All numbers in fields are numbers in YAML. -/
def Members.hasPortableNumbers : Members → Bool
  | .last _ value _ => value.hasPortableNumbers
  | .more _ value _ members => value.hasPortableNumbers && members.hasPortableNumbers

end

/-- Without a pair each part of a string gives a code point of its own. -/
theorem stringOf_of_not_hasPair {pieces : List Piece} (h : hasPair pieces = false) :
    stringOf pieces = pieces.map fun p => .ofCode p.code := by
  fun_induction stringOf pieces with
  | case1 => rfl
  | case2 p => rfl
  | case3 p q rest hpair ih => simp [hasPair, hpair] at h
  | case4 p q rest hpair ih =>
    rw [hasPair, Bool.or_eq_false_iff] at h
    rw [ih h.2, List.map_cons (a := p)]

mutual

/-- Where all numbers are numbers in YAML, both formats mean the same. -/
theorem Tree.value_yamlValue (t : Tree) (h : t.hasPortableNumbers = true) :
    t.value Number.yamlValue = t.value Number.value := by
  cases t with
  | number n => exact if_pos h
  | list items => rw [Tree.value, Tree.value, items.values_yamlValue h]
  | object members => rw [Tree.value, Tree.value, members.entries_yamlValue h]
  | _ => rfl

theorem Items.values_yamlValue (items : Items) (h : items.hasPortableNumbers = true) :
    items.values Number.yamlValue = items.values Number.value := by
  cases items with
  | last before item behind => rw [Items.values, Items.values, item.value_yamlValue h]
  | more before item behind items =>
    rw [Items.hasPortableNumbers, Bool.and_eq_true] at h
    rw [Items.values, Items.values, item.value_yamlValue h.1, items.values_yamlValue h.2]

theorem Members.entries_yamlValue (members : Members) (h : members.hasPortableNumbers = true) :
    members.entries Number.yamlValue = members.entries Number.value := by
  cases members with
  | last label value behind => rw [Members.entries, Members.entries, value.value_yamlValue h]
  | more label value behind members =>
    rw [Members.hasPortableNumbers, Bool.and_eq_true] at h
    rw [Members.entries, Members.entries, value.value_yamlValue h.1,
      members.entries_yamlValue h.2]

end

theorem Document.fields_yamlValue (d : Document) (h : d.root.hasPortableNumbers = true) :
    d.fields Number.yamlValue = d.fields Number.value := by
  have hroot := d.root.value_yamlValue h
  rwa [root_value, root_value, Value.object.injEq] at hroot

end ChartQuery.Json

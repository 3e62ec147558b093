/-
# The content of nodes

The value that a node stands for, by its tag. A mapping may take pairs from others under a merge
key: its own pairs come last and therefore win. Of several things that are wrong in a document the
one nearest to the root counts, and of several at one depth the first (`Attempt.both`).

A knotted collection holds itself. Its value is unrolled: it is made again and again, with the value
made last in the places where it is named inside itself, further than any reader of the value looks
into it.
-/

import ChartQuery.Yaml.Node

namespace ChartQuery.Yaml

/-- The outcome of a part of a document: what it gives, or a failure with the depth of the
collection in which it was met. -/
abbrev Attempt (α : Type) := Except (Nat × Failure) α

namespace Attempt

variable {α β γ : Type}

/-- A failure at a depth. -/
def fail (depth : Nat) (failure : Failure) : Attempt α := .error (depth, failure)

/-- Both outcomes combined; of two failures that of lesser depth counts, at equal depth the first.
-/
def both (f : α → β → γ) (x : Attempt α) (y : Attempt β) : Attempt γ :=
  match x, y with
  | .ok a, .ok b => .ok (f a b)
  | .error e, .ok _ => .error e
  | .ok _, .error e => .error e
  | .error e, .error e' => .error (if e'.1 < e.1 then e' else e)

/-- All outcomes combined. -/
def all : List (Attempt α) → Attempt (List α)
  | [] => .ok []
  | x :: rest => both List.cons x (all rest)

end Attempt

namespace Node

/-- A complaint about a node, with the collection in which it stands if that matters. -/
def complaint (context : Option (Activity × Mark)) (problem : Problem) (place : Mark) : Failure :=
  .malformed ⟨context.map (·.1), context.map (·.2), problem, place⟩

/-- The node is tagged as the key that names the value of a mapping. -/
def isValueKey (n : Node) : Bool :=
  n.tag == .known .value

/-- What is known of a collection while its content is made: where it begins, the value made of it
last, whether that is the first value, and the text that it stands for as a scalar. -/
structure Enclosing where
  place : Mark
  value : Value
  isFirst : Bool
  text : Except Failure Text

/-- The knotted collections around a node, the nearest first. -/
abbrev Around := List Enclosing

namespace Around

/-- The collection around a node that begins at a place. -/
def find? (around : Around) (place : Mark) : Option Enclosing :=
  List.find? (·.place == place) around

/-- One of the collections is made for the first time. -/
def isFirst (around : Around) : Bool :=
  around.any (·.isFirst)

/-- The value of a collection, marked if it holds itself or cannot be told yet. -/
def marked (around : Around) (start : Mark) (v : Value) : Value :=
  if !around.isEmpty && (isFirst around || v.isMarked start.index) then .cyclic start.index v
  else v

end Around

mutual

/-- The text of a scalar, or of the scalar that a mapping holds under the key for its value. -/
def scalarText (around : Around) : Node → Except Failure Text
  | .scalar _ text _ => .ok text
  | .sequence _ _ start _ => .error (complaint none (.expectedScalar "sequence") start)
  | .mapping _ entries start _ =>
    match valueText? around entries with
    | some found => found
    | none => .error (complaint none (.expectedScalar "mapping") start)
  | .enclosing shell =>
    match Around.find? around shell.start with
    | some e => e.text
    | none => .error (complaint none (.expectedScalar shell.form) shell.start)
termination_by structural n => n

/-- The text under the first key for a value. -/
def valueText? (around : Around) : List (Node × Node) → Option (Except Failure Text)
  | [] => none
  | (key, value) :: rest =>
    if key.isValueKey then some (scalarText around value) else valueText? around rest
termination_by structural entries => entries

end

/-- The text of a node of a type of scalars. A mapping that is its own text has none. -/
def ownText (around : Around) (n : Node) : Except Failure Text :=
  n.scalarText (⟨n.start, .null, false, .error (.unreadable .endlessText)⟩ :: around)

/-- How often a knotted collection is unrolled: deeper than any description of a chart goes. -/
def unrollings : Nat := 16

/-- The value of a knotted collection, made a number of times beginning with a first value; `body`
makes its content. -/
def unrolled (n : Node) (around : Around) (body : Around → Attempt Value) :
    Nat → Bool → Value → Attempt Value
  | 0, _, v => .ok v
  | count + 1, isFirst, v =>
    let inside := ⟨n.start, v, isFirst, ownText around n⟩ :: around
    match body inside with
    | .error e => .error e
    | .ok next => unrolled n around body count false (Around.marked inside n.start next)

/-- The value of a collection whose content is made by `body`; `empty` is its value without any. -/
def tied (n : Node) (empty : Value) (around : Around) (body : Around → Attempt Value) :
    Attempt Value :=
  if n.isKnotted then
    unrolled n around body unrollings true (.cyclic n.start.index empty)
  else (body around).map (Around.marked around n.start)

/-- The value of a text under a type of scalars. -/
def scalarValue (type : NodeType) (text : Text) (start : Mark) : Except Failure Value :=
  let known := fun (r : Except ScalarFault Value) =>
    match r with
    | .ok v => .ok v
    | .error fault => .error (Failure.unreadable fault)
  match type with
  | .null => .ok .null
  | .bool => known (Scalar.bool text)
  | .int => known (Scalar.int text)
  | .float => known (Scalar.float text)
  | .timestamp => known (Scalar.timestamp text)
  | .binary =>
    match Scalar.binary text with
    | .ok v => .ok v
    | .error problem => .error (complaint none problem start)
  | .text => .ok (.text text)
  | other => .error (complaint none (.unknownTag other.tag) start)

/-- The value of a node whose type is one of scalars. -/
def scalarAttempt (depth : Nat) (around : Around) (type : NodeType) (n : Node) : Attempt Value :=
  match ownText around n with
  | .error e => .fail depth e
  | .ok text =>
    match scalarValue type text n.start with
    | .ok v => .ok v
    | .error e => .fail depth e

/-- A key with its value. Collections are no keys. -/
def entry (depth : Nat) (owner place : Mark) (key value : Attempt Value) :
    Attempt (Value × Value) :=
  let checked : Attempt Value :=
    match key with
    | .ok k =>
      if k.isKey then .ok k
      else .fail depth (complaint (some (.mapping, owner)) .badKey place)
    | .error e => .error e
  Attempt.both Prod.mk checked value

/-- The pairs of a mapping: those taken from others, and its own. -/
structure Pairs where
  merged : List (Attempt (Value × Value))
  own : List (Attempt (Value × Value))

/-- All pairs in the order in which they count. -/
def Pairs.all (p : Pairs) : List (Attempt (Value × Value)) :=
  p.merged ++ p.own

/-- The pairs of an object, the last of equal keys winning at the place of the first. -/
def object (depth : Nat) (pairs : Except Failure Pairs) : Attempt Fields :=
  match pairs with
  | .error e => .fail depth e
  | .ok p => (Attempt.all p.all).map Value.ofEntries

/-- Pairs in front of others. -/
def Pairs.withMerged (more : List (Attempt (Value × Value))) (p : Pairs) : Pairs :=
  ⟨more ++ p.merged, p.own⟩

/-- The value of a collection around a node, as far as it is known. -/
def enclosingValue (around : Around) (shell : Node) : Value :=
  match Around.find? around shell.start with
  | some e => e.value
  | none => .list []

/-- The pairs of a value, if it is a mapping. -/
def mergeable? (v : Value) : Option Fields :=
  match v.unmarked with
  | .object fields => some fields
  | .set items => some (items.map fun item => (item, .null))
  | _ => none

/-- The form of a node with a value, as far as reports tell it. -/
def formOf (v : Value) : String :=
  match v.unmarked with
  | .list _ => "sequence"
  | .object _ => "mapping"
  | .set _ => "mapping"
  | _ => "scalar"

/-- The pairs of the values of an enclosing sequence under a merge key. -/
def enclosingItems (owner start : Mark) :
    List Value → Except Failure (List (Attempt (Value × Value)))
  | [] => .ok []
  | v :: rest =>
    match mergeable? v with
    | some fields => (enclosingItems owner start rest).map (· ++ fields.map .ok)
    | none => .error (complaint (some (.mapping, owner)) (.unmergeableItem (formOf v)) start)

/-- The pairs of a mapping under a merge key whose own pairs are made by `own`: those of its value,
if it holds itself. -/
def splicedPairs (depth : Nat) (around : Around) (n : Node)
    (own : Around → Except Failure Pairs) :
    Except Failure (List (Attempt (Value × Value))) :=
  if n.isKnotted then
    let made := tied n (.object []) around fun inside =>
      (object depth (own inside)).map .object
    match made with
    | .ok v => .ok (v.fields.map .ok)
    | .error e => .ok [.error e]
  else (own around).map Pairs.all

/-- The pairs of an enclosing collection under a merge key. -/
def enclosingPairs (around : Around) (owner : Mark) (shell : Node) :
    Except Failure (List (Attempt (Value × Value))) :=
  let v := enclosingValue around shell
  match mergeable? v with
  | some fields => .ok (fields.map .ok)
  | none => enclosingItems owner shell.start (v.items?.getD [])

/-- The value of an enclosing collection that should hold a single pair. -/
def enclosingPair (depth : Nat) (activity : Activity) (owner : Mark) (around : Around)
    (shell : Node) : Attempt Value :=
  let v := enclosingValue around shell
  match mergeable? v with
  | some [(key, value)] => .ok (.list [key, value])
  | some fields =>
    if Around.isFirst around then .ok (.list [])
    else .fail depth
      (complaint (some (activity, owner)) (.pairCount fields.length) shell.start)
  | none =>
    .fail depth (complaint (some (activity, owner)) (.expectedSinglePair "sequence") shell.start)

mutual

/-- The value of a node in a collection of the given depth. -/
def attempt (depth : Nat) (around : Around) : Node → Attempt Value
  | .scalar (.foreign tag) _ start => .fail depth (complaint none (.unknownTag tag) start)
  | .sequence (.foreign tag) _ start _ => .fail depth (complaint none (.unknownTag tag) start)
  | .mapping (.foreign tag) _ start _ => .fail depth (complaint none (.unknownTag tag) start)
  | .enclosing shell => .ok (enclosingValue around shell)
  | .sequence (.known type) items start knotted =>
    let collected := tied (.sequence (.known type) items start knotted) (.list []) around
    match type with
    | .sequence =>
      collected fun inside => (Attempt.all (attempts (depth + 1) inside items)).map .list
    | .orderedMap =>
      collected fun inside =>
        (Attempt.all (singlePairs (depth + 1) inside .orderedMap start items)).map .list
    | .pairs =>
      collected fun inside =>
        (Attempt.all (singlePairs (depth + 1) inside .pairs start items)).map .list
    | .mapping => .fail (depth + 1) (complaint none (.expectedMapping "sequence") start)
    | .set => .fail (depth + 1) (complaint none (.expectedMapping "sequence") start)
    | .merge => .fail depth (complaint none (.unknownTag type.tag) start)
    | .value => .fail depth (complaint none (.unknownTag type.tag) start)
    | other => scalarAttempt depth around other (.sequence (.known type) items start knotted)
  | .mapping (.known type) entries start knotted =>
    let collected := tied (.mapping (.known type) entries start knotted)
    match type with
    | .mapping =>
      collected (.object []) around fun inside =>
        (object (depth + 1) (pairs (depth + 1) inside start entries)).map .object
    | .set =>
      collected (.set []) around fun inside =>
        (object (depth + 1) (pairs (depth + 1) inside start entries)).map fun fields =>
          .set (fields.map (·.1))
    | .sequence => .fail (depth + 1) (complaint none (.expectedSequence "mapping") start)
    | .orderedMap =>
      .fail (depth + 1) (complaint (some (.orderedMap, start)) (.unorderedMap "mapping") start)
    | .pairs => .fail (depth + 1) (complaint (some (.pairs, start)) (.unorderedMap "mapping") start)
    | .merge => .fail depth (complaint none (.unknownTag type.tag) start)
    | .value => .fail depth (complaint none (.unknownTag type.tag) start)
    | other => scalarAttempt depth around other (.mapping (.known type) entries start knotted)
  | .scalar (.known type) text start =>
    match type with
    | .sequence => .fail (depth + 1) (complaint none (.expectedSequence "scalar") start)
    | .mapping => .fail (depth + 1) (complaint none (.expectedMapping "scalar") start)
    | .set => .fail (depth + 1) (complaint none (.expectedMapping "scalar") start)
    | .orderedMap =>
      .fail (depth + 1) (complaint (some (.orderedMap, start)) (.unorderedMap "scalar") start)
    | .pairs => .fail (depth + 1) (complaint (some (.pairs, start)) (.unorderedMap "scalar") start)
    | other => scalarAttempt depth around other (.scalar (.known type) text start)
termination_by structural n => n

/-- The values of several nodes. -/
def attempts (depth : Nat) (around : Around) : List Node → List (Attempt Value)
  | [] => []
  | n :: rest => attempt depth around n :: attempts depth around rest
termination_by structural items => items

/-- The pairs of a mapping, of which the `owner` is the place. -/
def pairs (depth : Nat) (around : Around) (owner : Mark) :
    List (Node × Node) → Except Failure Pairs
  | [] => .ok ⟨[], []⟩
  | (key, value) :: rest =>
    if key.tag = .known .merge then
      match mergedPairs depth around owner value with
      | .error e => .error e
      | .ok merged => (pairs depth around owner rest).map (·.withMerged merged)
    else
      let keyValue :=
        if key.isValueKey then scalarAttempt depth around .text key else attempt depth around key
      let one := entry depth owner key.start keyValue (attempt depth around value)
      (pairs depth around owner rest).map fun p => { p with own := one :: p.own }
termination_by structural entries => entries

/-- The pairs that a node under a merge key holds. -/
def mergedPairs (depth : Nat) (around : Around) (owner : Mark) :
    Node → Except Failure (List (Attempt (Value × Value)))
  | .mapping tag entries start knotted =>
    splicedPairs depth around (.mapping tag entries start knotted) fun inside =>
      pairs depth inside owner entries
  | .sequence tag items start knotted =>
    if knotted then
      let made := tied (.sequence tag items start knotted) (.list []) around fun inside =>
        (Attempt.all (attempts depth inside items)).map .list
      match made with
      | .ok v => enclosingItems owner start (v.items?.getD [])
      | .error e => .ok [.error e]
    else mergedItems depth around owner items
  | .scalar _ _ start => .error (complaint (some (.mapping, owner)) (.unmergeable "scalar") start)
  | .enclosing shell => enclosingPairs around owner shell
termination_by structural n => n

/-- The pairs of several mappings under a merge key; those of the last one come first. -/
def mergedItems (depth : Nat) (around : Around) (owner : Mark) :
    List Node → Except Failure (List (Attempt (Value × Value)))
  | [] => .ok []
  | .mapping tag entries start knotted :: rest =>
    let own := splicedPairs depth around (.mapping tag entries start knotted) fun inside =>
      pairs depth inside owner entries
    match own with
    | .error e => .error e
    | .ok spliced => (mergedItems depth around owner rest).map (· ++ spliced)
  | .sequence _ _ start _ :: _ =>
    .error (complaint (some (.mapping, owner)) (.unmergeableItem "sequence") start)
  | .scalar _ _ start :: _ =>
    .error (complaint (some (.mapping, owner)) (.unmergeableItem "scalar") start)
  | .enclosing shell :: rest =>
    match mergeable? (enclosingValue around shell) with
    | some fields => (mergedItems depth around owner rest).map (· ++ fields.map .ok)
    | none =>
      .error (complaint (some (.mapping, owner)) (.unmergeableItem "sequence") shell.start)
termination_by structural items => items

/-- The values of mappings that hold one pair each. -/
def singlePairs (depth : Nat) (around : Around) (activity : Activity) (owner : Mark) :
    List Node → List (Attempt Value)
  | [] => []
  | .mapping _ [] start _ :: rest =>
    .fail depth (complaint (some (activity, owner)) (.pairCount 0) start) ::
      singlePairs depth around activity owner rest
  | .mapping tag [(key, value)] start knotted :: rest =>
    let made := fun inside =>
      Attempt.both (fun k v => Value.object [(k, v)]) (attempt depth inside key)
        (attempt depth inside value)
    let one :=
      if knotted then tied (.mapping tag [(key, value)] start knotted) (.object []) around made
      else made around
    (one.map fun v => .list (v.fields.flatMap fun (k, held) => [k, held])) ::
      singlePairs depth around activity owner rest
  | .mapping _ (_ :: _ :: more) start _ :: rest =>
    .fail depth
        (complaint (some (activity, owner)) (.pairCount (more.length + 2)) start) ::
      singlePairs depth around activity owner rest
  | .sequence _ _ start _ :: rest =>
    .fail depth (complaint (some (activity, owner)) (.expectedSinglePair "sequence") start) ::
      singlePairs depth around activity owner rest
  | .scalar _ _ start :: rest =>
    .fail depth (complaint (some (activity, owner)) (.expectedSinglePair "scalar") start) ::
      singlePairs depth around activity owner rest
  | .enclosing shell :: rest =>
    enclosingPair depth activity owner around shell :: singlePairs depth around activity owner rest
termination_by structural items => items

end

/-- The value of a whole document. -/
def content (n : Node) : Except Failure Value :=
  match n.attempt 0 [] with
  | .ok v => .ok v
  | .error (_, e) => .error e

end Node

end ChartQuery.Yaml

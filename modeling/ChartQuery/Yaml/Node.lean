/-
# Nodes

The tree that the tokens of a document form: scalars with their text, sequences, and mappings as
lists of pairs. Every node has a tag. An alias stands for a copy of the node that was named before;
inside the collection that is named it stands for that collection (`Node.enclosing`), which then
holds itself: it is knotted.

The reader recurses with a bound that falls at every step. Each step but one takes a token, so a
bound beyond twice the number of tokens is never reached.
-/

import ChartQuery.Yaml.Scalar
import ChartQuery.Yaml.TokenStream

namespace ChartQuery.Yaml

/-- A node with its tag and the place where it begins. -/
inductive Node where
  | scalar (tag : Tag) (text : Text) (start : Mark)
  | sequence (tag : Tag) (items : List Node) (start : Mark) (knotted : Bool)
  | mapping (tag : Tag) (entries : List (Node × Node)) (start : Mark) (knotted : Bool)
  /-- A collection around the node, given without its content. -/
  | enclosing (shell : Node)
  deriving Repr

namespace Node

/-- The tag of a node. -/
def tag : Node → Tag
  | .scalar tag _ _ => tag
  | .sequence tag _ _ _ => tag
  | .mapping tag _ _ _ => tag
  | .enclosing shell => shell.tag

/-- The place where a node begins. -/
def start : Node → Mark
  | .scalar _ _ start => start
  | .sequence _ _ start _ => start
  | .mapping _ _ start _ => start
  | .enclosing shell => shell.start

/-- The node is a collection that holds itself. -/
def isKnotted : Node → Bool
  | .sequence _ _ _ knotted => knotted
  | .mapping _ _ _ knotted => knotted
  | _ => false

/-- What the form of a node is called in reports. -/
def form : Node → String
  | .scalar _ _ _ => "scalar"
  | .sequence _ _ _ _ => "sequence"
  | .mapping _ _ _ _ => "mapping"
  | .enclosing shell => shell.form

mutual

/-- The collection that begins at a place is named inside the node. -/
def mentions (place : Mark) : Node → Bool
  | .scalar _ _ _ => false
  | .sequence _ items _ _ => areMentioning place items
  | .mapping _ entries _ _ => entriesMention place entries
  | .enclosing shell => shell.start == place
termination_by structural n => n

/-- The collection is named inside one of the nodes. -/
def areMentioning (place : Mark) : List Node → Bool
  | [] => false
  | n :: rest => mentions place n || areMentioning place rest
termination_by structural items => items

/-- The collection is named inside one of the pairs. -/
def entriesMention (place : Mark) : List (Node × Node) → Bool
  | [] => false
  | (key, value) :: rest =>
    mentions place key || mentions place value || entriesMention place rest
termination_by structural entries => entries

end

mutual

/-- The node with a collection in full where it is named by what is around. Whatever holds it then
holds itself. -/
def closed (place : Mark) (full : Node) : Node → Node
  | .scalar tag text start => .scalar tag text start
  | .sequence tag items start knotted =>
    .sequence tag (closedAll place full items) start (knotted || areMentioning place items)
  | .mapping tag entries start knotted =>
    .mapping tag (closedEntries place full entries) start
      (knotted || entriesMention place entries)
  | .enclosing shell => if shell.start == place then full else .enclosing shell
termination_by structural n => n

/-- The nodes with a collection in full. -/
def closedAll (place : Mark) (full : Node) : List Node → List Node
  | [] => []
  | n :: rest => closed place full n :: closedAll place full rest
termination_by structural items => items

/-- The pairs with a collection in full. -/
def closedEntries (place : Mark) (full : Node) : List (Node × Node) → List (Node × Node)
  | [] => []
  | (key, value) :: rest =>
    (closed place full key, closed place full value) :: closedEntries place full rest
termination_by structural entries => entries

end

/-- The node of nothing at a place. -/
def empty (place : Mark) : Node :=
  .scalar (.known (NodeType.ofPlain "")) "" place

end Node

/-- The state of reading nodes: the tokens that are left with the failure behind them, what the
handles of tags stand for, and the named nodes. -/
structure Assembly where
  tokens : List Token
  failure : Option Failure
  handles : List (String × String)
  anchors : List (String × Node)

/-- A computation that takes tokens. -/
abbrev Assemble (α : Type) := StateT Assembly (Except Failure) α

/-- What stands before a node: its name, its tag as it is written, and the place where it begins. -/
structure Properties where
  anchor : Option String
  tag : Option String
  start : Mark

namespace Assemble

/-- The next token. -/
def peek : Assemble Token := do
  match (← get).tokens with
  | token :: _ => return token
  | [] =>
    match (← get).failure with
    | some failure => throw failure
    | none => return ⟨.streamEnd, .start, .start⟩

/-- Take the next token. -/
def next : Assemble Token := do
  let token ← peek
  modify fun s => { s with tokens := s.tokens.drop 1 }
  return token

/-- The next token is one of a kind that a test accepts. -/
def sees (accepts : Token.Kind → Bool) : Assemble Bool := do
  return accepts (← peek).kind

/-- Fail at a place. -/
def refuse {α : Type} (context : Option (Activity × Mark)) (problem : Problem) (place : Mark) :
    Assemble α :=
  throw (.malformed ⟨context.map (·.1), context.map (·.2), problem, place⟩)

/-- The handles that every document knows. -/
def standardHandles : List (String × String) :=
  [("!", "!"), ("!!", coreTagHead)]

/-- The handle or version that a directive adds; a document states each only once. -/
def addDirective (token : Token) (d : Directive) (version : Bool)
    (handles : List (String × String)) : Assemble (Bool × List (String × String)) :=
  match d with
  | .version major _ =>
    if version then refuse none .secondVersion token.start
    else if major ≠ 1 then refuse none .foreignVersion token.start
    else return (true, handles)
  | .handle name lead =>
    if handles.any (·.1 == name) then refuse none (.secondHandle name) token.start
    else return (version, handles ++ [(name, lead)])
  | .other _ => return (version, handles)

/-- The handles that the directives in front of a document state. The bound is at least the number
of tokens left. -/
def takeDirectives (version : Bool) (handles : List (String × String)) :
    Nat → Assemble (List (String × String))
  | 0 => return handles
  | bound + 1 => do
    let token ← peek
    match token.kind with
    | .directive d =>
      let _ ← next
      let (version, handles) ← addDirective token d version handles
      takeDirectives version handles bound
    | _ => return handles

/-- What stands before a node, in either order. -/
def takeProperties : Assemble (Option String × Option (Option String × String) × Option Mark ×
    Option Mark) := do
  let first ← peek
  match first.kind with
  | .anchor name =>
    let _ ← next
    let second ← peek
    match second.kind with
    | .tag handle suffix =>
      let _ ← next
      return (some name, some (handle, suffix), some first.start, some second.start)
    | _ => return (some name, none, some first.start, none)
  | .tag handle suffix =>
    let _ ← next
    let second ← peek
    match second.kind with
    | .anchor name =>
      let _ ← next
      return (some name, some (handle, suffix), some first.start, some first.start)
    | _ => return (none, some (handle, suffix), some first.start, some first.start)
  | _ => return (none, none, none, none)

/-- The properties of a node with its tag spelled out. -/
def properties : Assemble Properties := do
  let (anchor, tag, start, tagStart) ← takeProperties
  let place := start.getD (← peek).start
  match tag with
  | none => return ⟨anchor, none, place⟩
  | some (none, suffix) => return ⟨anchor, some suffix, place⟩
  | some (some handle, suffix) =>
    match (← get).handles.find? (·.1 == handle) with
    | some (_, lead) => return ⟨anchor, some (lead ++ suffix), place⟩
    | none => refuse (some (.node, place)) (.unknownHandle handle) (tagStart.getD place)

/-- The tag of a scalar. Without a tag, or under an exclamation mark alone, its form decides, unless
it is quoted and has no tag. -/
def scalarTag (tag : Option String) (text : Text) (plain : Bool) : Tag :=
  match tag with
  | none => .known (if plain then NodeType.ofText text else .text)
  | some "!" => .known (NodeType.ofText text)
  | some tag => Tag.ofText tag

/-- The tag of a collection. -/
def collectionTag (tag : Option String) (standard : NodeType) : Tag :=
  match tag with
  | none => .known standard
  | some "!" => .known standard
  | some tag => Tag.ofText tag

/-- Name a node. -/
def bindAnchor (anchor : Option String) (node : Node) : Assemble Unit :=
  match anchor with
  | none => return ()
  | some name =>
    modify fun s => { s with anchors := (name, node) :: s.anchors.filter (·.1 != name) }

/-- Nodes that were named inside a collection that holds itself get the whole of it, because they
may be used outside. -/
def closeAnchors (knotted : Bool) (node : Node) : Assemble Unit :=
  if knotted then
    modify fun s => { s with anchors := s.anchors.map fun (name, n) =>
      (name, Node.closed node.start node n) }
  else return ()

/-- A name may be given only once. -/
def checkAnchor (p : Properties) : Assemble Unit := do
  match p.anchor with
  | none => return ()
  | some name =>
    match (← get).anchors.find? (·.1 == name) with
    | some (_, node) => refuse (some (.firstAnchor name, node.start)) .secondAnchor p.start
    | none => return ()

/-- A scalar with its properties. -/
def finishScalar (p : Properties) (text : Text) (plain : Bool) : Assemble Node := do
  checkAnchor p
  let node := Node.scalar (scalarTag p.tag text plain) text p.start
  bindAnchor p.anchor node
  return node

/-- A sequence with its properties. Until all items are read its name stands for what is around
them. -/
def sequence (p : Properties) (items : Assemble (List Node)) : Assemble Node := do
  checkAnchor p
  let tag := collectionTag p.tag .sequence
  bindAnchor p.anchor (.enclosing (.sequence tag [] p.start false))
  let held ← items
  let knotted := p.anchor.isSome && Node.areMentioning p.start held
  let node := Node.sequence tag held p.start knotted
  closeAnchors knotted node
  bindAnchor p.anchor node
  return node

/-- A mapping with its properties. Until all pairs are read its name stands for what is around
them. -/
def mapping (p : Properties) (entries : Assemble (List (Node × Node))) : Assemble Node := do
  checkAnchor p
  let tag := collectionTag p.tag .mapping
  bindAnchor p.anchor (.enclosing (.mapping tag [] p.start false))
  let held ← entries
  let knotted := p.anchor.isSome && Node.entriesMention p.start held
  let node := Node.mapping tag held p.start knotted
  closeAnchors knotted node
  bindAnchor p.anchor node
  return node

/-- A node without content is null if it has a name or a tag; otherwise a node was expected here. -/
def emptyOrRefuse (inBlock : Bool) (p : Properties) (token : Token) : Assemble Node :=
  if p.anchor.isSome || p.tag.isSome then finishScalar p "" true
  else
    refuse (some (if inBlock then .blockNode else .flowNode, p.start))
      (.expectedContent token.kind.name) token.start

/-- The node that an alias stands for. -/
def resolveAlias (token : Token) (name : String) : Assemble Node := do
  match (← get).anchors.find? (·.1 == name) with
  | some (_, node) => return node
  | none => refuse none (.unknownAlias name) token.start

/-- The next token of a mapping ends the part that is read, where `closing` ends the mapping. -/
def endsPart (closing : Token.Kind) (kind : Token.Kind) : Bool :=
  kind == .key || kind == .value || kind == closing

/-- The next token of a mapping in brackets ends the part that is read. -/
def endsFlowPart (closing : Token.Kind) (kind : Token.Kind) : Bool :=
  kind == .value || kind == .flowEntry || kind == closing

mutual

/-- A node. Block collections are allowed inside blocks only, and a sequence without indentation of
its own only as a part of a mapping. -/
def node (inBlock indentless : Bool) : Nat → Assemble Node
  | 0 => do return Node.empty (← peek).start
  | bound + 1 => do
    let first ← peek
    match first.kind with
    | .aliasName name =>
      let _ ← next
      resolveAlias first name
    | _ =>
      let p ← properties
      let token ← peek
      match token.kind with
      | .blockEntry =>
        if indentless then
          sequence p (indentlessItems bound)
        else emptyOrRefuse inBlock p token
      | .scalar text plain =>
        let _ ← next
        finishScalar p text plain
      | .flowSequenceStart => sequence p (do let _ ← next; flowItems token.start true bound)
      | .flowMappingStart => mapping p (do let _ ← next; flowEntries token.start true bound)
      | .blockSequenceStart =>
        if inBlock then sequence p (do let _ ← next; blockItems token.start bound)
        else emptyOrRefuse inBlock p token
      | .blockMappingStart =>
        if inBlock then mapping p (do let _ ← next; blockEntries token.start bound)
        else emptyOrRefuse inBlock p token
      | _ => emptyOrRefuse inBlock p token
termination_by structural bound => bound

/-- The entries of a sequence with dashes, up to its end. -/
def blockItems (began : Mark) : Nat → Assemble (List Node)
  | 0 => return []
  | bound + 1 => do
    let token ← next
    match token.kind with
    | .blockEntry =>
      let item ←
        if ← sees fun kind => kind == .blockEntry || kind == .blockEnd then
          pure (Node.empty token.stop)
        else node true false bound
      return item :: (← blockItems began bound)
    | .blockEnd => return []
    | kind => refuse (some (.blockCollection, began)) (.expectedBlockEnd kind.name) token.start
termination_by structural bound => bound

/-- The entries of a sequence with dashes that has no indentation of its own. -/
def indentlessItems : Nat → Assemble (List Node)
  | 0 => return []
  | bound + 1 => do
    let token ← peek
    if token.kind = .blockEntry then
      let _ ← next
      let item ←
        if ← sees fun kind => kind == .blockEntry || endsPart .blockEnd kind then
          pure (Node.empty token.stop)
        else node true false bound
      return item :: (← indentlessItems bound)
    else return []
termination_by structural bound => bound

/-- The pairs of a mapping in a block, up to its end. -/
def blockEntries (began : Mark) : Nat → Assemble (List (Node × Node))
  | 0 => return []
  | bound + 1 => do
    let token ← next
    match token.kind with
    | .key =>
      let key ←
        if ← sees (endsPart .blockEnd) then pure (Node.empty token.stop)
        else node true true bound
      let colon ← peek
      let value ←
        if colon.kind = .value then do
          let _ ← next
          if ← sees (endsPart .blockEnd) then pure (Node.empty colon.stop)
          else node true true bound
        else pure (Node.empty colon.start)
      return (key, value) :: (← blockEntries began bound)
    | .blockEnd => return []
    | kind => refuse (some (.blockMapping, began)) (.expectedBlockEnd kind.name) token.start
termination_by structural bound => bound

/-- The value behind a key inside brackets. -/
def flowValue (closing : Token.Kind) : Nat → Assemble Node
  | 0 => do return Node.empty (← peek).start
  | bound + 1 => do
    let colon ← peek
    if colon.kind = .value then
      let _ ← next
      if ← sees fun kind => kind == .flowEntry || kind == closing then
        return Node.empty colon.stop
      else node false false bound
    else return Node.empty colon.start
termination_by structural bound => bound

/-- The items of a sequence in brackets, up to its end. A pair among them is a mapping of its own.
-/
def flowItems (began : Mark) (isFirst : Bool) : Nat → Assemble (List Node)
  | 0 => return []
  | bound + 1 => do
    let token ← peek
    if token.kind = .flowSequenceEnd then
      let _ ← next
      return []
    if !isFirst then
      if token.kind = .flowEntry then
        let _ ← next
      else refuse (some (.flowSequence, began)) (.expectedInSequence token.kind.name) token.start
    let opening ← peek
    match opening.kind with
    | .key =>
      let _ ← next
      let key ←
        if ← sees (endsFlowPart .flowSequenceEnd) then pure (Node.empty opening.stop)
        else node false false bound
      let value ← flowValue .flowSequenceEnd bound
      let pair := Node.mapping (.known .mapping) [(key, value)] opening.start false
      return pair :: (← flowItems began false bound)
    | .flowSequenceEnd =>
      let _ ← next
      return []
    | _ =>
      let item ← node false false bound
      return item :: (← flowItems began false bound)
termination_by structural bound => bound

/-- The pairs of a mapping in brackets, up to its end. -/
def flowEntries (began : Mark) (isFirst : Bool) : Nat → Assemble (List (Node × Node))
  | 0 => return []
  | bound + 1 => do
    let token ← peek
    if token.kind = .flowMappingEnd then
      let _ ← next
      return []
    if !isFirst then
      if token.kind = .flowEntry then
        let _ ← next
      else refuse (some (.flowMapping, began)) (.expectedInMapping token.kind.name) token.start
    let opening ← peek
    match opening.kind with
    | .key =>
      let _ ← next
      let key ←
        if ← sees (endsFlowPart .flowMappingEnd) then pure (Node.empty opening.stop)
        else node false false bound
      let value ← flowValue .flowMappingEnd bound
      return (key, value) :: (← flowEntries began false bound)
    | .flowMappingEnd =>
      let _ ← next
      return []
    | _ =>
      let key ← node false false bound
      let value := Node.empty (← peek).start
      return (key, value) :: (← flowEntries began false bound)
termination_by structural bound => bound

end

/-- A bound that no node of the tokens left reaches. -/
def bound : Assemble Nat := do
  return 4 * (← get).tokens.length + 16

/-- The tokens left begin with the end of a document, a further one, or the end of everything. -/
def atDocumentEdge (kind : Token.Kind) : Bool :=
  match kind with
  | .directive _ => true
  | .documentStart => true
  | .documentEnd => true
  | .streamEnd => true
  | _ => false

/-- Pass over signs that end documents. The bound is at least the number of tokens left. -/
def skipDocumentEnds : Nat → Assemble Unit
  | 0 => return ()
  | bound + 1 => do
    if ← sees (· == .documentEnd) then
      let _ ← next
      skipDocumentEnds bound

/-- The sign that opens a document, behind its directives, whose handles are kept; or nothing at the
end of everything. The place is that of the first directive or of the sign. -/
def openDocument : Assemble (Option Mark) := do
  skipDocumentEnds (← bound)
  let first ← peek
  if first.kind = .streamEnd then return none
  let stated ← takeDirectives false [] (← bound)
  let opening ← peek
  if opening.kind ≠ .documentStart then
    refuse none (.expectedDocument opening.kind.name) opening.start
  let _ ← next
  let missing := standardHandles.filter fun (name, _) => !stated.any (·.1 == name)
  modify fun s => { s with handles := stated ++ missing }
  return some first.start

/-- The root of a document that was opened by a sign. -/
def openedRoot : Assemble Node := do
  let token ← peek
  if atDocumentEdge token.kind then return Node.empty token.start
  else node true false (← bound)

/-- The root of the first document, if there is one. Without directives the sign that opens a
document may be missing. -/
def firstRoot : Assemble (Option Node) := do
  let token ← peek
  if atDocumentEdge token.kind && token.kind != .documentEnd then
    match ← openDocument with
    | some _ => return some (← openedRoot)
    | none => return none
  else return some (← node true false (← bound))

/-- The root of the only document, if there is one. -/
def onlyRoot : Assemble (Option Node) := do
  match ← firstRoot with
  | none => return none
  | some root =>
    match ← openDocument with
    | some second => refuse (some (.singleDocument, root.start)) .secondDocument second
    | none => return some root

end Assemble

/-- The root of the only document of a text, if there is one. -/
def Node.ofText? (text : List Char) : Except Failure (Option Node) :=
  let (tokens, failure) := Stream.tokens text
  match Assemble.onlyRoot.run ⟨tokens, failure, Assemble.standardHandles, []⟩ with
  | .ok (root, _) => .ok root
  | .error e => .error e

end ChartQuery.Yaml

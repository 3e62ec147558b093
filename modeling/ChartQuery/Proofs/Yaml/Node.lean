/-
# Nodes of a JSON text

The tokens of a JSON value form one node, which has the content that the value means, or none when a
whole number in it has too many digits (`exists_run_node`). Nodes differ from values in the places
that they carry, so the statement is about some node; what is known of it is its content at every
depth (`Node.Means`).
-/

import ChartQuery.Proofs.Yaml.Bracketed
import ChartQuery.Yaml.Content

namespace ChartQuery.Yaml

open Json (Tree Items Members stringOf)

/-! ## Content -/

namespace Attempt

variable {α β γ : Type} {short short' : Bool} {a : α} {b : β} {x : Attempt α} {y : Attempt β}

/-- Two parts together are refused when one of them is. -/
theorem Gives.both (hx : Gives short a x) (hy : Gives short' b y) (f : α → β → γ) :
    Gives (short && short') (f a b) (Attempt.both f x y) := by
  cases hx with
  | given hshort =>
    cases hy with
    | given hshort' => exact .given (by rw [hshort, hshort']; rfl)
    | refused hlong' depth digits => exact .refused (by rw [hlong', Bool.and_false]) depth digits
  | refused hlong depth digits =>
    have hlong : (short && short') = false := by rw [hlong, Bool.false_and]
    cases hy with
    | given => exact .refused hlong depth digits
    | refused _ depth' digits' =>
      by_cases hnearer : depth' < depth
      · simpa [Attempt.both, hnearer] using Gives.refused hlong depth' digits'
      · simpa [Attempt.both, hnearer] using Gives.refused hlong depth digits

theorem Gives.map (hx : Gives short a x) (f : α → β) : Gives short (f a) (x.map f) := by
  cases hx with
  | given hshort => exact .given hshort
  | refused hlong depth digits => exact .refused hlong depth digits

end Attempt

/-- The node has a content wherever it stands, unless a whole number in it has too many digits. -/
def Node.Means (short : Bool) (n : Node) (v : Value) : Prop :=
  ∀ depth, Attempt.Gives short v (n.attempt depth [])

/-- The nodes have their contents. -/
def Node.MeanAll (short : Bool) (ns : List Node) (vs : List Value) : Prop :=
  ∀ depth, Attempt.Gives short vs (Attempt.all (Node.attempts depth [] ns))

/-- The pairs of nodes are fields of an object, none of them taken from elsewhere. -/
def Node.MeanFields (short : Bool) (entries : List (Node × Node)) (fields : Fields) : Prop :=
  ∀ depth owner, ∃ own, Node.pairs depth [] owner entries = .ok ⟨[], own⟩ ∧
    Attempt.Gives short fields (Attempt.all own)

namespace Node

variable {n value : Node} {v : Value} {ns : List Node} {vs : List Value} {short short' : Bool}
variable {entries : List (Node × Node)} {fields : Fields}

theorem MeanAll.nil : MeanAll true [] [] := fun _ => .given rfl

theorem MeanAll.cons (hn : n.Means short v) (hns : MeanAll short' ns vs) :
    MeanAll (short && short') (n :: ns) (v :: vs) := by
  intro depth
  rw [attempts, Attempt.all]
  exact (hn depth).both (hns depth) List.cons

theorem MeanAll.singleton (hn : n.Means short v) : MeanAll short [n] [v] := by
  simpa using MeanAll.cons hn MeanAll.nil

/-- A collection has the value that is made of it, where nothing holds itself. -/
theorem gives_tied {empty : Value} {body : Around → Attempt Value} (hloose : n.isKnotted = false)
    (h : Attempt.Gives short v (body [])) : Attempt.Gives short v (tied n empty [] body) := by
  rw [tied, hloose, if_neg Bool.false_ne_true]
  exact h.map (Around.marked [] n.start)

theorem means_sequence (h : MeanAll short ns vs) (start : Mark) :
    (Node.sequence (.known .sequence) ns start false).Means short (.list vs) := by
  intro depth
  exact gives_tied rfl ((h (depth + 1)).map Value.list)

theorem MeanFields.nil : MeanFields true [] [] := fun _ _ => ⟨[], rfl, .given rfl⟩

/-- A key in quotation marks is a text, whatever it spells. -/
theorem MeanFields.cons (name : Text) (start : Mark) (hvalue : value.Means short v)
    (h : MeanFields short' entries fields) :
    MeanFields (short && short') ((.scalar (.known .text) name start, value) :: entries)
      ((.text name, v) :: fields) := by
  intro depth owner
  obtain ⟨own, hpairs, hown⟩ := h depth owner
  refine ⟨Attempt.both Prod.mk (.ok (.text name)) (value.attempt depth []) :: own, ?_, ?_⟩
  · simp [pairs, tag, isValueKey, attempt, scalarAttempt, ownText, scalarText, scalarValue, entry,
      Value.isKey, hpairs, Except.map]
  · have hentry := (Attempt.Gives.given (a := Value.text name) rfl).both (hvalue depth) Prod.mk
    rw [Bool.true_and] at hentry
    exact hentry.both hown List.cons

theorem MeanFields.singleton (name : Text) (start : Mark) (hvalue : value.Means short v) :
    MeanFields short [(.scalar (.known .text) name start, value)] [(.text name, v)] := by
  simpa using MeanFields.cons name start hvalue MeanFields.nil

theorem means_mapping (h : MeanFields short entries fields) (start : Mark) :
    (Node.mapping (.known .mapping) entries start false).Means short
      (.object (Value.ofEntries fields)) := by
  intro depth
  obtain ⟨own, hpairs, hown⟩ := h (depth + 1) start
  apply gives_tied rfl
  simpa only [object, hpairs, Pairs.all, List.nil_append] using
    (hown.map Value.ofEntries).map Value.object

end Node

/-! ## Taking tokens -/

namespace Assemble

variable {s : Assembly} {token : Token} {more : List Token}

theorem run_peek (h : s.tokens = token :: more) : peek.run s = .ok (token, s) := by
  simp [peek, h]
  rfl

theorem run_next (h : s.tokens = token :: more) :
    next.run s = .ok (token, { s with tokens := more }) := by
  simp [next, run_peek h, h]

theorem run_sees (h : s.tokens = token :: more) (accepts : Token.Kind → Bool) :
    (sees accepts).run s = .ok (accepts token.kind, s) := by
  simp [sees, run_peek h]

/-- The token begins a value of JSON: a scalar or a collection in brackets. -/
def isOpening : Token.Kind → Bool
  | .scalar _ _ => true
  | .flowSequenceStart => true
  | .flowMappingStart => true
  | _ => false

/-- In front of a value of JSON there is neither a name nor a tag. -/
theorem run_properties (h : s.tokens = token :: more) (hkind : isOpening token.kind = true) :
    properties.run s = .ok (⟨none, none, token.start⟩, s) := by
  have htake : takeProperties.run s = .ok ((none, none, none, none), s) := by
    simp only [takeProperties, StateT.run_bind, run_peek h, ok_bind]
    cases hk : token.kind <;> simp [hk, isOpening] at hkind ⊢ <;> rfl
  simp [properties, htake, run_peek h]

theorem run_node_scalar {text : Text} {plain : Bool} (h : s.tokens = token :: more)
    (hkind : token.kind = .scalar text plain) (inBlock indentless : Bool) (bound : Nat) :
    (node inBlock indentless (bound + 1)).run s =
      .ok (.scalar (.known (if plain then NodeType.ofText text else .text)) text token.start,
        { s with tokens := more }) := by
  simp [node, run_peek h, hkind, run_properties h (by rw [hkind]; rfl), run_next h, finishScalar,
    checkAnchor, bindAnchor, scalarTag]

theorem run_node_sequence {ns : List Node} {s' : Assembly} (h : s.tokens = token :: more)
    (hkind : token.kind = .flowSequenceStart) {inBlock indentless : Bool} {bound : Nat}
    (hitems : (flowItems token.start true bound).run { s with tokens := more } = .ok (ns, s')) :
    (node inBlock indentless (bound + 1)).run s =
      .ok (.sequence (.known .sequence) ns token.start false, s') := by
  simp [node, run_peek h, hkind, run_properties h (by rw [hkind]; rfl), run_next h, sequence,
    checkAnchor, bindAnchor, closeAnchors, collectionTag, hitems]

theorem run_node_mapping {entries : List (Node × Node)} {s' : Assembly}
    (h : s.tokens = token :: more) (hkind : token.kind = .flowMappingStart)
    {inBlock indentless : Bool} {bound : Nat}
    (hentries : (flowEntries token.start true bound).run { s with tokens := more } =
      .ok (entries, s')) :
    (node inBlock indentless (bound + 1)).run s =
      .ok (.mapping (.known .mapping) entries token.start false, s') := by
  simp [node, run_peek h, hkind, run_properties h (by rw [hkind]; rfl), run_next h, mapping,
    checkAnchor, bindAnchor, closeAnchors, collectionTag, hentries]

/-! ## Collections in brackets -/

variable {comma : Token} (began : Mark) (bound : Nat)

theorem run_flowItems_end (isFirst : Bool) (h : s.tokens = token :: more)
    (hkind : token.kind = .flowSequenceEnd) :
    (flowItems began isFirst (bound + 1)).run s = .ok ([], { s with tokens := more }) := by
  simp [flowItems, run_peek h, run_next h, hkind]

theorem run_flowItems_item (h : s.tokens = token :: more) (hkind : isOpening token.kind = true) :
    (flowItems began true (bound + 1)).run s =
      (do return (← node false false bound) :: (← flowItems began false bound)).run s := by
  cases hk : token.kind <;> simp [hk, isOpening] at hkind <;> simp [flowItems, run_peek h, hk]

/-- A comma leads to a further item, which is read like the first one. -/
theorem run_flowItems_comma (h : s.tokens = comma :: token :: more)
    (hcomma : comma.kind = .flowEntry) (hkind : isOpening token.kind = true) :
    (flowItems began false (bound + 1)).run s =
      (flowItems began true (bound + 1)).run { s with tokens := token :: more } := by
  have hpeek := run_peek (s := { s with tokens := token :: more }) rfl
  rw [run_flowItems_item began bound rfl hkind]
  cases hk : token.kind <;> simp [hk, isOpening] at hkind <;>
    simp [flowItems, run_peek h, run_next h, hcomma, hpeek, hk]

theorem run_flowEntries_end (isFirst : Bool) (h : s.tokens = token :: more)
    (hkind : token.kind = .flowMappingEnd) :
    (flowEntries began isFirst (bound + 1)).run s = .ok ([], { s with tokens := more }) := by
  simp [flowEntries, run_peek h, run_next h, hkind]

/-- A comma leads to a further field, which is read like the first one. -/
theorem run_flowEntries_comma (h : s.tokens = comma :: token :: more)
    (hcomma : comma.kind = .flowEntry) (hkind : token.kind = .key) :
    (flowEntries began false (bound + 1)).run s =
      (flowEntries began true (bound + 1)).run { s with tokens := token :: more } := by
  have hpeek := run_peek (s := { s with tokens := token :: more }) rfl
  simp [flowEntries, run_peek h, run_next h, hcomma, hpeek, hkind]

theorem run_flowValue {colon : Token} {closing : Token.Kind}
    (h : s.tokens = colon :: token :: more) (hcolon : colon.kind = .value)
    (hkind : isOpening token.kind = true) (hclosing : token.kind ≠ closing) :
    (flowValue closing (bound + 1)).run s =
      (node false false bound).run { s with tokens := token :: more } := by
  have hsees := run_sees (s := { s with tokens := token :: more }) rfl
    fun kind => kind == .flowEntry || kind == closing
  have hother : token.kind ≠ .flowEntry := by
    intro hentry
    rw [hentry] at hkind
    cases hkind
  simp [flowValue, run_peek h, run_next h, hcolon, hsees, hother, hclosing]

/-- A field: its key, which is a string, and its value behind the colon. -/
theorem run_flowEntries_entry {name : Text} {opening scalar colon : Token}
    (h : s.tokens = opening :: scalar :: colon :: token :: more) (hopening : opening.kind = .key)
    (hscalar : scalar.kind = .scalar name false) (hcolon : colon.kind = .value)
    (hkind : isOpening token.kind = true) :
    (flowEntries began true (bound + 3)).run s =
      (do
        let value ← node false false (bound + 1)
        return (Node.scalar (.known .text) name scalar.start, value) ::
          (← flowEntries began false (bound + 2))).run { s with tokens := token :: more } := by
  have hsees := run_sees (s := { s with tokens := scalar :: colon :: token :: more }) rfl
    (endsFlowPart .flowMappingEnd)
  have hkey := run_node_scalar (s := { s with tokens := scalar :: colon :: token :: more }) rfl
    hscalar false false (bound + 1)
  have hclosing : token.kind ≠ .flowMappingEnd := by
    intro hend
    rw [hend] at hkind
    cases hkind
  have hvalue := run_flowValue (s := { s with tokens := colon :: token :: more }) (bound + 1) rfl
    hcolon hkind hclosing
  rw [flowEntries]
  simp [run_peek h, run_next h, hopening, hsees, hscalar, endsFlowPart, hkey, hvalue]

end Assemble

/-! ## Values -/

theorem exists_kindsOf_eq_cons (t : Tree) :
    ∃ kind kinds, kindsOf t = kind :: kinds ∧ Assemble.isOpening kind = true := by
  cases t <;> exact ⟨_, _, rfl, rfl⟩

theorem exists_kindsOfItems_eq_cons (items : Items) :
    ∃ kind kinds, kindsOfItems items = kind :: kinds ∧ Assemble.isOpening kind = true := by
  cases items with
  | last before item behind => exact exists_kindsOf_eq_cons item
  | more before item behind items =>
    obtain ⟨kind, kinds, hkinds, hopening⟩ := exists_kindsOf_eq_cons item
    exact ⟨kind, _, by rw [kindsOfItems, hkinds]; rfl, hopening⟩

theorem exists_kindsOfMembers_eq_cons (members : Members) :
    ∃ kinds, kindsOfMembers members = .key :: kinds := by
  cases members <;> exact ⟨_, rfl⟩

open Assemble in
mutual

/-- The tokens of a value form a node with the content that the value means. -/
theorem exists_run_node (t : Tree) (ht : t.isReadable = true) (inBlock indentless : Bool)
    (bound : Nat) (hbound : 2 * t.size ≤ bound) {s : Assembly} {rest : List Token.Kind}
    (h : s.tokens.map Token.kind = kindsOf t ++ rest) :
    ∃ n tokens, (node inBlock indentless bound).run s = .ok (n, { s with tokens := tokens }) ∧
      tokens.map Token.kind = rest ∧ n.Means t.hasShortNumbers (t.value Json.Number.yamlValue) := by
  obtain ⟨bound, rfl⟩ : ∃ b, bound = b + 1 :=
    Nat.exists_eq_add_one_of_ne_zero (by cases t <;> simp only [Tree.size] at hbound <;> omega)
  cases t with
  | word w =>
    obtain ⟨token, more, htokens, hkind, hmore⟩ := List.map_eq_cons_iff.mp h
    exact ⟨_, more, run_node_scalar htokens hkind inBlock indentless bound, hmore,
      fun depth => attempt_word w depth token.start ▸ .given rfl⟩
  | number n =>
    obtain ⟨token, more, htokens, hkind, hmore⟩ := List.map_eq_cons_iff.mp h
    exact ⟨_, more, run_node_scalar htokens hkind inBlock indentless bound, hmore,
      fun depth => gives_number n depth token.start⟩
  | text pieces =>
    obtain ⟨token, more, htokens, hkind, hmore⟩ := List.map_eq_cons_iff.mp h
    exact ⟨_, more, run_node_scalar htokens hkind inBlock indentless bound, hmore,
      fun _ => .given rfl⟩
  | emptyList inside =>
    obtain ⟨token, more, htokens, hkind, hmore⟩ := List.map_eq_cons_iff.mp h
    obtain ⟨token', more', rfl, hkind', hmore'⟩ := List.map_eq_cons_iff.mp hmore
    obtain ⟨bound, rfl⟩ : ∃ b, bound = b + 1 :=
      Nat.exists_eq_add_one_of_ne_zero (by simp only [Tree.size] at hbound; omega)
    have hend := run_flowItems_end (s := { s with tokens := token' :: more' }) token.start bound
      true rfl hkind'
    exact ⟨_, more', run_node_sequence htokens hkind hend, hmore',
      Node.means_sequence .nil token.start⟩
  | list items =>
    simp only [kindsOf, List.cons_append, List.append_assoc, List.nil_append] at h
    obtain ⟨token, more, htokens, hkind, hmore⟩ := List.map_eq_cons_iff.mp h
    obtain ⟨ns, tokens, hrun, hrest, hns⟩ := exists_run_items items ht token.start
      bound (by simp only [Tree.size] at hbound; omega) (s := { s with tokens := more }) hmore
    exact ⟨_, tokens, run_node_sequence htokens hkind hrun, hrest,
      Node.means_sequence hns token.start⟩
  | emptyObject inside =>
    obtain ⟨token, more, htokens, hkind, hmore⟩ := List.map_eq_cons_iff.mp h
    obtain ⟨token', more', rfl, hkind', hmore'⟩ := List.map_eq_cons_iff.mp hmore
    obtain ⟨bound, rfl⟩ : ∃ b, bound = b + 1 :=
      Nat.exists_eq_add_one_of_ne_zero (by simp only [Tree.size] at hbound; omega)
    have hend := run_flowEntries_end (s := { s with tokens := token' :: more' }) token.start bound
      true rfl hkind'
    exact ⟨_, more', run_node_mapping htokens hkind hend, hmore',
      Node.means_mapping .nil token.start⟩
  | object members =>
    simp only [kindsOf, List.cons_append, List.append_assoc, List.nil_append] at h
    obtain ⟨token, more, htokens, hkind, hmore⟩ := List.map_eq_cons_iff.mp h
    obtain ⟨entries, tokens, hrun, hrest, hentries⟩ := exists_run_members members ht
      token.start bound (by simp only [Tree.size] at hbound; omega)
      (s := { s with tokens := more }) hmore
    exact ⟨_, tokens, run_node_mapping htokens hkind hrun, hrest,
      Node.means_mapping hentries token.start⟩

/-- The tokens of items form nodes with the contents that the items mean. -/
theorem exists_run_items (items : Items) (hitems : items.isReadable = true) (began : Mark)
    (bound : Nat) (hbound : 2 * items.size + 1 ≤ bound) {s : Assembly} {rest : List Token.Kind}
    (h : s.tokens.map Token.kind = kindsOfItems items ++ .flowSequenceEnd :: rest) :
    ∃ ns tokens, (flowItems began true bound).run s = .ok (ns, { s with tokens := tokens }) ∧
      tokens.map Token.kind = rest ∧
        Node.MeanAll items.hasShortNumbers ns (items.values Json.Number.yamlValue) := by
  obtain ⟨bound, rfl⟩ : ∃ b, bound = b + 2 :=
    Nat.exists_eq_add_of_le' (by cases items <;> simp only [Items.size] at hbound <;> omega)
  cases items with
  | last before item behind =>
    simp only [Items.size] at hbound
    simp only [Items.isReadable, Bool.and_eq_true] at hitems
    obtain ⟨kind, kinds, hkinds, hopening⟩ := exists_kindsOf_eq_cons item
    obtain ⟨n, tokens, hrun, hrest, hn⟩ := exists_run_node item hitems.1.2 false false
      (bound + 1) (by omega) h
    rw [kindsOfItems, hkinds] at h
    obtain ⟨token, more, htokens, hkind, -⟩ := List.map_eq_cons_iff.mp h
    obtain ⟨last, tokens, rfl, hlast, hrest⟩ := List.map_eq_cons_iff.mp hrest
    have hend := run_flowItems_end (s := { s with tokens := last :: tokens }) began bound false rfl
      hlast
    refine ⟨[n], tokens, ?_, hrest, .singleton hn⟩
    rw [run_flowItems_item began (bound + 1) htokens (hkind ▸ hopening)]
    simp [hrun, hend]
  | more before item behind items =>
    simp only [Items.size] at hbound
    simp only [Items.isReadable, Bool.and_eq_true] at hitems
    simp only [kindsOfItems, List.append_assoc, List.cons_append] at h
    obtain ⟨kind, kinds, hkinds, hopening⟩ := exists_kindsOf_eq_cons item
    obtain ⟨n, tokens, hrun, hrest, hn⟩ := exists_run_node item hitems.1.1.2 false false
      (bound + 1) (by omega) h
    rw [hkinds] at h
    obtain ⟨token, more, htokens, hkind, -⟩ := List.map_eq_cons_iff.mp h
    obtain ⟨comma, tokens, rfl, hcomma, hmore⟩ := List.map_eq_cons_iff.mp hrest
    obtain ⟨ns, left, hrun', hrest', hns⟩ := exists_run_items items hitems.2 began
      (bound + 1) (by omega) (s := { s with tokens := tokens }) hmore
    obtain ⟨kind', kinds', hkinds', hopening'⟩ := exists_kindsOfItems_eq_cons items
    rw [hkinds'] at hmore
    obtain ⟨token', more', rfl, hkind', -⟩ := List.map_eq_cons_iff.mp hmore
    have hcomma := run_flowItems_comma (s := { s with tokens := comma :: token' :: more' }) began
      bound rfl hcomma (hkind' ▸ hopening')
    refine ⟨n :: ns, left, ?_, hrest', .cons hn hns⟩
    rw [run_flowItems_item began (bound + 1) htokens (hkind ▸ hopening)]
    simp [hrun, hcomma, hrun']

/-- The tokens of fields form nodes with the contents that the fields mean. -/
theorem exists_run_members (members : Members) (hmembers : members.isReadable = true)
    (began : Mark) (bound : Nat) (hbound : 2 * members.size + 1 ≤ bound) {s : Assembly}
    {rest : List Token.Kind}
    (h : s.tokens.map Token.kind = kindsOfMembers members ++ .flowMappingEnd :: rest) :
    ∃ entries tokens,
      (flowEntries began true bound).run s = .ok (entries, { s with tokens := tokens }) ∧
      tokens.map Token.kind = rest ∧
      Node.MeanFields members.hasShortNumbers entries (members.entries Json.Number.yamlValue) := by
  obtain ⟨bound, rfl⟩ : ∃ b, bound = b + 3 :=
    Nat.exists_eq_add_of_le' (by cases members <;> simp only [Members.size] at hbound <;> omega)
  cases members with
  | last label value behind =>
    simp only [Members.size] at hbound
    simp only [Members.isReadable, Bool.and_eq_true] at hmembers
    simp only [kindsOfMembers, List.cons_append] at h
    obtain ⟨opening, more, htokens, hkey, hmore⟩ := List.map_eq_cons_iff.mp h
    obtain ⟨scalar, more, rfl, hscalar, hmore⟩ := List.map_eq_cons_iff.mp hmore
    obtain ⟨colon, more, rfl, hcolon, hmore⟩ := List.map_eq_cons_iff.mp hmore
    obtain ⟨n, tokens, hrun, hrest, hn⟩ := exists_run_node value hmembers.1.2 false false
      (bound + 1) (by omega) (s := { s with tokens := more }) hmore
    obtain ⟨kind, kinds, hkinds, hopening⟩ := exists_kindsOf_eq_cons value
    rw [hkinds] at hmore
    obtain ⟨token, more, rfl, hkind, -⟩ := List.map_eq_cons_iff.mp hmore
    obtain ⟨last, tokens, rfl, hlast, hrest⟩ := List.map_eq_cons_iff.mp hrest
    have hend := run_flowEntries_end (s := { s with tokens := last :: tokens }) began (bound + 1)
      false rfl hlast
    refine ⟨_, tokens, ?_, hrest, .singleton (Text.ofList (stringOf label.name)) scalar.start hn⟩
    rw [run_flowEntries_entry began bound htokens hkey hscalar hcolon (hkind ▸ hopening)]
    simp [hrun, hend]
  | more label value behind members =>
    simp only [Members.size] at hbound
    simp only [Members.isReadable, Bool.and_eq_true] at hmembers
    simp only [kindsOfMembers, List.cons_append, List.append_assoc] at h
    obtain ⟨opening, more, htokens, hkey, hmore⟩ := List.map_eq_cons_iff.mp h
    obtain ⟨scalar, more, rfl, hscalar, hmore⟩ := List.map_eq_cons_iff.mp hmore
    obtain ⟨colon, more, rfl, hcolon, hmore⟩ := List.map_eq_cons_iff.mp hmore
    obtain ⟨n, tokens, hrun, hrest, hn⟩ := exists_run_node value hmembers.1.1.2 false false
      (bound + 1) (by omega) (s := { s with tokens := more }) hmore
    obtain ⟨kind, kinds, hkinds, hopening⟩ := exists_kindsOf_eq_cons value
    rw [hkinds] at hmore
    obtain ⟨token, more, rfl, hkind, -⟩ := List.map_eq_cons_iff.mp hmore
    obtain ⟨comma, tokens, rfl, hcomma, hmembersTokens⟩ := List.map_eq_cons_iff.mp hrest
    obtain ⟨entries, left, hrun', hrest', hentries⟩ := exists_run_members members hmembers.2
      began (bound + 2) (by omega) (s := { s with tokens := tokens }) hmembersTokens
    obtain ⟨kinds', hkinds'⟩ := exists_kindsOfMembers_eq_cons members
    rw [hkinds'] at hmembersTokens
    obtain ⟨token', more', rfl, hkind', -⟩ := List.map_eq_cons_iff.mp hmembersTokens
    have hcomma := run_flowEntries_comma (s := { s with tokens := comma :: token' :: more' }) began
      (bound + 1) rfl hcomma hkind'
    refine ⟨_, left, ?_, hrest',
      .cons (Text.ofList (stringOf label.name)) scalar.start hn hentries⟩
    rw [run_flowEntries_entry began bound htokens hkey hscalar hcolon (hkind ▸ hopening)]
    simp [hrun, hcomma, hrun']

end

/-! ## Whole texts -/

mutual

/-- There are at least as many tokens as values and keys. -/
theorem size_le_kindsOf (t : Tree) : t.size ≤ (kindsOf t).length := by
  cases t with
  | list items =>
    have hitems := size_le_kindsOfItems items
    simp only [Tree.size, kindsOf, List.length_cons, List.length_append, List.length_nil]
    omega
  | object members =>
    have hmembers := size_le_kindsOfMembers members
    simp only [Tree.size, kindsOf, List.length_cons, List.length_append, List.length_nil]
    omega
  | _ => simp [Tree.size, kindsOf]

theorem size_le_kindsOfItems (items : Items) : items.size ≤ (kindsOfItems items).length + 1 := by
  cases items with
  | last before item behind =>
    have hitem := size_le_kindsOf item
    simp only [Items.size, kindsOfItems]
    omega
  | more before item behind items =>
    have hitem := size_le_kindsOf item
    have hitems := size_le_kindsOfItems items
    simp only [Items.size, kindsOfItems, List.length_append, List.length_cons]
    omega

theorem size_le_kindsOfMembers (members : Members) :
    members.size ≤ (kindsOfMembers members).length + 1 := by
  cases members with
  | last label value behind =>
    have hvalue := size_le_kindsOf value
    simp only [Members.size, kindsOfMembers, List.length_cons]
    omega
  | more label value behind members =>
    have hvalue := size_le_kindsOf value
    have hmembers := size_le_kindsOfMembers members
    simp only [Members.size, kindsOfMembers, List.length_append, List.length_cons]
    omega

end

namespace Assemble

variable {s : Assembly} {token : Token} {more : List Token}

theorem run_bound : bound.run s = .ok (4 * s.tokens.length + 16, s) := rfl

/-- At the end of everything there is no further document. -/
theorem run_openDocument_end (h : s.tokens = token :: more) (hkind : token.kind = .streamEnd) :
    openDocument.run s = .ok (none, s) := by
  simp [openDocument, run_bound, skipDocumentEnds, run_sees h, run_peek h, hkind]
  rfl

theorem run_firstRoot (h : s.tokens = token :: more) (hkind : isOpening token.kind = true) :
    firstRoot.run s = (some <$> node true false (4 * s.tokens.length + 16)).run s := by
  have hedge : atDocumentEdge token.kind = false := by
    cases hk : token.kind <;> simp [hk, isOpening] at hkind <;> rfl
  simp [firstRoot, run_peek h, hedge, run_bound]

end Assemble

/-- The tokens of a value alone form the root of a document. -/
theorem exists_run_onlyRoot {t : Tree} (ht : t.isReadable = true) {s : Assembly}
    (h : s.tokens.map Token.kind = kindsOf t ++ [.streamEnd]) :
    ∃ n s', Assemble.onlyRoot.run s = .ok (some n, s') ∧
      n.Means t.hasShortNumbers (t.value Json.Number.yamlValue) := by
  have hsize := size_le_kindsOf t
  have hlength := congrArg List.length h
  simp only [List.length_map, List.length_append, List.length_singleton] at hlength
  obtain ⟨n, tokens, hrun, hrest, hn⟩ := exists_run_node t ht true false
    (4 * s.tokens.length + 16) (by omega) h
  obtain ⟨last, more, rfl, hlast, -⟩ := List.map_eq_cons_iff.mp hrest
  obtain ⟨kind, kinds, hkinds, hopening⟩ := exists_kindsOf_eq_cons t
  rw [hkinds] at h
  obtain ⟨token, more', htokens, hkind, -⟩ := List.map_eq_cons_iff.mp h
  have hend := Assemble.run_openDocument_end (s := { s with tokens := last :: more }) rfl hlast
  refine ⟨n, { s with tokens := last :: more }, ?_, hn⟩
  rw [Assemble.onlyRoot, StateT.run_bind, Assemble.run_firstRoot htokens (hkind ▸ hopening)]
  simp only [StateT.run_map, hrun, map_ok, ok_bind, StateT.run_bind, hend]
  rfl

end ChartQuery.Yaml

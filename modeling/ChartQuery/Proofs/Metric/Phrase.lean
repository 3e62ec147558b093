/-
# What an expression says

An expression is text, but nothing of what it was written from is lost. Its parts make up a phrase:
an aggregation of an object with conditions, a share of it in a total, or the previous period of an
object or of another phrase. Every generated expression is the text of the phrase that its measure
and its buckets give (`expression_eq_text`), and two phrases with one text are the same
(`text_delimited`), provided that no uri holds a closing bracket and every aggregation is a word.

The parts are told apart by what they are followed by, so every statement on a part is about its
text in front of any text that may follow it.
-/

import ChartQuery.Proofs.Metric.Reference
import ChartQuery.Proofs.Metric.Request
import ChartQuery.Proofs.Text.Delimited

namespace ChartQuery

open Text

/-- A restriction as an expression shows it: an attribute, its elements, and whether these are left
out. -/
abbrev Condition := Option Text × List Text × Bool

/-- What an expression says. An aggregation is given in the form in which it is written. -/
inductive Phrase where
  | aggregate (aggregation : Option Text) (objectUri : Text) (conditions : List Condition)
  | share (aggregation : Option Text) (objectUri : Text) (conditions : List Condition)
    (total : Text)
  | earlierObject (objectUri date : Text)
  | earlier (inner : Phrase) (date : Text)
  deriving DecidableEq, Repr

namespace Phrase

/-- How a condition is written. -/
def conditionText (condition : Condition) : Text :=
  Expression.clause ⟨condition.1, none, condition.2.1, condition.2.2⟩

/-- How conditions are written behind what they restrict. -/
def conditionsText (conditions : List Condition) : Text :=
  if conditions = [] then "" else " WHERE " ++ joined " AND " (conditions.map conditionText)

/-- How an object is written inside its aggregation. -/
def objectText (aggregation : Option Text) (objectUri : Text) : Text :=
  match aggregation with
  | some name => name ++ "(" ++ Expression.bracketed objectUri ++ ")"
  | none => Expression.bracketed objectUri

/-- The expression that says a phrase. -/
def text : Phrase → Text
  | .aggregate aggregation objectUri conditions =>
    "SELECT " ++ objectText aggregation objectUri ++ conditionsText conditions
  | .share aggregation objectUri conditions total =>
    "SELECT (" ++ ("SELECT " ++ objectText aggregation objectUri) ++ conditionsText conditions ++
      ") / (" ++ ("SELECT " ++ objectText aggregation objectUri) ++ " BY ALL " ++
      Expression.bracketed total ++ conditionsText conditions ++ ")"
  | .earlierObject objectUri date => Expression.previous date (Expression.bracketed objectUri)
  | .earlier inner date => Expression.previous date ("(" ++ inner.text ++ ")")

/-- The object that a phrase is about. -/
def objectUri : Phrase → Text
  | .aggregate _ objectUri _ => objectUri
  | .share _ objectUri _ _ => objectUri
  | .earlierObject objectUri _ => objectUri
  | .earlier inner _ => inner.objectUri

/-- The conditions in a phrase. -/
def conditions : Phrase → List Condition
  | .aggregate _ _ conditions => conditions
  | .share _ _ conditions _ => conditions
  | .earlierObject _ _ => []
  | .earlier inner _ => inner.conditions

/-! ## Parts that can be told from their texts -/

/-- A uri that can stand in brackets: it does not close them. -/
def IsPlainUri (uri : Text) : Prop :=
  Point.char ']' ∉ uri.toList

instance : DecidablePred IsPlainUri := fun uri =>
  inferInstanceAs (Decidable (Point.char ']' ∉ uri.toList))

/-- A condition with an attribute and elements that can stand in brackets. -/
def IsPlainCondition (condition : Condition) : Prop :=
  (∃ uri, condition.1 = some uri ∧ IsPlainUri uri) ∧
    condition.2.1 ≠ [] ∧ ∀ element ∈ condition.2.1, IsPlainUri element

/-- An aggregation that is a word of ASCII letters, or none. -/
def IsPlainAggregation (aggregation : Option Text) : Prop :=
  ∀ name ∈ aggregation, name ≠ "" ∧ IsWord name

theorem isPlainAggregation_none : IsPlainAggregation none := by
  simp [IsPlainAggregation]

/-- A phrase of plain parts. -/
def IsPlain : Phrase → Prop
  | .aggregate aggregation objectUri conditions =>
    IsPlainAggregation aggregation ∧ IsPlainUri objectUri ∧ ∀ c ∈ conditions, IsPlainCondition c
  | .share aggregation objectUri conditions total =>
    (IsPlainAggregation aggregation ∧ IsPlainUri objectUri ∧
      ∀ c ∈ conditions, IsPlainCondition c) ∧ IsPlainUri total
  | .earlierObject objectUri date => IsPlainUri objectUri ∧ IsPlainUri date
  | .earlier inner date => inner.IsPlain ∧ IsPlainUri date

theorem bracketed_delimited :
    Delimited IsPlainUri (fun _ => True) Expression.bracketed := by
  intro uri uri' r s huri huri' _ _ h
  simp only [Expression.bracketed, Text.toList_append, Text.toList_ofString, String.reduceToList,
    List.map_cons, List.map_nil, List.append_assoc, List.cons_append, List.nil_append,
    List.cons.injEq, true_and] at h
  obtain ⟨hsame, hrest⟩ := eq_of_append_closing (.char ']') huri huri' h
  exact ⟨(Text.toList_inj _ _).mp hsame, hrest⟩

theorem elements_delimited :
    Delimited (fun elements : List Text => elements ≠ [] ∧ ∀ e ∈ elements, IsPlainUri e)
      (StartsOtherThan (.char ','))
      (fun elements => joined "," (elements.map Expression.bracketed)) :=
  bracketed_delimited.joined rfl

/-- The attribute of a condition ends with its bracket, then a word says whether the elements are
left out, and these end before the parenthesis. -/
theorem condition_delimited :
    Delimited IsPlainCondition (fun _ => True) conditionText := by
  rintro ⟨-, elements, negative⟩ ⟨-, elements', negative'⟩ r s
    ⟨⟨uri, rfl, huri⟩, helements⟩ ⟨⟨uri', rfl, huri'⟩, helements'⟩ _ _ h
  simp only [conditionText, Expression.clause, Expression.shown, Option.getD_some,
    Text.toList_append, List.append_assoc] at h
  obtain ⟨rfl, hrest⟩ := bracketed_delimited huri huri' trivial trivial h
  have hnegative : negative = negative' := by
    cases negative <;> cases negative' <;> simp at hrest ⊢
  subst hnegative
  have htail := List.append_cancel_left
    (List.append_cancel_left (List.append_cancel_left hrest))
  obtain ⟨(hsame : elements = elements'), hclose⟩ := elements_delimited helements helements'
    (startsOtherThan_cons (by decide) r) (startsOtherThan_cons (by decide) s) htail
  rw [hsame]
  exact ⟨rfl, (List.cons.inj hclose).2⟩

/-- Conditions can be told from a text that does not go on with a blank: they begin with one and
have one between them. -/
theorem conditions_delimited :
    Delimited (fun conditions : List Condition => ∀ c ∈ conditions, IsPlainCondition c)
      (StartsOtherThan (.char ' ')) conditionsText := by
  have hjoined : Delimited (fun conditions : List Condition => conditions ≠ [] ∧
      ∀ c ∈ conditions, IsPlainCondition c) (StartsOtherThan (.char ' '))
      (fun conditions => joined " AND " (conditions.map conditionText)) :=
    condition_delimited.joined rfl
  -- No conditions are told from some by the blank that only some of them begin with.
  have hnone : ∀ {conditions : List Condition} {r s : List Point}, conditions ≠ [] →
      StartsOtherThan (.char ' ') r → r = (conditionsText conditions).toList ++ s → False := by
    intro conditions r s hsome hr h
    rw [conditionsText, if_neg hsome] at h
    exact hr (by simp [h])
  intro conditions conditions' r s hplain hplain' hr hs h
  by_cases hempty : conditions = []
  · by_cases hempty' : conditions' = []
    · subst hempty hempty'
      exact ⟨rfl, List.append_cancel_left h⟩
    · subst hempty
      exact absurd h fun h => hnone hempty' hr h
  · by_cases hempty' : conditions' = []
    · subst hempty'
      exact absurd h.symm fun h => hnone hempty hs h
    · simp only [conditionsText, if_neg hempty, if_neg hempty', Text.toList_append,
        List.append_assoc] at h
      exact hjoined ⟨hempty, hplain⟩ ⟨hempty', hplain'⟩ hr hs (List.append_cancel_left h)

/-- What is inside an aggregation does not begin with a bracket. -/
theorem head?_objectText_of_word {name : Text} (hword : IsPlainAggregation (some name))
    (uri : Text) :
    ∃ c rest, (objectText (some name) uri).toList = c :: rest ∧ c.meets Char.isAlpha := by
  obtain ⟨hsome, hletters⟩ := hword name rfl
  obtain ⟨c, rest, hname⟩ := List.exists_cons_of_ne_nil (l := name.toList) fun hnil =>
    hsome ((Text.toList_inj _ _).mp hnil)
  refine ⟨c, rest ++ ("(" ++ Expression.bracketed uri ++ ")").toList, ?_,
    hletters c (by simp [hname])⟩
  simp [objectText, hname]

/-- A word of letters is told from a bracket, and it ends at its parenthesis. -/
theorem object_delimited :
    Delimited (fun object : Option Text × Text =>
        IsPlainAggregation object.1 ∧ IsPlainUri object.2) (fun _ => True)
      (fun object => objectText object.1 object.2) := by
  have hbracket : ∀ {name uri uri' : Text} {r s : List Point},
      IsPlainAggregation (some name) →
      (objectText (some name) uri).toList ++ r = (Expression.bracketed uri').toList ++ s →
      False := by
    intro name uri uri' r s hword h
    obtain ⟨c, rest, htext, hletter⟩ := head?_objectText_of_word hword uri
    simp only [htext, Expression.bracketed, Text.toList_append, Text.toList_ofString,
      String.reduceToList, List.map_cons, List.map_nil, List.cons_append, List.cons.injEq] at h
    rw [h.1] at hletter
    exact absurd hletter (by decide)
  have hparenthesis : ∀ {name : Text},
      IsPlainAggregation (some name) → Point.char '(' ∉ name.toList := by
    intro name hword hmem
    exact absurd ((hword name rfl).2 (.char '(') hmem) (by decide)
  rintro ⟨aggregation, uri⟩ ⟨aggregation', uri'⟩ r s ⟨hword, huri⟩ ⟨hword', huri'⟩ _ _ h
  cases aggregation with
  | none =>
    cases aggregation' with
    | none =>
      obtain ⟨rfl, hrest⟩ := bracketed_delimited huri huri' trivial trivial h
      exact ⟨rfl, hrest⟩
    | some name' => exact absurd h.symm fun h => hbracket hword' h
  | some name =>
    cases aggregation' with
    | none => exact absurd h fun h => hbracket hword h
    | some name' =>
      simp only [objectText, Text.toList_append, Text.toList_ofString, String.reduceToList,
        List.map_cons, List.map_nil, List.append_assoc, List.cons_append, List.nil_append] at h
      obtain ⟨hname, hrest⟩ :=
        eq_of_append_closing (.char '(') (hparenthesis hword) (hparenthesis hword') h
      obtain ⟨rfl, hclose⟩ := bracketed_delimited huri huri' trivial trivial hrest
      rw [(Text.toList_inj _ _).mp hname]
      exact ⟨rfl, (List.cons.inj hclose).2⟩

/-! ## Texts of phrases -/

/-- An aggregate in front of a text. -/
theorem toList_aggregate (aggregation : Option Text) (objectUri : Text)
    (conditions : List Condition) (r : List Point) :
    (aggregate aggregation objectUri conditions).text.toList ++ r =
      ("SELECT " : Text).toList ++ ((objectText aggregation objectUri).toList ++
        ((conditionsText conditions).toList ++ r)) := by
  show ("SELECT " ++ objectText aggregation objectUri ++ conditionsText conditions).toList ++ r = _
  simp only [Text.toList_append, List.append_assoc]

/-- The first part of a share is the aggregate that the share is of. -/
theorem toList_share (aggregation : Option Text) (objectUri : Text)
    (conditions : List Condition) (total : Text) (r : List Point) :
    (share aggregation objectUri conditions total).text.toList ++ r =
      ("SELECT (" : Text).toList ++ ((aggregate aggregation objectUri conditions).text.toList ++
        .char ')' :: ((" / (SELECT " : Text).toList ++
          ((objectText aggregation objectUri).toList ++
            ((" BY ALL " : Text).toList ++ ((Expression.bracketed total).toList ++
              ((conditionsText conditions).toList ++ .char ')' :: r)))))) := by
  rw [toList_aggregate]
  show ("SELECT (" ++ ("SELECT " ++ objectText aggregation objectUri) ++
    conditionsText conditions ++ ") / (" ++ ("SELECT " ++ objectText aggregation objectUri) ++
    " BY ALL " ++ Expression.bracketed total ++ conditionsText conditions ++ ")").toList ++ r = _
  simp

theorem toList_earlierObject (objectUri date : Text) (r : List Point) :
    (earlierObject objectUri date).text.toList ++ r =
      ("SELECT " : Text).toList ++ ((objectText none objectUri).toList ++
        ((" FOR PREVIOUS (" : Text).toList ++
          ((Expression.bracketed date).toList ++ .char ')' :: r))) := by
  show (Expression.previous date (Expression.bracketed objectUri)).toList ++ r = _
  simp [Expression.previous, objectText]

theorem toList_earlier (inner : Phrase) (date : Text) (r : List Point) :
    (earlier inner date).text.toList ++ r =
      ("SELECT (" : Text).toList ++ (inner.text.toList ++
        .char ')' :: ((" FOR PREVIOUS (" : Text).toList ++
          ((Expression.bracketed date).toList ++ .char ')' :: r))) := by
  show (Expression.previous date ("(" ++ inner.text ++ ")")).toList ++ r = _
  simp [Expression.previous]

/-- Behind `SELECT` an object does not begin with a parenthesis, and so does no phrase that begins
with one. -/
theorem object_ne_parenthesis {aggregation : Option Text} (hword : IsPlainAggregation aggregation)
    {uri : Text} {r s : List Point}
    (h : ("SELECT " : Text).toList ++ ((objectText aggregation uri).toList ++ r) =
      ("SELECT (" : Text).toList ++ s) : False := by
  cases aggregation with
  | none => simp [objectText, Expression.bracketed] at h
  | some name =>
    obtain ⟨c, rest, htext, hletter⟩ := head?_objectText_of_word hword uri
    simp only [htext, Text.toList_ofString, String.reduceToList, List.map_cons, List.map_nil,
      List.cons_append, List.nil_append, List.cons.injEq, true_and] at h
    rw [h.1] at hletter
    exact absurd hletter (by decide)

/-- The conditions behind an object are not the mark of a previous period. -/
theorem conditions_ne_previous {conditions : List Condition} {r s : List Point}
    (hr : StartsOtherThan (.char ' ') r)
    (h : (conditionsText conditions).toList ++ r = (" FOR PREVIOUS (" : Text).toList ++ s) :
    False := by
  unfold conditionsText at h
  split at h
  · exact hr (by simpa using congrArg List.head? h)
  · simp at h

/-- The text of an aggregate is the text of no other phrase. -/
theorem eq_aggregate_of_text {aggregation : Option Text} {uri : Text}
    {conditions : List Condition} {p : Phrase} {r s : List Point}
    (haggregate : (aggregate aggregation uri conditions).IsPlain) (hp : p.IsPlain)
    (hr : StartsOtherThan (.char ' ') r) (hs : StartsOtherThan (.char ' ') s)
    (h : (aggregate aggregation uri conditions).text.toList ++ r = p.text.toList ++ s) :
    aggregate aggregation uri conditions = p ∧ r = s := by
  obtain ⟨hword, huri, hconditions⟩ := haggregate
  rw [toList_aggregate] at h
  cases p with
  | aggregate aggregation' uri' conditions' =>
    obtain ⟨hword', huri', hconditions'⟩ := hp
    rw [toList_aggregate] at h
    obtain ⟨hobject, hrest⟩ := object_delimited
      (a := (aggregation, uri)) (b := (aggregation', uri'))
      ⟨hword, huri⟩ ⟨hword', huri'⟩ trivial trivial (List.append_cancel_left h)
    obtain ⟨rfl, rfl⟩ := Prod.mk.inj hobject
    obtain ⟨rfl, hend⟩ := conditions_delimited hconditions hconditions' hr hs hrest
    exact ⟨rfl, hend⟩
  | share aggregation' uri' conditions' total =>
    rw [toList_share] at h
    exact absurd h fun h => object_ne_parenthesis hword h
  | earlierObject uri' date =>
    rw [toList_earlierObject] at h
    obtain ⟨-, hrest⟩ := object_delimited (a := (aggregation, uri)) (b := (none, uri'))
      ⟨hword, huri⟩ ⟨isPlainAggregation_none, hp.1⟩ trivial trivial
      (List.append_cancel_left h)
    exact absurd hrest fun h => conditions_ne_previous hr h
  | earlier inner date =>
    rw [toList_earlier] at h
    exact absurd h fun h => object_ne_parenthesis hword h

theorem startsOtherThan_parenthesis (rest : List Point) :
    StartsOtherThan (.char ' ') (.char ')' :: rest) :=
  startsOtherThan_cons (by decide) rest

/-- A share ends with its total, which is told by its bracket; the rest is as in its aggregate. -/
theorem eq_share_of_text {aggregation aggregation' : Option Text} {uri uri' total total' : Text}
    {conditions conditions' : List Condition} {r s : List Point}
    (hp : (share aggregation uri conditions total).IsPlain)
    (hq : (share aggregation' uri' conditions' total').IsPlain)
    (h : (share aggregation uri conditions total).text.toList ++ r =
      (share aggregation' uri' conditions' total').text.toList ++ s) :
    share aggregation uri conditions total = share aggregation' uri' conditions' total' ∧
      r = s := by
  rw [toList_share, toList_share] at h
  obtain ⟨hsame, hrest⟩ := eq_aggregate_of_text
    (p := .aggregate aggregation' uri' conditions') hp.1 hq.1 (startsOtherThan_parenthesis _)
    (startsOtherThan_parenthesis _) (List.append_cancel_left h)
  cases hsame
  have htotal := List.append_cancel_left (List.append_cancel_left
    (List.append_cancel_left (List.cons.inj hrest).2))
  obtain ⟨rfl, htail⟩ := bracketed_delimited hp.2 hq.2 trivial trivial htotal
  exact ⟨rfl, (List.cons.inj (List.append_cancel_left htail)).2⟩

theorem eq_earlierObject_of_text {uri uri' date date' : Text} {r s : List Point}
    (hp : (earlierObject uri date).IsPlain) (hq : (earlierObject uri' date').IsPlain)
    (h : (earlierObject uri date).text.toList ++ r =
      (earlierObject uri' date').text.toList ++ s) :
    earlierObject uri date = earlierObject uri' date' ∧ r = s := by
  rw [toList_earlierObject, toList_earlierObject] at h
  obtain ⟨hobject, hrest⟩ := object_delimited (a := (none, uri)) (b := (none, uri'))
    ⟨isPlainAggregation_none, hp.1⟩ ⟨isPlainAggregation_none, hq.1⟩ trivial trivial
    (List.append_cancel_left h)
  obtain ⟨-, rfl⟩ := Prod.mk.inj hobject
  obtain ⟨rfl, htail⟩ := bracketed_delimited hp.2 hq.2 trivial trivial
    (List.append_cancel_left hrest)
  exact ⟨rfl, (List.cons.inj htail).2⟩

/-- An inner aggregate is followed by what its share is taken of or by its previous period. -/
theorem share_ne_earlier {aggregation : Option Text} {uri total date : Text}
    {conditions : List Condition} {inner : Phrase} {r s : List Point}
    (hshare : (share aggregation uri conditions total).IsPlain)
    (hearlier : (earlier inner date).IsPlain)
    (h : (share aggregation uri conditions total).text.toList ++ r =
      (earlier inner date).text.toList ++ s) : False := by
  rw [toList_share, toList_earlier] at h
  obtain ⟨-, hrest⟩ := eq_aggregate_of_text hshare.1 hearlier.1 (startsOtherThan_parenthesis _)
    (startsOtherThan_parenthesis _) (List.append_cancel_left h)
  simp only [Text.toList_ofString, String.reduceToList, List.map_cons, List.map_nil,
    List.cons_append, List.cons.injEq] at hrest
  exact absurd hrest.2.2.1 (by decide)

/-- A phrase can be told from a text that goes on with anything but a blank, as it does at the end
of an expression and in front of a closing parenthesis. -/
theorem text_delimited : Delimited IsPlain (StartsOtherThan (.char ' ')) text := by
  intro p q r s hp hq hr hs h
  -- the induction is on the nesting of previous periods; only these hold a phrase
  induction p generalizing q r s with
  | aggregate aggregation uri conditions => exact eq_aggregate_of_text hp hq hr hs h
  | share aggregation uri conditions total =>
    cases q with
    | aggregate aggregation' uri' conditions' =>
      obtain ⟨hsame, hrest⟩ := eq_aggregate_of_text hq hp hs hr h.symm
      exact ⟨hsame.symm, hrest.symm⟩
    | share aggregation' uri' conditions' total' => exact eq_share_of_text hp hq h
    | earlierObject uri' date =>
      rw [toList_share, toList_earlierObject] at h
      exact absurd h.symm fun h => object_ne_parenthesis isPlainAggregation_none h
    | earlier inner date => exact absurd h fun h => share_ne_earlier hp hq h
  | earlierObject uri date =>
    cases q with
    | aggregate aggregation' uri' conditions' =>
      obtain ⟨hsame, hrest⟩ := eq_aggregate_of_text hq hp hs hr h.symm
      exact ⟨hsame.symm, hrest.symm⟩
    | share aggregation' uri' conditions' total =>
      rw [toList_share, toList_earlierObject] at h
      exact absurd h fun h => object_ne_parenthesis isPlainAggregation_none h
    | earlierObject uri' date' => exact eq_earlierObject_of_text hp hq h
    | earlier inner date' =>
      rw [toList_earlierObject, toList_earlier] at h
      exact absurd h fun h => object_ne_parenthesis isPlainAggregation_none h
  | earlier inner date ih =>
    cases q with
    | aggregate aggregation' uri' conditions' =>
      obtain ⟨hsame, hrest⟩ := eq_aggregate_of_text hq hp hs hr h.symm
      exact ⟨hsame.symm, hrest.symm⟩
    | share aggregation' uri' conditions' total' =>
      exact absurd h.symm fun h => share_ne_earlier hq hp h
    | earlierObject uri' date' =>
      rw [toList_earlier, toList_earlierObject] at h
      exact absurd h.symm fun h => object_ne_parenthesis isPlainAggregation_none h
    | earlier inner' date' =>
      rw [toList_earlier, toList_earlier] at h
      obtain ⟨rfl, hrest⟩ := ih hp.1 hq.1 (startsOtherThan_parenthesis _)
        (startsOtherThan_parenthesis _) (List.append_cancel_left h)
      obtain ⟨rfl, htail⟩ := bracketed_delimited hp.2 hq.2 trivial trivial
        (List.append_cancel_left (List.cons.inj hrest).2)
      exact ⟨rfl, (List.cons.inj htail).2⟩

/-- Plain phrases with one text are the same phrase. -/
theorem text_inj {p q : Phrase} (hp : p.IsPlain) (hq : q.IsPlain) (h : p.text = q.text) :
    p = q := by
  have hend := startsOtherThan_nil (.char ' ')
  exact (text_delimited hp hq hend hend (by rw [h])).1

end Phrase

end ChartQuery

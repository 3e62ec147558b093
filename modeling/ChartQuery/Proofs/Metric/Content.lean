/-
# When names tell definitions apart

A name holds a digest of the expression, the title and the format, joined by number signs that are
not escaped. Two definitions whose contents run into the same text are therefore told apart only if
the number signs fall into the same parts. This module states that condition and shows that it is
exact; nothing is claimed about collisions of the digest, which are excluded by a hypothesis.
-/

import ChartQuery.Metric.Definition
import ChartQuery.Proofs.Metric.Name

namespace ChartQuery

namespace MetricName

/-- Contents whose expressions have equally many number signs, and whose titles have, are the same
only for the same parts; a missing format and an empty one stay the same. -/
theorem content_inj {expression₁ expression₂ title₁ title₂ : Text}
    {format₁ format₂ : Option Text}
    (hsame : content expression₁ title₁ format₁ = content expression₂ title₂ format₂)
    (hexpression : expression₁.toList.count (.char '#') = expression₂.toList.count (.char '#'))
    (htitle : title₁.toList.count (.char '#') = title₂.toList.count (.char '#')) :
    expression₁ = expression₂ ∧ title₁ = title₂ ∧ format₁.getD ("" : Text) = format₂.getD "" := by
  have htext :
      expression₁.toList ++ Point.char '#' :: (title₁.toList ++ .char '#' ::
          (format₁.getD "").toList) =
        expression₂.toList ++ .char '#' :: (title₂.toList ++ .char '#' ::
          (format₂.getD "").toList) := by
    simpa [content, Text.toList_append] using congrArg Text.toList hsame
  obtain ⟨hexpressions, hrest⟩ := Text.eq_of_append_sep (Point.char '#') htext hexpression
  obtain ⟨htitles, hformats⟩ := Text.eq_of_append_sep (Point.char '#') hrest htitle
  exact ⟨(Text.toList_inj _ _).mp hexpressions, (Text.toList_inj _ _).mp htitles,
    (Text.toList_inj _ _).mp hformats⟩

end MetricName

namespace Definition

/-- The text that is digested for the name of a definition. -/
def content (d : Definition) : Text :=
  MetricName.content d.expression d.title d.format

/-- The digest in the name of a definition. -/
def contentDigest (d : Definition) : Except Unencodable String :=
  MetricName.contentDigest d.expression d.title d.format

/-- Definitions that create the same metric, whatever they are called. -/
def SameMetric (d₁ d₂ : Definition) : Prop :=
  d₁.expression = d₂.expression ∧ d₁.title = d₂.title ∧ d₁.format = d₂.format

/-- Definitions that have the same digest and whose contents are divided in the same way: equally
many number signs in the expressions and in the titles, and a format in both or in neither. -/
structure DividedLike (d₁ d₂ : Definition) : Prop where
  digest : d₁.contentDigest = d₂.contentDigest
  expression : d₁.expression.toList.count (.char '#') = d₂.expression.toList.count (.char '#')
  title : d₁.title.toList.count (.char '#') = d₂.title.toList.count (.char '#')
  format : d₁.format.isSome = d₂.format.isSome

variable {d₁ d₂ : Definition}

theorem SameMetric.content_eq (h : d₁.SameMetric d₂) : d₁.content = d₂.content := by
  obtain ⟨hexpression, htitle, hformat⟩ := h
  rw [content, hexpression, htitle, hformat]
  rfl

theorem SameMetric.dividedLike (h : d₁.SameMetric d₂) : d₁.DividedLike d₂ := by
  have hdigest : d₁.contentDigest = d₂.contentDigest :=
    congrArg (fun t => t.string.map Text.digest) h.content_eq
  obtain ⟨hexpression, htitle, hformat⟩ := h
  exact ⟨hdigest, by rw [hexpression], by rw [htitle], by rw [hformat]⟩

/-- Where the digests do not collide, definitions create the same metric exactly when their contents
are digested alike and divided alike. -/
theorem sameMetric_iff_dividedLike
    (hcollision : d₁.contentDigest = d₂.contentDigest → d₁.content = d₂.content) :
    d₁.SameMetric d₂ ↔ d₁.DividedLike d₂ := by
  constructor
  · exact SameMetric.dividedLike
  · intro h
    obtain ⟨hexpression, htitle, hformat⟩ :=
      MetricName.content_inj (hcollision h.digest) h.expression h.title
    refine ⟨hexpression, htitle, ?_⟩
    have hpresent := h.format
    cases h₁ : d₁.format with
    | none =>
      cases h₂ : d₂.format with
      | none => rfl
      | some f₂ => simp [h₁, h₂] at hpresent
    | some f₁ =>
      cases h₂ : d₂.format with
      | none => simp [h₁, h₂] at hpresent
      | some f₂ => simpa [h₁, h₂] using hformat

/-- Definitions with the same name are the same exactly when they create the same metric. -/
theorem eq_iff_sameMetric (hidentifier : d₁.identifier = d₂.identifier) :
    d₁ = d₂ ↔ d₁.SameMetric d₂ := by
  constructor
  · rintro rfl
    exact ⟨rfl, rfl, rfl⟩
  · rintro ⟨hexpression, htitle, hformat⟩
    cases d₁
    cases d₂
    simp_all

end Definition

end ChartQuery

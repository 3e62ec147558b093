/-
# When a metric can be named

A metric is named after the project and the object of its measure, so the uri of the measure has to
have enough segments: a uri with fewer than five slashes is reported as it stands. Every other uri
gives a name, which is never empty, unless the content of the metric has no form in UTF-8.
-/

import ChartQuery.Metric.Name

namespace ChartQuery.MetricName

/-- A uri without enough segments names no object. -/
theorem objectOf_of_short {uri : Text} (h : uri.toList.count (.char '/') < 5) :
    objectOf uri = .error (.malformedUri uri) := by
  have hlength := Text.length_pieces (.char '/') uri.toList
  unfold objectOf
  split
  · next hpieces =>
    rw [hpieces] at hlength
    simp only [List.length_cons] at hlength
    omega
  · rfl

/-- Every other uri names a project and an object. -/
theorem exists_objectOf {uri : Text} (h : 5 ≤ uri.toList.count (.char '/')) :
    ∃ project object, objectOf uri = .ok (project, object) := by
  have hlength := Text.length_pieces (.char '/') uri.toList
  unfold objectOf
  split
  · exact ⟨_, _, rfl⟩
  · next hother =>
    match hpieces : Text.pieces (.char '/') uri.toList with
    | [] | [_] | [_, _] | [_, _, _] | [_, _, _, _] | [_, _, _, _, _] =>
      rw [hpieces] at hlength
      simp only [List.length_cons, List.length_nil] at hlength
      omega
    | s₁ :: s₂ :: s₃ :: project :: s₅ :: object :: rest =>
      exact absurd hpieces (hother s₁ s₂ s₃ project s₅ object rest)

variable {m : Measure} {token expression title : Text} {format : Option Text}

/-- No metric of a measure can be named whose uri is too short. -/
theorem ofContent_of_short (h : m.objectUri.toList.count (.char '/') < 5) :
    ofContent m token expression title format = .error (.malformedUri m.objectUri) := by
  rw [ofContent, objectOf_of_short h]

/-- Every other measure can have its metrics named when their content has a string. -/
theorem exists_ofContent (h : 5 ≤ m.objectUri.toList.count (.char '/')) (token : Text)
    {digest : String} (hdigest : contentDigest expression title format = .ok digest) :
    ∃ identifier, ofContent m token expression title format = .ok identifier := by
  obtain ⟨project, object, hobject⟩ := exists_objectOf h
  rw [ofContent, hobject, hdigest]
  exact ⟨_, rfl⟩

/-- No metric can be named whose content has no string. -/
theorem ofContent_of_unencodable (h : 5 ≤ m.objectUri.toList.count (.char '/')) (token : Text)
    {halves : Unencodable} (hhalves : contentDigest expression title format = .error halves) :
    ofContent m token expression title format = .error (.unencodable halves) := by
  obtain ⟨project, object, hobject⟩ := exists_objectOf h
  rw [ofContent, hobject, hhalves]

/-- A name shows the digest of the content that it stands for. -/
theorem ofContent_eq_ok {identifier : Text}
    (h : ofContent m token expression title format = .ok identifier) :
    ∃ (owner : Text) (digest : String), contentDigest expression title format = .ok digest ∧
      identifier = owner ++ ".generated." ++ digest ++
        (if m.hasSelection then "_filtered" else "") ++ "_" ++ token := by
  unfold ofContent at h
  split at h
  · cases h
  · next project object hobject =>
    split at h
    · cases h
    · next digest hdigest =>
      cases h
      exact ⟨m.kind ++ "_" ++ project ++ "_" ++ object, digest, hdigest, rfl⟩

/-- A metric never has the empty name. -/
theorem ofContent_ne_empty {identifier : Text}
    (h : ofContent m token expression title format = .ok identifier) : identifier ≠ "" := by
  obtain ⟨owner, digest, -, rfl⟩ := ofContent_eq_ok h
  intro hempty
  have hlength := congrArg Text.length hempty
  simp at hlength

end ChartQuery.MetricName

/-
# The priority of rules

A rule book chooses by the first of its rules that fits a measure. A rule that is registered later
only counts for measures that no rule took before, and two neighbours that fit no measure in common
may change places. Books are values: `made` follows steps that each make one more book, and shows
that a book holds what was registered for it along its own line of descent (`Registered`), whatever
is made of it or beside it. Constructions are not looked into here and may be anything.
-/

import ChartQuery.Metric.Dispatch

namespace ChartQuery

variable {σ : Type}

/-- The measure has every trait of the rule. -/
def Rule.Fits (r : Rule σ) (m : Measure) : Prop :=
  ∀ t ∈ r.traits, t.holds m = true

theorem Rule.takes_iff {r : Rule σ} {m : Measure} : r.takes m = true ↔ r.Fits m :=
  List.all_eq_true

theorem Rule.takes_eq_false_iff {r : Rule σ} {m : Measure} : r.takes m = false ↔ ¬ r.Fits m := by
  rw [← Rule.takes_iff, Bool.not_eq_true]

namespace RuleBook

variable {book : RuleBook σ} {m : Measure} {c : σ}

/-! ## The first rule that fits -/

/-- The rule fits the measure, and no rule that was registered before it does. -/
def FitsFirst (book : RuleBook σ) (m : Measure) (r : Rule σ) : Prop :=
  ∃ i : Nat, book[i]? = some r ∧ r.Fits m ∧
    ∀ j < i, ∀ earlier, book[j]? = some earlier → ¬ earlier.Fits m

theorem find?_eq_some_iff {r : Rule σ} :
    book.find? (·.takes m) = some r ↔ book.FitsFirst m r := by
  rw [List.find?_eq_some_iff_getElem, Rule.takes_iff]
  constructor
  · rintro ⟨hfits, i, hi, rfl, hbefore⟩
    refine ⟨i, List.getElem?_eq_getElem hi, hfits, fun j hj earlier hearlier => ?_⟩
    obtain ⟨hlt, rfl⟩ := List.getElem?_eq_some_iff.mp hearlier
    exact Rule.takes_eq_false_iff.mp (by simpa using hbefore j hj)
  · rintro ⟨i, hr, hfits, hbefore⟩
    obtain ⟨hi, rfl⟩ := List.getElem?_eq_some_iff.mp hr
    refine ⟨hfits, i, hi, rfl, fun j hj => ?_⟩
    have hearlier := hbefore j hj _ (List.getElem?_eq_getElem (Nat.lt_trans hj hi))
    simpa using Rule.takes_eq_false_iff.mpr hearlier

theorem find?_eq_none_iff : book.find? (·.takes m) = none ↔ ∀ r ∈ book, ¬ r.Fits m := by
  simp only [List.find?_eq_none, Rule.takes_iff]

/-- A book chooses the construction of the first rule that fits. -/
theorem dispatch_eq_ok_iff :
    book.dispatch m = .ok c ↔ ∃ r, book.FitsFirst m r ∧ r.construction = c := by
  simp only [← find?_eq_some_iff]
  unfold dispatch
  cases book.find? (·.takes m) with
  | none => simp
  | some r => simp

/-- A book chooses nothing when no rule fits. -/
theorem dispatch_eq_error_iff {e : CompileFailure} :
    book.dispatch m = .error e ↔
      (∀ r ∈ book, ¬ r.Fits m) ∧ e = .noRule m.title m.objectUri := by
  rw [← find?_eq_none_iff]
  unfold dispatch
  cases book.find? (·.takes m) with
  | none => simp [eq_comm]
  | some r => simp

/-! ## Other rules in the same book -/

theorem find?_extend (traits : List Trait) (c : σ) :
    (book.extend traits c).find? (·.takes m) =
      (book.find? (·.takes m)).or (if traits.all (·.holds m) then some ⟨traits, c⟩ else none) := by
  rw [extend, List.find?_append, List.find?_singleton]
  rfl

/-- A further rule changes nothing for a measure for which the book had one. -/
theorem dispatch_extend_of_ok (traits : List Trait) (added : σ) (h : book.dispatch m = .ok c) :
    (book.extend traits added).dispatch m = .ok c := by
  obtain ⟨r, hfirst, rfl⟩ := dispatch_eq_ok_iff.mp h
  rw [dispatch, find?_extend, find?_eq_some_iff.mpr hfirst]
  rfl

/-- A further rule is chosen for a measure that it fits and for which the book had none. -/
theorem dispatch_extend_of_error {traits : List Trait} {added : σ} {e : CompileFailure}
    (h : book.dispatch m = .error e) :
    (book.extend traits added).dispatch m =
      if traits.all (·.holds m) then .ok added else .error e := by
  obtain ⟨hnone, rfl⟩ := dispatch_eq_error_iff.mp h
  rw [dispatch, find?_extend, find?_eq_none_iff.mpr hnone, Option.none_or]
  cases traits.all (·.holds m) <;> rfl

/-- Neighbours that do not both fit a measure may change places. -/
theorem dispatch_swap (before after : RuleBook σ) {r₁ r₂ : Rule σ}
    (h : ¬ (r₁.Fits m ∧ r₂.Fits m)) :
    dispatch (before ++ r₂ :: r₁ :: after) m = dispatch (before ++ r₁ :: r₂ :: after) m := by
  have hswap : (r₂ :: r₁ :: after).find? (·.takes m) = (r₁ :: r₂ :: after).find? (·.takes m) := by
    rw [← Rule.takes_iff, ← Rule.takes_iff] at h
    cases h₁ : r₁.takes m with
    | false => cases h₂ : r₂.takes m <;> simp [h₁, h₂]
    | true =>
      have h₂ : r₂.takes m = false := by simpa [h₁] using h
      simp [h₁, h₂]
  rw [dispatch, dispatch, List.find?_append, List.find?_append, hswap]

/-! ## Histories -/

/-- A step that makes one more book: the standard one, or a book at hand with one more rule. -/
inductive Step (σ : Type) where
  | standard
  | extend (base : Nat) (traits : List Trait) (construction : σ)

/-- The standard rules with constructions of any sort. -/
def standardFor (use : Construction → σ) : RuleBook σ :=
  standard.map fun r => ⟨r.traits, use r.construction⟩

/-- The book that a step makes from the books at hand, if the one that it extends is there. -/
def Step.book? (use : Construction → σ) (books : List (RuleBook σ)) : Step σ → Option (RuleBook σ)
  | .standard => some (standardFor use)
  | .extend base traits construction => books[base]?.map (·.extend traits construction)

/-- The books after a sequence of steps. -/
def made (use : Construction → σ) : List (RuleBook σ) → List (Step σ) → Option (List (RuleBook σ))
  | books, [] => some books
  | books, step :: rest => (step.book? use books).bind fun book => made use (books ++ [book]) rest

/-- The rules that steps register for the book with a number, in the order in which they do so: none
for the first book, which was there before all steps, and for the book of an extending step those of
the book that it extends and then its own. -/
inductive Registered (use : Construction → σ) (steps : List (Step σ)) : Nat → RuleBook σ → Prop
  | empty : Registered use steps 0 []
  | standard {k : Nat} (hstep : steps[k]? = some .standard) :
      Registered use steps (k + 1) (standardFor use)
  | extend {k base : Nat} {rules : RuleBook σ} {traits : List Trait} {construction : σ}
      (hstep : steps[k]? = some (.extend base traits construction))
      (hbase : Registered use steps base rules) :
      Registered use steps (k + 1) (rules ++ [⟨traits, construction⟩])

variable {use : Construction → σ} {books final : List (RuleBook σ)} {steps : List (Step σ)}

theorem made_cons_eq_some_iff {step : Step σ} {rest : List (Step σ)} :
    made use books (step :: rest) = some final ↔
      ∃ book, step.book? use books = some book ∧ made use (books ++ [book]) rest = some final := by
  rw [made, Option.bind_eq_some_iff]

/-- Steps add books and leave those at hand as they are. -/
theorem isPrefix_of_made (h : made use books steps = some final) : books <+: final := by
  induction steps generalizing books with
  | nil =>
    cases h
    exact List.prefix_refl _
  | cons step rest ih =>
    obtain ⟨book, -, hrest⟩ := made_cons_eq_some_iff.mp h
    exact (List.prefix_append books [book]).trans (ih hrest)

/-- The first steps of several made books that hold the rules which the steps register. -/
structure Tracks (use : Construction → σ) (steps first : List (Step σ))
    (books : List (RuleBook σ)) : Prop where
  length : books.length = first.length + 1
  registered : ∀ i book, books[i]? = some book → Registered use steps i book

theorem tracks_nil (use : Construction → σ) (steps : List (Step σ)) :
    Tracks use steps [] [[]] := by
  refine ⟨rfl, fun i book hbook => ?_⟩
  obtain ⟨rfl, rfl⟩ : i = 0 ∧ [] = book := by simpa [List.getElem?_singleton] using hbook
  exact .empty

/-- A step registers its rules for the book that it makes, and leaves the others as they are. -/
theorem Tracks.step {first rest : List (Step σ)} {step : Step σ} {book : RuleBook σ}
    (h : Tracks use (first ++ step :: rest) first books)
    (hbook : step.book? use books = some book) :
    Tracks use (first ++ step :: rest) (first ++ [step]) (books ++ [book]) := by
  have hstep : (first ++ step :: rest)[first.length]? = some step := by simp
  refine ⟨by simp [h.length], fun i found hfound => ?_⟩
  rcases Nat.lt_or_ge i books.length with hi | hi
  · rw [List.getElem?_append_left hi] at hfound
    exact h.registered i found hfound
  · rw [List.getElem?_append_right hi] at hfound
    obtain ⟨hlast, rfl⟩ : i - books.length = 0 ∧ book = found := by
      simpa [List.getElem?_singleton] using hfound
    obtain rfl : i = first.length + 1 := by
      have hlength := h.length
      omega
    cases step with
    | standard =>
      cases hbook
      exact .standard hstep
    | extend base traits construction =>
      obtain ⟨rules, hrules, rfl⟩ := Option.map_eq_some_iff.mp hbook
      exact .extend hstep (h.registered base rules hrules)

theorem Tracks.made {first rest : List (Step σ)} (h : Tracks use (first ++ rest) first books)
    (hmade : made use books rest = some final) :
    Tracks use (first ++ rest) (first ++ rest) final := by
  induction rest generalizing first books with
  | nil =>
    cases hmade
    simpa using h
  | cons step rest ih =>
    obtain ⟨book, hbook, hrest⟩ := made_cons_eq_some_iff.mp hmade
    have hnext : Tracks use ((first ++ [step]) ++ rest) (first ++ [step]) (books ++ [book]) := by
      simpa using h.step hbook
    simpa using ih hnext hrest

/-! ## Priority over a history -/

/-- Whatever steps made the books: every book holds the rules that were registered for it and
chooses by the first of them that fits; one rule more makes one book more, in which it counts after
all others; later steps change no book; and neighbours that no measure fits both may change places.
-/
theorem dispatch_of_made (use : Construction → σ) {steps : List (Step σ)}
    {books : List (RuleBook σ)} (h : made use [[]] steps = some books) :
    books.length = steps.length + 1 ∧
      (∀ later final, made use books later = some final → books <+: final) ∧
      ∀ i book, books[i]? = some book →
        Registered use steps i book ∧
          (∀ m c, book.dispatch m = .ok c ↔ ∃ r, book.FitsFirst m r ∧ r.construction = c) ∧
          (∀ m e, book.dispatch m = .error e ↔
            (∀ r ∈ book, ¬ r.Fits m) ∧ e = .noRule m.title m.objectUri) ∧
          (∀ traits added,
            made use books [.extend i traits added] = some (books ++ [book.extend traits added]) ∧
              ∀ m, (∀ c, book.dispatch m = .ok c → (book.extend traits added).dispatch m = .ok c) ∧
                ∀ e, book.dispatch m = .error e → (book.extend traits added).dispatch m =
                  if ∀ t ∈ traits, t.holds m = true then .ok added else .error e) ∧
          ∀ before r₁ r₂ after, book = before ++ r₁ :: r₂ :: after →
            (∀ m, ¬ (r₁.Fits m ∧ r₂.Fits m)) →
              ∀ m, dispatch (before ++ r₂ :: r₁ :: after) m = book.dispatch m := by
  have hstart : Tracks use ([] ++ steps) [] [[]] := tracks_nil use steps
  have htracks : Tracks use steps steps books := hstart.made h
  refine ⟨htracks.length, fun later final hlater => isPrefix_of_made hlater, fun i book hbook => ?_⟩
  refine ⟨htracks.registered i book hbook, fun m c => dispatch_eq_ok_iff,
    fun m e => dispatch_eq_error_iff,
    fun traits added => ⟨?extended, fun m => ⟨?kept, ?added⟩⟩, ?swapped⟩
  case extended => simp [RuleBook.made, Step.book?, hbook]
  case kept => exact fun c hc => dispatch_extend_of_ok traits added hc
  case added =>
    intro e he
    rw [dispatch_extend_of_error he]
    simp only [List.all_eq_true]
  case swapped =>
    rintro before r₁ r₂ after rfl hapart m
    exact dispatch_swap before after (hapart m)

/-- Two books that extend the same one, and the standard one beside them. -/
theorem dispatch_of_made_branches :
    let first : RuleBook := [⟨[.projectMetric], .reference⟩]
    let second := first.extend [.showsPrevious] .previous
    let steps : List (Step Construction) :=
      [.extend 0 [.projectMetric] .reference, .standard, .extend 1 [.showsPrevious] .previous,
        .extend 1 [.showsShare] .share]
    made id [[]] steps =
        some [[], first, standard, second, first.extend [.showsShare] .share] ∧
      Registered id steps 3 second ∧
        ∀ m c, second.dispatch m = .ok c ↔ ∃ r, second.FitsFirst m r ∧ r.construction = c := by
  intro first second steps
  have hmade : made id [[]] steps =
      some [[], first, standard, second, first.extend [.showsShare] .share] := rfl
  obtain ⟨-, -, hbooks⟩ := dispatch_of_made id hmade
  obtain ⟨hregistered, hdispatch, -⟩ := hbooks 3 second rfl
  exact ⟨hmade, hregistered, hdispatch⟩

end RuleBook

end ChartQuery

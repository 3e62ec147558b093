/-
# Dispatch

Which construction a measure takes. A rule names traits and a construction; a rule book is a list of
rules, of which the first counts whose traits the measure all has. The order of the rules is their
priority, and a measure that no rule takes is an error.
-/

import ChartQuery.Metric.Construction

namespace ChartQuery

/-- What can be asked of a measure: the questions of the standard rules, and any other. -/
inductive Trait where
  | showsPrevious
  | showsShare
  | derived
  | projectMetric
  | other (question : Measure → Bool)
  deriving Inhabited

/-- Two traits are the same question of the standard rules. Other questions are not compared. -/
instance : BEq Trait where
  beq
    | .showsPrevious, .showsPrevious => true
    | .showsShare, .showsShare => true
    | .derived, .derived => true
    | .projectMetric, .projectMetric => true
    | _, _ => false

/-- The measure has the trait. -/
def Trait.holds : Trait → Measure → Bool
  | .showsPrevious, m => m.showsPrevious
  | .showsShare, m => m.showsShare
  | .derived, m => m.isDerived
  | .projectMetric, m => m.kind == Measure.metricKind
  | .other question, m => question m

/-- Traits and the construction for measures that have all of them. What a construction is plays no
part in finding the rule. -/
structure Rule (σ : Type) where
  traits : List Trait
  construction : σ
  deriving Inhabited

/-- The measure has all traits of the rule. -/
def Rule.takes {σ : Type} (r : Rule σ) (m : Measure) : Bool :=
  r.traits.all (·.holds m)

/-- Rules in the order of their priority. -/
abbrev RuleBook (σ : Type := Construction) := List (Rule σ)

namespace RuleBook

variable {σ : Type}

/-- The book with one more rule, which counts after all others. -/
def extend (book : RuleBook σ) (traits : List Trait) (construction : σ) : RuleBook σ :=
  book ++ [⟨traits, construction⟩]

/-- The construction of the first rule that takes the measure. -/
def dispatch (book : RuleBook σ) (m : Measure) : Except CompileFailure σ :=
  match book.find? (·.takes m) with
  | some r => .ok r.construction
  | none => .error (.noRule m.title m.objectUri)

/-- The book that is used when none is given. Both flags together come before either alone, and the
flags before the kind of the measure. -/
def standard : RuleBook :=
  [⟨[.showsPrevious, .showsShare], .previousShare⟩,
    ⟨[.showsPrevious], .previous⟩,
    ⟨[.showsShare], .share⟩,
    ⟨[.derived], .aggregate⟩,
    ⟨[.projectMetric], .reference⟩]

/-- The columns that the measure at a position is made into. -/
def metricsOf (book : RuleBook) (b : Buckets) (index : Int) (m : Measure) :
    Except CompileFailure (List GeneratedMetric) :=
  match book.dispatch m with
  | .error e => .error e
  | .ok construction => construction.build m b index

/-- The columns of several measures, the first of which stands at a position. -/
def metricsFrom (book : RuleBook) (b : Buckets) : Int → List Measure →
    Except CompileFailure (List GeneratedMetric)
  | _, [] => .ok []
  | index, m :: rest =>
    match book.metricsOf b index m with
    | .error e => .error e
    | .ok first =>
      match metricsFrom book b (index + 1) rest with
      | .error e => .error e
      | .ok others => .ok (first ++ others)

/-- The columns of all measures of a chart, in order. -/
def metrics (book : RuleBook) (b : Buckets) : Except CompileFailure (List GeneratedMetric) :=
  book.metricsFrom b 0 b.measures

end RuleBook

end ChartQuery

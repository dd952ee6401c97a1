import DataGate.Evaluation

/-!
Counters over finished evaluations. Each counter has a family of labels; counting an evaluation
raises one label of the evaluations counter and one label for each fact that decided it.
-/

namespace DataGate

inductive Counter
  | evaluations
  | obstacles
  | grants
  deriving DecidableEq, Repr

def Counter.name : Counter → String
  | evaluations => "data_evaluations"
  | obstacles => "data_disallowed_reasons"
  | grants => "data_allowed_reasons"

inductive Label
  | evaluation (trigger : Trigger) (ruling : Ruling)
  | obstacle (fact : Obstacle) (severity : Severity)
  | grant (fact : Grant)
  deriving DecidableEq, Repr

namespace Label

def counter : Label → Counter
  | evaluation .. => .evaluations
  | obstacle .. => .obstacles
  | grant .. => .grants

/-- The label by name and value, in the order of the names. -/
def pairs : Label → List (String × String)
  | evaluation trigger ruling => [("evaluation_reason", trigger.name), ("outcome", ruling.name)]
  | obstacle fact severity => [("reason", fact.name), ("severity", severity.name)]
  | grant fact => [("reason", fact.name)]

def all : List Label :=
  let rulings (trigger : Trigger) := [evaluation trigger .allowed, evaluation trigger .disallowed]
  let severities (fact : Obstacle) := [obstacle fact .hard, obstacle fact .soft]
  Trigger.all.flatMap rulings ++ Obstacle.all.flatMap severities ++ Grant.all.map grant

end Label

structure Counters where
  count : Label → Nat

/-- A label that has been counted, as the counters show it. -/
structure Sample where
  name : String
  labels : List (String × String)
  value : Nat
  deriving DecidableEq, Repr

/-- Samples are shown by name, then by labels. -/
def Sample.key (sample : Sample) : List String :=
  sample.name :: sample.labels.flatMap fun (name, value) => [name, value]

namespace Counters

variable {counters : Counters} {label other : Label}

@[ext] theorem ext {left right : Counters} (same : ∀ label, left.count label = right.count label) :
    left = right := by
  obtain ⟨countLeft⟩ := left
  obtain ⟨countRight⟩ := right
  congr
  funext label
  exact same label

def zero : Counters where
  count _ := 0

def increment (counters : Counters) (label : Label) : Counters where
  count other := counters.count other + if other = label then 1 else 0

@[simp] theorem count_increment :
    (counters.increment label).count other =
      counters.count other + if other = label then 1 else 0 := rfl

/-- Counts labels one after another and stops before the first whose counter is broken. The second
part is that counter's complaint. -/
def tally (broken : Counter → Option String) (counters : Counters) :
    List Label → Counters × Option String
  | [] => (counters, none)
  | label :: rest => match broken label.counter with
    | some complaint => (counters, some complaint)
    | none => tally broken (counters.increment label) rest

def sample (counters : Counters) (label : Label) : Sample where
  name := label.counter.name ++ "_total"
  labels := label.pairs
  value := counters.count label

def samples (counters : Counters) : List Sample :=
  let counted := Label.all.filter (0 < counters.count ·)
  (counted.map counters.sample).mergeSort fun left right =>
    (compare left.key right.key).isLE

end Counters

/-- The labels that one evaluation counts under, in the order of counting. -/
def Evaluation.labels (evaluation : Evaluation) : List Label :=
  .evaluation evaluation.trigger evaluation.ruling ::
    if evaluation.decision.isAllowed then [.grant evaluation.decision.grant]
    else evaluation.decision.obstacles.toList.map fun obstacle =>
      .obstacle obstacle obstacle.severity

end DataGate

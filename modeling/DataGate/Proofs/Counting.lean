import DataGate.Proofs.Effects
import DataGate.Publication

namespace DataGate

namespace Counters

variable {broken : Counter → Option String} {counters : Counters} {label : Label}
  {labels : List Label} {complaint : String}

theorem tally_of_working (working : ∀ label ∈ labels, broken label.counter = none) :
    tally broken counters labels = (labels.foldl increment counters, none) := by
  induction labels generalizing counters with
  | nil => rfl
  | cons first rest ih =>
      obtain ⟨firstWorks, restWork⟩ := List.forall_mem_cons.mp working
      simp only [tally, firstWorks, List.foldl_cons]
      exact ih restWork

theorem tally_cons_of_working (works : broken label.counter = none) :
    tally broken counters (label :: labels) = tally broken (counters.increment label) labels := by
  simp only [tally, works]

theorem tally_cons_of_broken (found : broken label.counter = some complaint) :
    tally broken counters (label :: labels) = (counters, some complaint) := by
  simp only [tally, found]

/-- Labels of one broken counter are not counted at all, however many they are. -/
theorem tally_of_broken (nonempty : labels ≠ [])
    (found : ∀ label ∈ labels, broken label.counter = some complaint) :
    tally broken counters labels = (counters, some complaint) := by
  obtain ⟨first, rest, rfl⟩ := List.exists_cons_of_ne_nil nonempty
  exact tally_cons_of_broken (found first List.mem_cons_self)

theorem count_foldl_increment (counters : Counters) (labels : List Label) (label : Label) :
    (labels.foldl increment counters).count label = counters.count label + labels.count label := by
  induction labels generalizing counters with
  | nil => rfl
  | cons first rest ih =>
      rw [List.foldl_cons, ih, count_increment, List.count_cons]
      simp only [beq_iff_eq, eq_comm (a := first)]
      omega

end Counters

namespace Evaluation

open Effect

variable {evaluation : Evaluation} {broken : Counter → Option String} {counters : Counters}
  {complaint : String}

/-- The labels of the facts that decided the evaluation. -/
def reasons (evaluation : Evaluation) : List Label :=
  if evaluation.decision.isAllowed then [.grant evaluation.decision.grant]
  else evaluation.decision.obstacles.toList.map fun obstacle =>
    .obstacle obstacle obstacle.severity

def reasonCounter (evaluation : Evaluation) : Counter :=
  if evaluation.decision.isAllowed then .grants else .obstacles

theorem labels_eq (evaluation : Evaluation) :
    evaluation.labels = .evaluation evaluation.trigger evaluation.ruling :: evaluation.reasons :=
  rfl

theorem reasons_ne_nil (evaluation : Evaluation) : evaluation.reasons ≠ [] := by
  unfold reasons
  split
  · exact List.cons_ne_nil _ _
  · next refused =>
      intro none
      apply refused
      rw [List.map_eq_nil_iff] at none
      simp [Decision.isAllowed, ObstacleSet.isEmpty, ObstacleSet.size, none]

theorem counter_of_mem_reasons {label : Label} (member : label ∈ evaluation.reasons) :
    label.counter = evaluation.reasonCounter := by
  unfold reasons at member
  unfold reasonCounter
  split at member
  · next allowed =>
      rw [if_pos allowed, List.mem_singleton.mp member]
      rfl
  · next refused =>
      obtain ⟨obstacle, _, rfl⟩ := List.mem_map.mp member
      rw [if_neg refused]
      rfl

theorem reasonCounter_ne_evaluations (evaluation : Evaluation) :
    evaluation.reasonCounter ≠ .evaluations := by
  unfold reasonCounter
  split
  · exact Counter.noConfusion
  · exact Counter.noConfusion

theorem evaluation_mem_labels {trigger : Trigger} {ruling : Ruling} :
    .evaluation trigger ruling ∈ evaluation.labels ↔
      trigger = evaluation.trigger ∧ ruling = evaluation.ruling := by
  have absent : .evaluation trigger ruling ∉ evaluation.reasons := fun member =>
    evaluation.reasonCounter_ne_evaluations (counter_of_mem_reasons member).symm
  rw [labels_eq, List.mem_cons, Label.evaluation.injEq]
  exact or_iff_left absent

theorem grant_mem_labels {grant : Grant} :
    .grant grant ∈ evaluation.labels ↔
      evaluation.decision.isAllowed = true ∧ grant = evaluation.decision.grant := by
  unfold labels
  split
  · next allowed => simp [allowed]
  · next refused => simp [refused]

theorem obstacle_mem_labels {obstacle : Obstacle} {severity : Severity} :
    .obstacle obstacle severity ∈ evaluation.labels ↔
      evaluation.decision.contains obstacle = true ∧ severity = obstacle.severity := by
  unfold labels
  split
  · next allowed =>
      have clear : evaluation.decision.obstacles = ∅ := ObstacleSet.isEmpty_iff.mp allowed
      have absent : ¬ evaluation.decision.contains obstacle = true := by
        unfold Decision.contains
        rw [clear]
        exact ObstacleSet.not_mem_empty
      simp [absent]
  · next refused =>
      have listed : evaluation.decision.contains obstacle = true ↔
          obstacle ∈ evaluation.decision.obstacles.toList := ObstacleSet.mem_toList.symm
      simp only [List.mem_cons, reduceCtorEq, false_or, List.mem_map, Label.obstacle.injEq, listed]
      constructor
      · intro found
        obtain ⟨_, member, rfl, rfl⟩ := found
        exact ⟨member, rfl⟩
      · intro both
        exact ⟨obstacle, both.1, rfl, both.2.symm⟩

/-- What counting the evaluation complains about: the first broken counter among those it asks. -/
def complaint? (evaluation : Evaluation) (broken : Counter → Option String) : Option String :=
  (broken .evaluations).or (broken evaluation.reasonCounter)

theorem tally_of_silent (silent : evaluation.complaint? broken = none) :
    counters.tally broken evaluation.labels =
      (evaluation.labels.foldl Counters.increment counters, none) := by
  obtain ⟨evaluationsWork, reasonsWork⟩ := Option.or_eq_none_iff.mp silent
  apply Counters.tally_of_working
  rw [labels_eq, List.forall_mem_cons]
  refine ⟨evaluationsWork, ?_⟩
  intro label member
  rw [counter_of_mem_reasons member]
  exact reasonsWork

theorem tally_of_evaluations_broken (found : broken .evaluations = some complaint) :
    counters.tally broken evaluation.labels = (counters, some complaint) :=
  Counters.tally_cons_of_broken found

theorem tally_of_reasons_broken (works : broken .evaluations = none)
    (found : broken evaluation.reasonCounter = some complaint) :
    counters.tally broken evaluation.labels =
      (counters.increment (.evaluation evaluation.trigger evaluation.ruling), some complaint) := by
  rw [labels_eq, Counters.tally_cons_of_working works]
  apply Counters.tally_of_broken evaluation.reasons_ne_nil
  intro label member
  rw [counter_of_mem_reasons member]
  exact found

theorem tally_complaint (evaluation : Evaluation) (broken : Counter → Option String)
    (counters : Counters) :
    (counters.tally broken evaluation.labels).2 = evaluation.complaint? broken := by
  cases first : broken .evaluations with
  | some complaint => rw [tally_of_evaluations_broken first, complaint?, first, Option.some_or]
  | none =>
      cases second : broken evaluation.reasonCounter with
      | some complaint =>
          rw [tally_of_reasons_broken first second, complaint?, first, second, Option.none_or]
      | none =>
          have silent : evaluation.complaint? broken = none := by
            rw [complaint?, first, second, Option.none_or]
          rw [tally_of_silent silent, silent]

/-- The entry that counting writes, with or without a complaint. -/
def metricEntry (evaluation : Evaluation) : Option String → Log.Entry
  | none => evaluation.countedEntry
  | some complaint => uncountedEntry complaint

/-- Counting never fails, whatever the counters do, and writes one entry. -/
theorem count_apply (evaluation : Evaluation) (world : World) :
    let entry := evaluation.metricEntry (evaluation.complaint? world.broken)
    evaluation.count world =
      { result := .ok ()
        world :=
          { world with counters := (world.counters.tally world.broken evaluation.labels).1 }
        issued := [world.issue entry] } := by
  unfold count
  rw [read_bind, ← tally_complaint evaluation world.broken world.counters]
  cases tallied : world.counters.tally world.broken evaluation.labels with
  | mk counters complaint => cases complaint <;> rfl

end Evaluation

end DataGate

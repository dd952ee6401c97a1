import Mathlib.Algebra.BigOperators.Group.Finset.Basic
import Mathlib.Algebra.Order.BigOperators.Group.Finset
import Mathlib.Data.Fintype.BigOperators
import DataGate.Dotenv
import DataGate.Proofs.Recording

namespace DataGate

instance : Fintype Trigger := .ofList Trigger.all Vocabulary.mem_all

instance : Fintype Ruling := .ofList [.allowed, .disallowed] fun ruling => by cases ruling <;> simp

instance : Fintype Obstacle := .ofList Obstacle.all Obstacle.mem_all

instance : Fintype Severity := .ofList [.hard, .soft] fun severity => by cases severity <;> simp

instance : Fintype Grant := .ofList Grant.all Vocabulary.mem_all

namespace Counters

/-- The evaluations counted with the ruling, whatever their trigger. -/
def ruled (counters : Counters) (ruling : Ruling) : Nat :=
  ∑ trigger, counters.count (.evaluation trigger ruling)

/-- The obstacles counted, under either severity. -/
def obstructed (counters : Counters) : Nat :=
  ∑ obstacle, ∑ severity, counters.count (.obstacle obstacle severity)

/-- The counters tell of just these evaluations. -/
structure TellOf (counters : Counters) (recorded : List Evaluation) : Prop where
  evaluations : ∑ ruling, counters.ruled ruling = recorded.length
  grants : ∑ grant, counters.count (.grant grant) = counters.ruled .allowed
  misplaced : ∀ obstacle severity, severity ≠ obstacle.severity →
    counters.count (.obstacle obstacle severity) = 0
  active : ∀ obstacle : Obstacle, counters.count (.obstacle obstacle obstacle.severity) =
    recorded.countP (·.decision.contains obstacle)
  obstacle_le : ∀ obstacle : Obstacle,
    counters.count (.obstacle obstacle obstacle.severity) ≤ counters.ruled .disallowed
  disallowed_le : counters.ruled .disallowed ≤ counters.obstructed

end Counters

namespace Evaluation

variable {ι : Type} [Fintype ι] {labelled : ι → Label} {holds : Evaluation → Bool}
variable (evaluation : Evaluation) (recorded : List Evaluation)

theorem nodup_labels : evaluation.labels.Nodup := by
  unfold labels
  split
  · simp
  · refine List.nodup_cons.mpr ⟨by simp, ?_⟩
    exact evaluation.decision.obstacles.nodup_toList.map fun _ _ same => (Label.obstacle.inj same).1

/-- The number of times that the recorded evaluations carry the label. -/
def carried (recorded : List Evaluation) (label : Label) : Nat :=
  (recorded.flatMap labels).count label

theorem carried_cons (label : Label) :
    carried (evaluation :: recorded) label =
      (if label ∈ evaluation.labels then 1 else 0) + carried recorded label := by
  rw [carried, List.flatMap_cons, List.count_append, evaluation.nodup_labels.count]
  rfl

/-- Labels of which an evaluation carries one if a condition holds, and else none. -/
theorem sum_carried_eq_countP
    (one : ∀ evaluation, (∑ index, if labelled index ∈ labels evaluation then 1 else 0) =
      if holds evaluation = true then 1 else 0) :
    ∑ index, carried recorded (labelled index) = recorded.countP holds := by
  induction recorded with
  | nil => simp [carried]
  | cons first rest ih =>
      simp only [carried_cons, Finset.sum_add_distrib, one, ih, List.countP_cons]
      exact Nat.add_comm _ _

/-- Labels of which an evaluation carries at least one if a condition holds. -/
theorem countP_le_sum_carried
    (some : ∀ evaluation, holds evaluation = true →
      ∃ index, labelled index ∈ labels evaluation) :
    recorded.countP holds ≤ ∑ index, carried recorded (labelled index) := by
  induction recorded with
  | nil => exact Nat.zero_le _
  | cons first rest ih =>
      simp only [carried_cons, Finset.sum_add_distrib, List.countP_cons]
      rw [Nat.add_comm]
      refine Nat.add_le_add ?_ ih
      split
      · next held =>
          obtain ⟨index, member⟩ := some first held
          calc 1 = if labelled index ∈ first.labels then 1 else 0 := (if_pos member).symm
            _ ≤ ∑ index, if labelled index ∈ first.labels then 1 else 0 :=
              Finset.single_le_sum
                (f := fun index => if labelled index ∈ first.labels then 1 else 0)
                (fun _ _ => Nat.zero_le _) (Finset.mem_univ index)
      · exact Nat.zero_le _

theorem ruling_eq_allowed_iff :
    evaluation.ruling = .allowed ↔ evaluation.decision.isAllowed = true := by
  unfold ruling Ruling.ofBool
  split <;> simp_all

theorem ruling_eq_disallowed_iff :
    evaluation.ruling = .disallowed ↔ ¬ evaluation.decision.isAllowed = true := by
  unfold ruling Ruling.ofBool
  split <;> simp_all

theorem exists_obstacle_of_disallowed (disallowed : evaluation.ruling = .disallowed) :
    ∃ obstacle, evaluation.decision.contains obstacle = true := by
  by_contra none
  apply evaluation.ruling_eq_disallowed_iff.mp disallowed
  refine ObstacleSet.isEmpty_iff.mpr (ObstacleSet.ext fun obstacle => ?_)
  exact iff_of_false (fun member => none ⟨obstacle, member⟩) ObstacleSet.not_mem_empty

theorem disallowed_of_contains {obstacle : Obstacle}
    (contained : evaluation.decision.contains obstacle = true) :
    evaluation.ruling = .disallowed := by
  rw [ruling_eq_disallowed_iff]
  intro allowed
  have clear : evaluation.decision.obstacles = ∅ := ObstacleSet.isEmpty_iff.mp allowed
  unfold Decision.contains at contained
  rw [clear] at contained
  exact ObstacleSet.not_mem_empty contained

theorem sum_carried_evaluation :
    ∑ ruling, ∑ trigger, carried recorded (.evaluation trigger ruling) = recorded.length := by
  rw [Finset.sum_comm, ← Fintype.sum_prod_type' (f := fun trigger ruling =>
    carried recorded (.evaluation trigger ruling)), ← List.countP_true]
  apply sum_carried_eq_countP
  intro evaluation
  simp only [evaluation_mem_labels, ← Prod.mk.injEq, Prod.mk.eta, if_true]
  exact Fintype.sum_ite_eq' (evaluation.trigger, evaluation.ruling) fun _ => 1

theorem sum_carried_ruling (ruling : Ruling) :
    ∑ trigger, carried recorded (.evaluation trigger ruling) =
      recorded.countP (·.ruling == ruling) := by
  apply sum_carried_eq_countP
  intro evaluation
  simp only [evaluation_mem_labels, beq_iff_eq, ite_and]
  rw [Fintype.sum_ite_eq']
  simp only [eq_comm]

theorem sum_carried_grant :
    ∑ grant, carried recorded (.grant grant) = recorded.countP (·.ruling == .allowed) := by
  apply sum_carried_eq_countP
  intro evaluation
  simp only [grant_mem_labels, beq_iff_eq, ruling_eq_allowed_iff, and_comm, ite_and]
  exact Fintype.sum_ite_eq' evaluation.decision.grant _

theorem carried_obstacle (obstacle : Obstacle) (severity : Severity) :
    carried recorded (.obstacle obstacle severity) =
      if severity = obstacle.severity then recorded.countP (·.decision.contains obstacle)
      else 0 := by
  induction recorded with
  | nil => simp [carried]
  | cons first rest ih =>
      rw [carried_cons, ih, List.countP_cons]
      simp only [obstacle_mem_labels]
      by_cases own : severity = obstacle.severity
      · simp only [own, and_true, if_true]
        exact Nat.add_comm _ _
      · simp only [own, and_false, if_false]

theorem countP_contains_le (obstacle : Obstacle) :
    recorded.countP (·.decision.contains obstacle) ≤
      recorded.countP (·.ruling == .disallowed) := by
  apply List.countP_mono_left
  intro evaluation _ contained
  exact beq_iff_eq.mpr (evaluation.disallowed_of_contains contained)

theorem countP_disallowed_le :
    recorded.countP (·.ruling == .disallowed) ≤
      ∑ obstacle, ∑ severity, carried recorded (.obstacle obstacle severity) := by
  rw [← Fintype.sum_prod_type' (f := fun obstacle severity =>
    carried recorded (.obstacle obstacle severity))]
  apply countP_le_sum_carried
  intro evaluation disallowed
  obtain ⟨obstacle, contained⟩ :=
    evaluation.exists_obstacle_of_disallowed (beq_iff_eq.mp disallowed)
  exact ⟨(obstacle, obstacle.severity), obstacle_mem_labels.mpr ⟨contained, rfl⟩⟩

theorem tellOf_of_carried {counters : Counters}
    (counts : ∀ label, counters.count label = carried recorded label) :
    counters.TellOf recorded := by
  have ruled (ruling : Ruling) : counters.ruled ruling = recorded.countP (·.ruling == ruling) := by
    simp only [Counters.ruled, counts, sum_carried_ruling]
  have active (obstacle : Obstacle) :
      counters.count (.obstacle obstacle obstacle.severity) =
        recorded.countP (·.decision.contains obstacle) := by
    rw [counts, carried_obstacle, if_pos rfl]
  constructor
  · simp only [Counters.ruled, counts, sum_carried_evaluation]
  · simp only [ruled, counts, sum_carried_grant]
  · intro obstacle severity other
    rw [counts, carried_obstacle, if_neg other]
  · exact active
  · intro obstacle
    rw [active, ruled]
    exact countP_contains_le recorded obstacle
  · simp only [ruled, Counters.obstructed, counts]
    exact countP_disallowed_le recorded

end Evaluation

namespace Session

variable {α : Type} {session : Session} {operation : Operation} {operations : List Operation}

/-- What a question finds before each operation of a run, in order. -/
def observed (question : Session → Operation → Option α) (session : Session) :
    List Operation → List α
  | [] => []
  | operation :: rest =>
      (question session operation).toList ++ observed question (session.perform operation).1 rest

theorem perform_working (working : session.world.broken = fun _ => none)
    (unbroken : ∀ counter complaint, operation ≠ .breakCounter counter complaint) :
    (session.perform operation).1.world.broken = fun _ => none := by
  cases operation with
  | breakCounter counter complaint => exact absurd rfl (unbroken counter complaint)
  | mendCounter counter =>
      funext other
      change (if other = counter then none else session.world.broken other) = none
      rw [working, ite_self]
  | _ => exact (perform_broken (by simp [Operation.writes])).trans working

theorem count_perform (working : session.world.broken = fun _ => none) (operation : Operation)
    (label : Label) :
    (session.perform operation).1.world.counters.count label =
      session.world.counters.count label +
        Evaluation.carried (session.recorded? operation).toList label := by
  rw [perform_counters_eq]
  cases session.recorded? operation with
  | none => rfl
  | some evaluation =>
      have silent : evaluation.complaint? session.world.broken = none := by rw [working]; rfl
      simp only [Option.map_some, Option.getD_some, Evaluation.tallied,
        Evaluation.tally_of_silent silent, Counters.count_foldl_increment, Evaluation.carried,
        Option.toList_some, List.flatMap_cons, List.flatMap_nil, List.append_nil]

/-- While no counter is broken, a run adds to each label the number of times that the evaluations it
records carry it. -/
theorem count_performAll (working : session.world.broken = fun _ => none)
    (unbroken : ∀ counter complaint, .breakCounter counter complaint ∉ operations)
    (label : Label) :
    (session.performAll operations).1.world.counters.count label =
      session.world.counters.count label +
        Evaluation.carried (session.observed recorded? operations) label := by
  induction operations generalizing session with
  | nil => rfl
  | cons first rest ih =>
      have firstUnbroken : ∀ counter complaint, first ≠ .breakCounter counter complaint :=
        fun counter complaint same => unbroken counter complaint (by simp [same])
      have restUnbroken : ∀ counter complaint, .breakCounter counter complaint ∉ rest :=
        fun counter complaint member => unbroken counter complaint (List.mem_cons_of_mem _ member)
      have split : Evaluation.carried (session.observed recorded? (first :: rest)) label =
          Evaluation.carried (session.recorded? first).toList label +
            Evaluation.carried ((session.perform first).1.observed recorded? rest) label := by
        simp only [Evaluation.carried, observed, List.flatMap_append, List.count_append]
      rw [split, ← Nat.add_assoc, ← count_perform working]
      exact ih (perform_working working firstUnbroken) restUnbroken

theorem length_recorded (session : Session) (operation : Operation) :
    (session.recorded? operation).toList.length =
      (session.counted? operation).toList.length +
        (session.countedAsPublished? operation).toList.length := by
  cases operation with
  | count id =>
      rw [recorded?_count]
      rfl
  | publish id choice =>
      rw [recorded?_publish]
      exact (Nat.zero_add _).symm
  | _ => rfl

theorem length_observed_recorded (session : Session) (operations : List Operation) :
    (session.observed recorded? operations).length =
      (session.observed counted? operations).length +
        (session.observed countedAsPublished? operations).length := by
  induction operations generalizing session with
  | nil => rfl
  | cons first rest ih =>
      simp only [observed, List.length_append, ih, length_recorded]
      omega

/-- Counters that start at zero tell of just the evaluations that a run records, and these are the
evaluations counted on request and the evaluations published while counting is enabled. -/
theorem counters_conserved (start : Session) (operations : List Operation)
    (zero : start.world.counters = .zero) (working : start.world.broken = fun _ => none)
    (unbroken : ∀ counter complaint, .breakCounter counter complaint ∉ operations) :
    (start.performAll operations).1.world.counters.TellOf (start.observed recorded? operations) ∧
      (start.observed recorded? operations).length =
        (start.observed counted? operations).length +
          (start.observed countedAsPublished? operations).length := by
  refine ⟨Evaluation.tellOf_of_carried _ fun label => ?_, length_observed_recorded start operations⟩
  rw [count_performAll working unbroken, zero]
  exact Nat.zero_add _

/-- A publication whose time cannot be shown fails, but its evaluation has been counted. -/
theorem counters_conserved_past_failure :
    let start : Session :=
      { world :=
          { loader := Dotenv.loader
            environment := .ofList []
            dotenv := ""
            level := .notset
            wall := .ofReadings (.ok (10 ^ 20)) [] } }
    let publication := Operation.publish "cycle" (.given {})
    let operations := [.create "cycle" .simLoaded none, .call "cycle" (.block .simNotReady),
      .call "cycle" (.block .dataDisabled), publication, .count "cycle"]
    let counters := (start.performAll operations).1.world.counters
    ((start.performAll (operations.take 3)).1.perform publication).2.answer =
        .error (.time .yearTooWide) ∧
      ∑ ruling, counters.ruled ruling = 2 ∧ ∑ grant, counters.count (.grant grant) = 0 ∧
      counters.count (.obstacle .dataDisabled .soft) = 2 := by
  intro start publication operations counters
  obtain ⟨tellOf, length⟩ := counters_conserved start operations rfl rfl
    (by simp [operations, publication])
  refine ⟨by decide +kernel, ?_, ?_, ?_⟩
  · rw [tellOf.evaluations, length]
    decide +kernel
  · rw [tellOf.grants]
    decide +kernel
  · have soft : Obstacle.dataDisabled.severity = .soft := rfl
    rw [← soft, tellOf.active]
    decide +kernel

end Session

end DataGate

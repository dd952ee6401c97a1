import DataGate.Dotenv
import DataGate.Proofs.Frame
import DataGate.Proofs.Stamping

/-!
One record over a run of all operations. Only calls on a record change it, so two records that are
told the same facts decide alike, whatever their triggers, their clocks and the operations in
between. The time of a record is what its clock has last returned, and nothing but facts reads that.
-/

namespace DataGate

namespace Operation

/-- The call that the operation makes on the record of this name. -/
def callOn? (id : String) : Operation → Option Call
  | .call other made => if other = id then some made else none
  | _ => none

/-- The operation may put a record under a name. -/
def Stores : Operation → Prop
  | .create .. | .call .. | .replay .. => True
  | _ => False

/-- The operation puts no other record in the place of this one. If this one has no clock of its
own, then neither does the operation read the wall clock for another record. -/
def Spares (id : String) (clocked : Bool) : Operation → Prop
  | .create other _ _ => other ≠ id
  | .replay other _ _ => other ≠ id ∧ clocked = true
  | .call other made => other = id ∨ clocked = true ∨ made.stamps = false
  | _ => True

end Operation

namespace Session

variable {session : Session} {operation : Operation} {id other : String} {evaluation : Evaluation}
  {trigger : Trigger} {clock : Option Clock} {wall : Clock} {calls : List Call} {call : Call}

theorem store_records_self (session : Session) (id : String) (evaluation : Evaluation) :
    (session.store id evaluation).records id = some evaluation :=
  if_pos rfl

theorem store_records_of_ne (different : other ≠ id) (evaluation : Evaluation) :
    (session.store other evaluation).records id = session.records id :=
  if_neg different.symm

theorem perform_records (unstored : ¬ operation.Stores) :
    (session.perform operation).1.records = session.records := by
  have kept (session : Session) (effect : Effect Unit) :
      (session.run effect keepNothing).1.records = session.records :=
    run_look records (fun _ _ => rfl) fun _ _ => rfl
  cases operation with
  | create id trigger clock => exact absurd trivial unstored
  | call id call => exact absurd trivial unstored
  | replay id trigger candidate => exact absurd trivial unstored
  | ask id query => exact withRecord_look records fun _ => rfl
  | takeSnapshot id => exact withRecord_look records fun _ => rfl
  | assignVariable name value => exact kept session _
  | loadSettings checked => exact run_look records (fun _ _ => rfl) fun _ _ => rfl
  | sharedSettings checked => exact run_look records (fun _ _ => rfl) fun _ _ => rfl
  | updateSettings update => exact withCurrent_look records fun _ => rfl
  | validateSettings => exact withCurrent_look records fun _ => kept session _
  | applyLevel =>
      exact withCurrent_look records fun _ => run_look records (fun _ _ => rfl) fun _ _ => rfl
  | count id => exact withRecord_look records fun _ => kept session _
  | audit id choice => exact withRecord_look records fun _ => kept session _
  | publish id choice => exact withRecord_look records fun _ => kept session _
  | _ => rfl

theorem perform_call (held : session.records id = some evaluation) (call : Call) :
    session.perform (.call id call) =
      session.commit id (evaluation.call session.world.wall call) := by
  simp only [perform, withRecord, held]

/-- The record of this name has been told these calls and was fresh before them, when this clock was
on the wall. -/
structure Tells (session : Session) (id : String) (trigger : Trigger) (clock : Option Clock)
    (wall : Clock) (calls : List Call) : Prop where
  held : session.records id = some (.told trigger clock wall calls)
  sound : clock = none → session.world.wall = wall.after (Call.facts calls).length

theorem tells_create (session : Session) (id : String) (trigger : Trigger)
    (clock : Option Clock) :
    (session.perform (.create id trigger clock)).1.Tells id trigger clock session.world.wall
      [] := by
  constructor
  · rw [Evaluation.told_nil]
    exact store_records_self session id _
  · exact fun _ => rfl

theorem Tells.of_same {next : Session} (tells : session.Tells id trigger clock wall calls)
    (records : next.records = session.records) (read : next.world.wall = session.world.wall) :
    next.Tells id trigger clock wall calls := by
  constructor
  · rw [records]
    exact tells.held
  · intro unclocked
    rw [read]
    exact tells.sound unclocked

theorem Tells.perform_call (tells : session.Tells id trigger clock wall calls) (call : Call) :
    (session.perform (.call id call)).1.Tells id trigger clock wall (calls ++ [call]) := by
  obtain ⟨told, read⟩ := Evaluation.call_told tells.sound call
  rw [Session.perform_call tells.held]
  constructor
  · rw [← told]
    exact store_records_self _ id _
  · exact read

theorem Tells.perform_call_other (tells : session.Tells id trigger clock wall calls)
    (different : other ≠ id) (spared : clock.isSome = true ∨ call.stamps = false) :
    (session.perform (.call other call)).1.Tells id trigger clock wall calls := by
  cases found : session.records other with
  | none =>
      have idle : session.perform (.call other call) = session.settle .nothing := by
        simp only [perform, withRecord, found]
      rw [idle]
      exact tells
  | some evaluation =>
      rw [Session.perform_call found]
      constructor
      · exact (store_records_of_ne different _).trans tells.held
      · intro unclocked
        rcases spared with clocked | unstamped
        · rw [unclocked] at clocked
          cases clocked
        · cases call with
          | propose candidate => exact tells.sound unclocked
          | _ => cases unstamped

theorem Tells.perform_replay (tells : session.Tells id trigger clock wall calls)
    (different : other ≠ id) (clocked : clock.isSome = true) (reason : Trigger)
    (candidate : Option Candidate) :
    (session.perform (.replay other reason candidate)).1.Tells id trigger clock wall calls := by
  constructor
  · rw [← tells.held]
    simp only [perform]
    cases session.verdict with
    | none => rfl
    | some verdict =>
        exact run_look (fun session => session.records id) (fun _ _ => rfl) fun written after =>
          store_records_of_ne different written
  · intro unclocked
    rw [unclocked] at clocked
    cases clocked

/-- One operation more. -/
theorem Tells.perform (tells : session.Tells id trigger clock wall calls)
    (spared : operation.Spares id clock.isSome) :
    (session.perform operation).1.Tells id trigger clock wall
      (calls ++ (operation.callOn? id).toList) := by
  cases operation with
  | call other call =>
      by_cases same : other = id
      · subst same
        rw [Operation.callOn?, if_pos rfl]
        exact tells.perform_call call
      · rw [Operation.callOn?, if_neg same, Option.toList_none, List.append_nil]
        exact tells.perform_call_other same (spared.resolve_left same)
  | create other reason own =>
      simp only [Operation.callOn?, Option.toList_none, List.append_nil]
      exact ⟨(store_records_of_ne spared _).trans tells.held, tells.sound⟩
  | replay other reason candidate =>
      simp only [Operation.callOn?, Option.toList_none, List.append_nil]
      exact tells.perform_replay spared.1 spared.2 reason candidate
  | _ =>
      simp only [Operation.callOn?, Option.toList_none, List.append_nil]
      exact tells.of_same (perform_records not_false) (perform_wall (by simp [Operation.writes]))

/-- A run of operations more. -/
theorem Tells.performAll {run : List Operation} (tells : session.Tells id trigger clock wall calls)
    (spared : ∀ operation ∈ run, operation.Spares id clock.isSome) :
    (session.performAll run).1.Tells id trigger clock wall
      (calls ++ run.filterMap (Operation.callOn? id)) := by
  induction run generalizing session calls with
  | nil =>
      rw [List.filterMap_nil, List.append_nil]
      exact tells
  | cons first rest ih =>
      have next := tells.perform (spared first (List.mem_cons_self ..))
      have last := ih next fun operation member => spared operation (List.mem_cons_of_mem _ member)
      have more : (first.callOn? id).toList ++ rest.filterMap (Operation.callOn? id) =
          (first :: rest).filterMap (Operation.callOn? id) := by
        cases made : first.callOn? id <;> simp [made]
      rw [List.append_assoc, more] at last
      exact last

theorem perform_ask (held : session.records id = some evaluation) (query : Query) :
    session.perform (.ask id query) = (session, { answer := answerQuery evaluation query }) := by
  simp only [Session.perform, withRecord, held]

end Session

/-- The questions about the decision of a record. -/
def Query.AboutDecision : Query → Prop
  | .contains _ | .containsOnly _ | .retains _ => True
  | _ => False

theorem Session.answerQuery_congr {evaluation other : Evaluation} {query : Query}
    (about : query.AboutDecision) (same : evaluation.decision = other.decision) :
    answerQuery evaluation query = answerQuery other query := by
  cases query with
  | contains obstacle => simp only [answerQuery, same]
  | containsOnly obstacle => simp only [answerQuery, same]
  | retains grant => simp only [answerQuery, same]
  | _ => cases about

/-- A record that is created in a session, and the run that it then goes through. -/
structure Cycle where
  start : Session
  id : String
  trigger : Trigger
  clock : Option Clock
  run : List Operation
  spared : ∀ operation ∈ run, operation.Spares id clock.isSome

namespace Cycle

variable (cycle : Cycle)

def after : Session :=
  (cycle.start.performAll (.create cycle.id cycle.trigger cycle.clock :: cycle.run)).1

def calls : List Call :=
  cycle.run.filterMap (Operation.callOn? cycle.id)

def facts : List Call :=
  Call.facts cycle.calls

/-- The clock that the record reads, as it is when the record is created. -/
def source : Clock :=
  cycle.clock.getD cycle.start.world.wall

/-- The cycle cut off after this many operations. -/
def upTo (steps : Nat) : Cycle :=
  { cycle with
    run := cycle.run.take steps
    spared := fun operation member => cycle.spared operation (List.mem_of_mem_take member) }

theorem after_tells :
    cycle.after.Tells cycle.id cycle.trigger cycle.clock cycle.start.world.wall cycle.calls := by
  have created := Session.tells_create cycle.start cycle.id cycle.trigger cycle.clock
  exact created.performAll cycle.spared

theorem facts_upTo_prefix (steps : Nat) : (cycle.upTo steps).facts <+: cycle.facts :=
  ((List.take_prefix steps cycle.run).filterMap _).filter _

variable {left right : Cycle}

/-- Cycles of the same facts have the same of them behind them when they have equally many. -/
theorem facts_upTo_eq (same : left.facts = right.facts) {steps otherSteps : Nat}
    (abreast : (left.upTo steps).facts.length = (right.upTo otherSteps).facts.length) :
    (left.upTo steps).facts = (right.upTo otherSteps).facts := by
  have leftBehind := left.facts_upTo_prefix steps
  have rightBehind := right.facts_upTo_prefix otherSteps
  rw [← same] at rightBehind
  have behind := List.prefix_of_prefix_length_le leftBehind rightBehind (Nat.le_of_eq abreast)
  exact behind.eq_of_length abreast

/-- Cycles of the same facts decide alike, and answer every question about their decision alike,
whenever equally many of the facts are behind them. In each of them the trigger is the given one,
the candidate the last one proposed and the time the last one that the clock has returned; the clock
has been read once for each fact and not otherwise. -/
theorem facts_decide_clock_dates :
    (∀ left right : Cycle, left.facts = right.facts → ∀ steps otherSteps,
      let cut := left.upTo steps
      let otherCut := right.upTo otherSteps
      cut.facts.length = otherCut.facts.length →
        ∃ evaluation other, cut.after.records cut.id = some evaluation ∧
          otherCut.after.records otherCut.id = some other ∧
          evaluation.decision = other.decision ∧
          ∀ query, query.AboutDecision →
            (cut.after.perform (.ask cut.id query)).2.answer =
              (otherCut.after.perform (.ask otherCut.id query)).2.answer) ∧
      ∀ cycle : Cycle, ∃ evaluation, cycle.after.records cycle.id = some evaluation ∧
        evaluation.trigger = cycle.trigger ∧
        evaluation.candidate = (cycle.calls.filterMap Call.proposal?).getLast?.join ∧
        evaluation.evaluatedMs = cycle.source.lastReturned cycle.facts.length ∧
        evaluation.clock.isSome = cycle.clock.isSome ∧
        evaluation.source cycle.after.world.wall = cycle.source.after cycle.facts.length := by
  constructor
  · intro left right same steps otherSteps cut otherCut abreast
    have held := cut.after_tells.held
    have otherHeld := otherCut.after_tells.held
    have decided : (Evaluation.told cut.trigger cut.clock cut.start.world.wall
          cut.calls).decision =
        (Evaluation.told otherCut.trigger otherCut.clock otherCut.start.world.wall
          otherCut.calls).decision :=
      congrArg (List.foldl Decision.apply .undecided) (facts_upTo_eq same abreast)
    refine ⟨_, _, held, otherHeld, decided, fun query about => ?_⟩
    rw [Session.perform_ask held, Session.perform_ask otherHeld]
    exact Session.answerQuery_congr about decided
  · intro cycle
    refine ⟨_, cycle.after_tells.held, rfl, rfl, rfl, Option.isSome_map, ?_⟩
    exact Evaluation.source_told cycle.after_tells.sound

/-- Under a clock that fails at the second fact and under the wall clock the same facts decide the
same, and date it differently. -/
theorem facts_decide_clock_dates_past_failure :
    let world : World :=
      { loader := Dotenv.loader, environment := .ofList [], dotenv := "", level := .notset
        wall := .ofReadings (.ok 9) [] }
    let clock := Clock.ofReadings (.ok 5) [.error .stopped]
    let start : Session := { world }
    let run : List Operation :=
      [.call "own" (.permit .normal), .publish "own" .absent, .call "own" (.block .dataDisabled)]
    let otherRun : List Operation :=
      [.call "wall" (.permit .normal), .call "wall" (.propose (some (.text "profile"))),
        .call "wall" (.block .dataDisabled)]
    let after := (start.performAll (.create "own" .newRequest (some clock) :: run)).1
    let otherAfter := (start.performAll (.create "wall" .simLoaded none :: otherRun)).1
    ∃ evaluation other, after.records "own" = some evaluation ∧
      otherAfter.records "wall" = some other ∧
      evaluation.decision = other.decision ∧ evaluation.evaluatedMs = 5 ∧
      other.evaluatedMs = 9 ∧ other.candidate = some (.text "profile") := by
  intro world clock start run otherRun after otherAfter
  let own : Cycle :=
    { start, id := "own", trigger := .newRequest, clock := some clock, run
      spared := by simp [run, Operation.Spares] }
  let onWall : Cycle :=
    { start, id := "wall", trigger := .simLoaded, clock := none, run := otherRun
      spared := by simp [otherRun, Operation.Spares] }
  obtain ⟨decidedAlike, dated⟩ := facts_decide_clock_dates
  obtain ⟨evaluation, other, held, otherHeld, same, _⟩ := decidedAlike own onWall rfl 3 3 rfl
  obtain ⟨_, ownHeld, _, _, time, _⟩ := dated own
  obtain ⟨_, wallHeld, _, candidate, otherTime, _⟩ := dated onWall
  obtain rfl := Option.some_inj.mp (held.symm.trans ownHeld)
  obtain rfl := Option.some_inj.mp (otherHeld.symm.trans wallHeld)
  exact ⟨evaluation, other, held, otherHeld, same, time, otherTime, candidate⟩

end Cycle

end DataGate

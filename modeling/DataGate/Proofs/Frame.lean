import DataGate.Proofs.Loading
import DataGate.Proofs.Publishing
import DataGate.Session

/-!
What the operations of a session leave alone. `Operation.writes` lists the parts of the world that
an operation may write; a view of the world that ignores them is the same after the operation.
Looking for settings does not read the clock or the condition of the counters either, so it does the
same in a world with others.
-/

namespace DataGate

variable {α γ : Type} {view : World → γ}

/-- The fields of a world. -/
inductive World.Part
  | environment
  | dotenv
  | level
  | wall
  | created
  | shared
  | counters
  | broken
  deriving DecidableEq

/-- The view does not look at this part. -/
def World.Ignores (view : World → γ) : World.Part → Prop
  | .environment => ∀ world environment, view { world with environment } = view world
  | .dotenv => ∀ world dotenv, view { world with dotenv } = view world
  | .level => ∀ world level, view { world with level } = view world
  | .wall => ∀ world wall, view { world with wall } = view world
  | .created => ∀ world created, view { world with created } = view world
  | .shared => ∀ world shared, view { world with shared } = view world
  | .counters => ∀ world counters, view { world with counters } = view world
  | .broken => ∀ world broken, view { world with broken } = view world

namespace World

/-- The world with this clock on the wall, and with these counters broken. -/
def fitted (world : World) (wall : Clock) (broken : Counter → Option String) : World :=
  { world with wall, broken }

variable {part : Part}

theorem ignores_environment (other : part ≠ .environment) :
    Ignores World.environment part := by
  cases part with
  | environment => exact absurd rfl other
  | _ => exact fun _ _ => rfl

theorem ignores_level (other : part ≠ .level) : Ignores World.level part := by
  cases part with
  | level => exact absurd rfl other
  | _ => exact fun _ _ => rfl

theorem ignores_wall (other : part ≠ .wall) : Ignores World.wall part := by
  cases part with
  | wall => exact absurd rfl other
  | _ => exact fun _ _ => rfl

theorem ignores_shared (other : part ≠ .shared) : Ignores World.shared part := by
  cases part with
  | shared => exact absurd rfl other
  | _ => exact fun _ _ => rfl

theorem ignores_created (other : part ≠ .created) : Ignores World.created part := by
  cases part with
  | created => exact absurd rfl other
  | _ => exact fun _ _ => rfl

theorem ignores_counters (other : part ≠ .counters) : Ignores World.counters part := by
  cases part with
  | counters => exact absurd rfl other
  | _ => exact fun _ _ => rfl

theorem ignores_loader : Ignores World.loader part := by
  cases part <;> exact fun _ _ => rfl

theorem ignores_broken (other : part ≠ .broken) : Ignores World.broken part := by
  cases part with
  | broken => exact absurd rfl other
  | _ => exact fun _ _ => rfl

end World

namespace Operation

def writes : Operation → List World.Part
  | .call .. | .replay .. => [.wall]
  | .assignVariable .. | .unsetVariable _ => [.environment]
  | .assignDotenv _ => [.dotenv]
  | .loadSettings _ => [.environment, .level, .created]
  | .sharedSettings _ => [.environment, .level, .created, .shared]
  | .resetSettings | .updateSettings _ => [.shared]
  | .makeSettings _ => [.created]
  | .applyLevel => [.level]
  | .count _ => [.counters]
  | .publish .. => [.environment, .level, .created, .shared, .counters]
  | .breakCounter .. | .mendCounter _ => [.broken]
  | .create .. | .ask .. | .takeSnapshot _ | .readSnapshot | .resolve .. | .readVariable _
  | .validateSettings | .audit .. | .samples => []

end Operation

namespace Settings

open Effect

variable {checked : Bool}

theorem keeps_mergeDotenv (environment : World.Ignores view .environment) :
    Keeps view mergeDotenv := by
  intro world
  rcases found : world.loaded with ⟨merged, none | reason⟩
  · rw [mergeDotenv_of_merged found]
    exact environment world merged
  · rw [mergeDotenv_of_refused found]
    exact environment world merged

theorem keeps_load (environment : World.Ignores view .environment)
    (level : World.Ignores view .level) (created : World.Ignores view .created) :
    Keeps view (load checked) := by
  unfold load
  refine (keeps_mergeDotenv environment).bind fun _ => keeps_read.bind fun world => ?_
  refine (keeps_issueAll _).bind fun _ => (keeps_issue _).bind fun _ => ?_
  cases checked with
  | false => exact keeps_instantiate created _
  | true =>
      exact (keeps_validate _).bind fun _ => (keeps_applyLevel level _).bind fun _ =>
        keeps_instantiate created _

theorem keeps_shared (environment : World.Ignores view .environment)
    (level : World.Ignores view .level) (created : World.Ignores view .created)
    (shared : World.Ignores view .shared) : Keeps view (Settings.shared checked) := by
  unfold Settings.shared
  refine keeps_read.bind fun world => ?_
  split
  · exact keeps_pure _
  · refine (keeps_load environment level created).bind fun loaded => ?_
    exact (keeps_modify fun world => shared world _).bind fun _ => keeps_pure _

theorem keeps_reset (shared : World.Ignores view .shared) : Keeps view reset :=
  (keeps_modify fun world => shared world none).bind fun _ => keeps_issue _

theorem load_fitted (checked : Bool) (world : World) (wall : Clock)
    (broken : Counter → Option String) :
    load checked (world.fitted wall broken) =
      { load checked world with world := (load checked world).world.fitted wall broken } := by
  rcases found : world.loaded with ⟨environment, none | reason⟩
  · have foundFitted : (world.fitted wall broken).loaded = (environment, none) := found
    cases checked with
    | false =>
        rw [load_unchecked found, load_unchecked foundFitted]
        rfl
    | true =>
        cases valid : (ofEnvironment environment).isValid with
        | false =>
            rw [load_of_invalid found valid, load_of_invalid foundFitted valid]
            rfl
        | true =>
            obtain ⟨level, named, _⟩ := exists_level_of_isValid valid
            rw [load_of_valid found valid named, load_of_valid foundFitted valid named]
            rfl
  · have foundFitted : (world.fitted wall broken).loaded = (environment, some reason) := found
    rw [load_of_refused found, load_of_refused foundFitted]
    rfl

theorem shared_fitted (checked : Bool) (world : World) (wall : Clock)
    (broken : Counter → Option String) :
    shared checked (world.fitted wall broken) =
      { shared checked world with world := (shared checked world).world.fitted wall broken } := by
  have loaded := load_fitted checked world wall broken
  cases present : world.shared with
  | some current =>
      have presentFitted : (world.fitted wall broken).shared = some current := present
      rw [shared_of_some present, shared_of_some presentFitted]
  | none =>
      have absentFitted : (world.fitted wall broken).shared = none := present
      have same := congrArg Outcome.result loaded
      cases done : (load checked world).result with
      | error fault =>
          rw [shared_of_error present done, shared_of_error absentFitted (same.trans done), loaded]
      | ok instantiated =>
          rw [shared_of_ok present done, shared_of_ok absentFitted (same.trans done), loaded]
          rfl

end Settings

namespace Evaluation

open Effect

variable (evaluation : Evaluation)

theorem keeps_publish (environment : World.Ignores view .environment)
    (level : World.Ignores view .level) (created : World.Ignores view .created)
    (shared : World.Ignores view .shared) (counters : World.Ignores view .counters)
    (settings : Option Settings) : Keeps view (evaluation.publish settings) := by
  cases settings with
  | some settings => exact evaluation.keeps_publishWith counters settings
  | none =>
      exact (Settings.keeps_shared environment level created shared).bind fun current =>
        evaluation.keeps_publishWith counters current.settings

end Evaluation

namespace Session

variable {session : Session} {operation : Operation}

theorem run_of_error {effect : Effect α} {fault : Fault}
    (failed : (effect session.world).result = .error fault)
    (keep : α → Session → Session × Answer) :
    session.run effect keep =
      ({ session with world := (effect session.world).world },
        { answer := .error fault, issued := (effect session.world).issued }) := by
  simp only [run, failed]

theorem run_of_ok {effect : Effect α} {value : α}
    (done : (effect session.world).result = .ok value)
    (keep : α → Session → Session × Answer) :
    session.run effect keep =
      ((keep value { session with world := (effect session.world).world }).1,
        { answer := .ok (keep value { session with world := (effect session.world).world }).2
          issued := (effect session.world).issued }) := by
  simp only [run, done]

theorem run_keepNothing (session : Session) (effect : Effect Unit) :
    session.run effect keepNothing =
      ({ session with world := (effect session.world).world },
        { answer := (effect session.world).result.map fun _ => .nothing
          issued := (effect session.world).issued }) := by
  cases done : (effect session.world).result with
  | error fault =>
      rw [run_of_error done]
      rfl
  | ok value =>
      rw [run_of_ok done]
      rfl

theorem run_world {effect : Effect α} {keep : α → Session → Session × Answer}
    (frame : ∀ value session, (keep value session).1.world = session.world) :
    (session.run effect keep).1.world = (effect session.world).world := by
  cases done : (effect session.world).result with
  | error fault => rw [run_of_error done]
  | ok value =>
      rw [run_of_ok done]
      exact frame value _

theorem run_issued {effect : Effect α} (keep : α → Session → Session × Answer) :
    (session.run effect keep).2.issued = (effect session.world).issued := by
  cases done : (effect session.world).result with
  | error fault => rw [run_of_error done]
  | ok value => rw [run_of_ok done]

theorem run_view {effect : Effect α} {keep : α → Session → Session × Answer}
    (keeps : Effect.Keeps view effect)
    (frame : ∀ value session, (keep value session).1.world = session.world) :
    view (session.run effect keep).1.world = view session.world := by
  rw [run_world frame]
  exact keeps session.world

/-- An effect reaches the world alone, so what else there is to see in a session is up to `keep`. -/
theorem run_look (look : Session → γ) {effect : Effect α}
    {keep : α → Session → Session × Answer}
    (blind : ∀ session world, look { session with world } = look session)
    (frame : ∀ value session, look (keep value session).1 = look session) :
    look (session.run effect keep).1 = look session := by
  cases done : (effect session.world).result with
  | error fault =>
      rw [run_of_error done]
      exact blind session _
  | ok value =>
      rw [run_of_ok done]
      exact (frame value _).trans (blind session _)

theorem withRecord_look (look : Session → γ) {id : String}
    {operate : Evaluation → Session × Response}
    (same : ∀ evaluation, look (operate evaluation).1 = look session) :
    look (session.withRecord id operate).1 = look session := by
  unfold withRecord
  cases session.records id with
  | none => rfl
  | some evaluation => exact same evaluation

theorem withCurrent_look (look : Session → γ) {operate : Instance → Session × Response}
    (same : ∀ current, look (operate current).1 = look session) :
    look (session.withCurrent operate).1 = look session := by
  unfold withCurrent
  split
  · exact same _
  · rfl

theorem withRecord_view {id : String} {operate : Evaluation → Session × Response}
    (same : ∀ evaluation, view (operate evaluation).1.world = view session.world) :
    view (session.withRecord id operate).1.world = view session.world :=
  withRecord_look (fun session => view session.world) same

theorem withCurrent_view {operate : Instance → Session × Response}
    (same : ∀ current, view (operate current).1.world = view session.world) :
    view (session.withCurrent operate).1.world = view session.world :=
  withCurrent_look (fun session => view session.world) same

/-- An operation writes no part of the world that is not listed for it. -/
theorem perform_view (ignores : ∀ part ∈ operation.writes, World.Ignores view part) :
    view (session.perform operation).1.world = view session.world := by
  have blind (part : World.Part) (listed : operation.writes.contains part = true) :
      World.Ignores view part := ignores part (List.contains_iff_mem.mp listed)
  clear ignores
  cases operation with
  | create id trigger clock => rfl
  | call id call => exact withRecord_view fun _ => blind .wall rfl _ _
  | ask id query => exact withRecord_view fun _ => rfl
  | takeSnapshot id => exact withRecord_view fun _ => rfl
  | readSnapshot => rfl
  | resolve obstacles grants => rfl
  | replay id trigger candidate =>
      simp only [perform]
      cases session.verdict with
      | none => rfl
      | some verdict =>
          exact run_view (fun world => blind .wall rfl world _) fun _ _ => rfl
  | assignVariable name value =>
      exact run_view (Settings.keeps_assignVariable (blind .environment rfl) name value)
        fun _ _ => rfl
  | unsetVariable name => exact blind .environment rfl _ _
  | readVariable name => rfl
  | assignDotenv text => exact blind .dotenv rfl _ _
  | loadSettings checked =>
      have keeps : Effect.Keeps view (Settings.load checked) :=
        Settings.keeps_load (blind .environment rfl) (blind .level rfl)
          (blind .created rfl)
      exact run_view keeps fun _ _ => rfl
  | sharedSettings checked =>
      have keeps : Effect.Keeps view (Settings.shared checked) :=
        Settings.keeps_shared (blind .environment rfl) (blind .level rfl)
          (blind .created rfl) (blind .shared rfl)
      exact run_view keeps fun _ _ => rfl
  | resetSettings =>
      exact run_view (Settings.keeps_reset (blind .shared rfl)) fun _ _ => rfl
  | makeSettings settings =>
      exact run_view (Settings.keeps_instantiate (blind .created rfl) settings) fun _ _ => rfl
  | updateSettings update => exact withCurrent_view fun _ => blind .shared rfl _ _
  | validateSettings =>
      exact withCurrent_view fun current =>
        run_view current.settings.keeps_validate fun _ _ => rfl
  | applyLevel =>
      exact withCurrent_view fun current =>
        run_view (current.settings.keeps_applyLevel (blind .level rfl)) fun _ _ => rfl
  | count id =>
      exact withRecord_view fun evaluation =>
        run_view (evaluation.keeps_count (blind .counters rfl)) fun _ _ => rfl
  | audit id choice =>
      exact withRecord_view fun evaluation => run_view (evaluation.keeps_audit _) fun _ _ => rfl
  | publish id choice =>
      have keeps (evaluation : Evaluation) :
          Effect.Keeps view (evaluation.publish (session.choose choice)) :=
        evaluation.keeps_publish (blind .environment rfl) (blind .level rfl)
          (blind .created rfl) (blind .shared rfl)
          (blind .counters rfl) _
      exact withRecord_view fun evaluation => run_view (keeps evaluation) fun _ _ => rfl
  | breakCounter counter complaint => exact blind .broken rfl _ _
  | mendCounter counter => exact blind .broken rfl _ _
  | samples => rfl

theorem perform_wall (unwritten : .wall ∉ operation.writes) :
    (session.perform operation).1.world.wall = session.world.wall :=
  perform_view fun _ listed => World.ignores_wall (ne_of_mem_of_not_mem listed unwritten)

theorem perform_shared (unwritten : .shared ∉ operation.writes) :
    (session.perform operation).1.world.shared = session.world.shared :=
  perform_view fun _ listed => World.ignores_shared (ne_of_mem_of_not_mem listed unwritten)

theorem perform_created (unwritten : .created ∉ operation.writes) :
    (session.perform operation).1.world.created = session.world.created :=
  perform_view fun _ listed => World.ignores_created (ne_of_mem_of_not_mem listed unwritten)

theorem perform_counters (unwritten : .counters ∉ operation.writes) :
    (session.perform operation).1.world.counters = session.world.counters :=
  perform_view fun _ listed => World.ignores_counters (ne_of_mem_of_not_mem listed unwritten)

/-- No operation is about the loader. -/
theorem perform_loader (session : Session) (operation : Operation) :
    (session.perform operation).1.world.loader = session.world.loader :=
  perform_view fun _ _ => World.ignores_loader

theorem perform_broken (unwritten : .broken ∉ operation.writes) :
    (session.perform operation).1.world.broken = session.world.broken :=
  perform_view fun _ listed => World.ignores_broken (ne_of_mem_of_not_mem listed unwritten)

theorem performAll_append (session : Session) (before after : List Operation) :
    (session.performAll (before ++ after)).1 =
      ((session.performAll before).1.performAll after).1 := by
  induction before generalizing session with
  | nil => rfl
  | cons first rest ih => exact ih (session.perform first).1

theorem performAll_concat (session : Session) (operations : List Operation) (last : Operation) :
    (session.performAll (operations ++ [last])).1 =
      ((session.performAll operations).1.perform last).1 :=
  performAll_append session operations [last]

end Session

end DataGate

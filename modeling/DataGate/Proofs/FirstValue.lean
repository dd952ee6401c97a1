import DataGate.Proofs.Conservation
import DataGate.Proofs.SharedInstance

namespace DataGate

variable {γ : Type} {view : World → γ}

/-- What is set in the one environment has the same value in the other. -/
def Environment.Within (environment later : Environment) : Prop :=
  ∀ name value, environment.get? name = some value → later.get? name = some value

/-- The operation sets or unsets a variable of the environment. -/
def Operation.SetsVariable : Operation → Prop
  | .assignVariable _ _ | .unsetVariable _ => True
  | _ => False

namespace Settings

variable {world : World} {checked : Bool} {environment : Environment}

theorem isValid_of_unset (unset : environment.get? levelVariable = none) :
    (ofEnvironment environment).isValid = true := by
  have level : (ofEnvironment environment).logLevel = ({} : Settings).logLevel := by
    change levelOf environment = _
    rw [levelOf, unset]
    decide +kernel
  rw [isValid, level]
  decide

theorem pending?_of_merged (merged : world.loaded.2 = none) :
    pending? world = some (ofEnvironment world.loaded.1) := by
  have found : world.loaded = (world.loaded.1, none) := Prod.ext rfl merged
  rw [pending?, found]

/-- A load fails over the settings themselves only if the level is set in the environment that it
leaves, and to a value that stands for none. -/
theorem level_of_load_invalid {error : SettingsError}
    (failed : (load checked world).result = .error (.settings error)) :
    error = (ofEnvironment world.loaded.1).invalid ∧
      (ofEnvironment world.loaded.1).isValid = false ∧
        ∃ text, world.loaded.1.get? levelVariable = some text := by
  have loads := loadsTo_load checked world
  generalize load checked world = outcome at failed loads
  cases loads with
  | refused found => cases failed
  | unchecked merged => cases failed
  | valid merged valid named => cases failed
  | invalid merged invalid =>
      cases failed
      rw [merged]
      refine ⟨rfl, invalid, Option.ne_none_iff_exists'.mp fun unset => ?_⟩
      rw [isValid_of_unset unset] at invalid
      cases invalid

/-- Whether settings are valid depends on their level, and so does the error if they are not. -/
theorem verdict_of_level {environment later : Environment} {text : String}
    (set : environment.get? levelVariable = some text)
    (within : environment.Within later) :
    (ofEnvironment later).isValid = (ofEnvironment environment).isValid ∧
      (ofEnvironment later).invalid = (ofEnvironment environment).invalid := by
  have same : (ofEnvironment later).logLevel = (ofEnvironment environment).logLevel := by
    change levelOf later = levelOf environment
    rw [levelOf, levelOf, within _ _ set, set]
  unfold isValid invalid
  rw [same]
  exact ⟨rfl, rfl⟩

end Settings

namespace Session

variable {session start : Session} {operation : Operation} {run : List Operation} {checked : Bool}

/-- Whether the operation loads settings, and then whether it checks them. -/
def load? (session : Session) : Operation → Option Bool
  | .loadSettings checked => some checked
  | operation => (session.request? operation).filter fun _ => session.world.shared.isNone

theorem load?_eq_some_iff :
    session.load? operation = some checked ↔
      operation = .loadSettings checked ∨
        session.request? operation = some checked ∧ session.world.shared = none := by
  cases operation with
  | loadSettings other => simp [load?, request?]
  | _ => simp [load?, Option.filter_eq_some_iff]

theorem load?_publish_eq_some_iff {id : String} {choice : SettingsChoice} :
    session.load? (.publish id choice) = some checked ↔
      (∃ evaluation, session.records id = some evaluation) ∧ checked = true ∧
        session.choose choice = none ∧ session.world.shared = none := by
  rw [load?_eq_some_iff, request?_eq_some_iff]
  constructor
  · intro loads
    obtain same | ⟨same | ⟨_, _, evaluation, same, checks, held, unchosen⟩, absent⟩ := loads
    · cases same
    · cases same
    · cases same
      exact ⟨⟨evaluation, held⟩, checks, unchosen, absent⟩
  · intro publishes
    obtain ⟨⟨evaluation, held⟩, checks, unchosen, absent⟩ := publishes
    exact .inr ⟨.inr ⟨id, choice, evaluation, rfl, checks, held, unchosen⟩, absent⟩

theorem perform_view_of_load (counters : World.Ignores view .counters)
    (shared : World.Ignores view .shared) (loads : session.load? operation = some checked) :
    view (session.perform operation).1.world =
      view (Settings.load checked session.world).world := by
  rcases load?_eq_some_iff.mp loads with rfl | ⟨request, absent⟩
  · rw [perform_loadSettings_world]
  · rw [perform_view_of_request counters request, Settings.shared_view_of_none absent shared]

theorem perform_answer_of_load_error {fault : Fault}
    (loads : session.load? operation = some checked)
    (failed : (Settings.load checked session.world).result = .error fault) :
    (session.perform operation).2.answer = .error fault := by
  rcases load?_eq_some_iff.mp loads with rfl | ⟨request, absent⟩
  · exact congrArg (fun outcome => outcome.2.answer) (run_of_error failed adopt)
  · exact perform_answer_of_failed request ((Settings.shared_result_of_none absent).trans failed)

theorem handed?_of_load (loads : session.load? operation = some checked) :
    session.handed? operation = (Settings.load checked session.world).result.toOption := by
  rcases load?_eq_some_iff.mp loads with rfl | ⟨request, absent⟩
  · rfl
  · rw [← served?_of_none request absent]
    rcases request?_eq_some_iff.mp request with rfl | ⟨id, choice, evaluation, rfl, _⟩
    · rfl
    · rfl

theorem perform_environment_of_load (loads : session.load? operation = some checked) :
    (session.perform operation).1.world.environment =
      session.world.loaded.1 := by
  rw [perform_view_of_load (World.ignores_environment nofun) (World.ignores_environment nofun)
    loads]
  exact (Settings.loadsTo_load checked session.world).environment_eq

/-- Short of loading settings, an operation that may load them changes at most the counters. -/
theorem perform_view_of_unloaded (counters : World.Ignores view .counters)
    (unloaded : session.load? operation = none)
    (others : session.request? operation = none → (∀ id choice, operation ≠ .publish id choice) →
      ∀ part ∈ operation.writes, World.Ignores view part) :
    view (session.perform operation).1.world = view session.world := by
  cases request : session.request? operation with
  | some checked =>
      have present : session.world.shared ≠ none := fun absent => by
        have loads := load?_eq_some_iff.mpr (Or.inr ⟨request, absent⟩)
        rw [unloaded] at loads
        cases loads
      obtain ⟨current, found⟩ := Option.ne_none_iff_exists'.mp present
      rw [perform_view_of_request counters request, Settings.shared_of_some found]
  | none =>
      by_cases publishes : ∃ id choice, operation = .publish id choice
      · obtain ⟨id, choice, rfl⟩ := publishes
        exact perform_publish_view_of_unrequested counters request
      · exact perform_view (others request fun id choice same => publishes ⟨id, choice, same⟩)

theorem perform_environment_of_unloaded (unset : ¬ operation.SetsVariable)
    (unloaded : session.load? operation = none) :
    (session.perform operation).1.world.environment = session.world.environment := by
  refine perform_view_of_unloaded (World.ignores_environment nofun) unloaded
    fun request publishes part listed => World.ignores_environment ?_
  rintro rfl
  cases operation with
  | loadSettings checked => cases unloaded
  | sharedSettings checked => cases request
  | assignVariable name value => exact unset trivial
  | unsetVariable name => exact unset trivial
  | publish id choice => exact publishes id choice rfl
  | _ => simp [Operation.writes] at listed

/-- What a variable is to the operation, if it loads settings. -/
def seen? (name : String) (session : Session) (operation : Operation) : Option String :=
  (session.load? operation).bind fun _ => session.world.loaded.1.get? name

/-- The value that the file defines for a variable, if the operation loads settings. -/
def defined? (name : String) (session : Session) (operation : Operation) : Option String :=
  (session.load? operation).bind fun _ => session.world.defined? name

/-- What the environment of a load has of a variable beyond the environment before it, the operation
adds to that environment if it loads settings. -/
theorem get?_perform_of_loaded (unset : ¬ operation.SetsVariable) {name : String}
    {found : Option String}
    (loaded : ∀ checked, session.load? operation = some checked →
      session.world.loaded.1.get? name = (session.world.environment.get? name).or found) :
    (session.perform operation).1.world.environment.get? name =
      (session.world.environment.get? name).or
        ((session.load? operation).bind fun _ => found) := by
  cases loads : session.load? operation with
  | none =>
      rw [perform_environment_of_unloaded unset loads, Option.bind_none, Option.or_none]
  | some checked =>
      rw [perform_environment_of_load loads, Option.bind_some]
      exact loaded checked loads

/-- A load leaves what is set as it is. -/
theorem get?_perform (unset : ¬ operation.SetsVariable) (name : String) :
    (session.perform operation).1.world.environment.get? name =
      (session.world.environment.get? name).or (session.seen? name operation) := by
  refine get?_perform_of_loaded unset fun checked loads => ?_
  cases set : session.world.environment.get? name with
  | none => rfl
  | some value => exact session.world.loader.keeps set

theorem get?_perform_of_merged (unset : ¬ operation.SetsVariable)
    (merges : ∀ checked, session.load? operation = some checked → session.world.loaded.2 = none)
    (name : String) :
    (session.perform operation).1.world.environment.get? name =
      (session.world.environment.get? name).or (session.defined? name operation) :=
  get?_perform_of_loaded unset fun checked loads => Loader.get?_load (merges checked loads) name

/-- If each operation of a run adds to a variable that is not set what it offers, then the run adds
what is offered first. -/
theorem get?_performAll_of_steps {name : String} {offer? : Session → Operation → Option String}
    (steps : ∀ before operation after, run = before ++ operation :: after →
      let session := (start.performAll before).1
      (session.perform operation).1.world.environment.get? name =
        (session.world.environment.get? name).or (offer? session operation)) :
    (start.performAll run).1.world.environment.get? name =
      (start.world.environment.get? name).or (start.observed offer? run).head? := by
  induction run generalizing start with
  | nil => exact (Option.or_none).symm
  | cons first rest ih =>
      let next := (start.perform first).1
      have now : next.world.environment.get? name =
          (start.world.environment.get? name).or (offer? start first) := steps [] first rest rfl
      calc (next.performAll rest).1.world.environment.get? name
        _ = (next.world.environment.get? name).or (next.observed offer? rest).head? :=
            ih fun before operation after split =>
              steps (first :: before) operation after (by rw [split, List.cons_append])
        _ = (start.world.environment.get? name).or
              ((offer? start first).or (next.observed offer? rest).head?) := by
            rw [now, Option.or_assoc]
        _ = (start.world.environment.get? name).or
              (start.observed offer? (first :: rest)).head? := by
            rw [observed, List.head?_append, Option.head?_toList]

/-- Each variable at its value at the start, or else at the first that a load of the run has found
it to have. -/
def firstValues (start : Session) (run : List Operation) : Environment where
  get? name := (start.world.environment.get? name).or (start.observed (seen? name) run).head?

theorem get?_firstValues (start : Session) (run : List Operation) (name : String) :
    (start.firstValues run).get? name =
      (start.world.environment.get? name).or (start.observed (seen? name) run).head? :=
  rfl

theorem environment_performAll (unset : ∀ operation ∈ run, ¬ operation.SetsVariable) :
    (start.performAll run).1.world.environment = start.firstValues run := by
  ext1 name
  refine get?_performAll_of_steps fun before operation after split => ?_
  exact get?_perform (unset operation (by simp [split])) name

/-- Every load of the run gets to the end of its file: it is refused no variable. -/
def LoadsFiles (start : Session) (run : List Operation) : Prop :=
  ∀ before operation after, run = before ++ operation :: after →
    ∀ checked, (start.performAll before).1.load? operation = some checked →
      (start.performAll before).1.world.loaded.2 = none

theorem get?_firstValues_of_loadsFiles (unset : ∀ operation ∈ run, ¬ operation.SetsVariable)
    (loads : start.LoadsFiles run) (name : String) :
    (start.firstValues run).get? name =
      (start.world.environment.get? name).or (start.observed (defined? name) run).head? := by
  rw [← environment_performAll unset]
  refine get?_performAll_of_steps fun before operation after split => ?_
  exact get?_perform_of_merged (unset operation (by simp [split]))
    (loads before operation after split) name

theorem performAll_loader (start : Session) (run : List Operation) :
    (start.performAll run).1.world.loader = start.world.loader := by
  induction run generalizing start with
  | nil => rfl
  | cons first rest ih => exact (ih _).trans (perform_loader start first)

theorem environment_within_performAll (unset : ∀ operation ∈ run, ¬ operation.SetsVariable) :
    start.world.environment.Within (start.performAll run).1.world.environment := by
  intro name value set
  rw [environment_performAll unset, get?_firstValues, set, Option.some_or]

theorem not_setsVariable_of_load (loads : session.load? operation = some checked) :
    ¬ operation.SetsVariable := by
  rcases load?_eq_some_iff.mp loads with rfl | ⟨request, _⟩
  · exact not_false
  · rcases request?_eq_some_iff.mp request with rfl | ⟨id, choice, evaluation, rfl, _⟩
    · exact not_false
    · exact not_false

/-- The operation loads these settings, which are read off this environment, and leaves the
environment behind. Unless the load is refused a variable, it obtains an instance of the settings,
or fails because it checks them and their level is not valid. -/
structure Reads (session : Session) (operation : Operation) (checked : Bool)
    (seen : Environment) (settings : Settings) : Prop where
  within : session.world.environment.Within seen
  environment : (session.perform operation).1.world.environment = seen
  read : settings.ReadFrom seen
  refused : ∀ reason, session.world.loaded.2 = some reason →
    (session.perform operation).2.answer = .error (.environment reason)
  invalid : session.world.loaded.2 = none → checked = true →
    settings.logLevel ∉ Settings.validLevels →
      (session.perform operation).2.answer = .error (.settings settings.invalid) ∧
        settings.invalid.code = "DEV-040"
  obtained : session.world.loaded.2 = none →
    (checked = true → settings.logLevel ∈ Settings.validLevels) →
      session.handed? operation = some { serial := session.world.created, settings }

theorem perform_answer_of_load_refused {reason : VariableError}
    (loads : session.load? operation = some checked)
    (refused : session.world.loaded.2 = some reason) :
    (session.perform operation).2.answer = .error (.environment reason) := by
  have found : session.world.loaded = (session.world.loaded.1, some reason) := Prod.ext rfl refused
  refine perform_answer_of_load_error loads ?_
  rw [Settings.load_of_refused found]

theorem reads_of_load (loads : session.load? operation = some checked) :
    session.Reads operation checked (session.perform operation).1.world.environment
      (.ofEnvironment session.world.loaded.1) := by
  rw [perform_environment_of_load loads]
  constructor
  · exact fun name value set => session.world.loader.keeps set
  · exact perform_environment_of_load loads
  · exact Settings.readFrom_ofEnvironment _
  · exact fun reason => perform_answer_of_load_refused loads
  · rintro merged rfl invalid
    refine ⟨perform_answer_of_load_error loads ?_, rfl⟩
    exact Settings.load_result_of_invalid (Settings.pending?_of_merged merged)
      (Bool.eq_false_iff.mpr (mt Settings.isValid_iff.mp invalid))
  · intro merged accepted
    rw [handed?_of_load loads, Settings.load_result_of_pending checked
      (Settings.pending?_of_merged merged) fun checks => Settings.isValid_iff.mpr (accepted checks)]
    rfl

/-- A load that checks fails as this earlier one has failed, if it is refused no variable. -/
theorem fails_again {failing : Operation} {error : SettingsError}
    (unset : ∀ operation ∈ run, ¬ operation.SetsVariable)
    (loads : start.load? failing = some true)
    (failed : (Settings.load true start.world).result = .error (.settings error)) :
    let session := ((start.perform failing).1.performAll run).1
    session.load? operation = some true → session.world.loaded.2 = none →
      (session.perform operation).2.answer = .error (.settings error) := by
  intro session again merged
  obtain ⟨rfl, invalid, text, set⟩ := Settings.level_of_load_invalid failed
  -- The failed load left the level behind, and nothing on the way to this one has changed it.
  have within : start.world.loaded.1.Within session.world.loaded.1 := by
    rw [← perform_environment_of_load loads]
    exact fun name value present =>
      session.world.loader.keeps (environment_within_performAll unset name value present)
  obtain ⟨sameValid, sameError⟩ := Settings.verdict_of_level set within
  rw [← sameError]
  exact perform_answer_of_load_error again
    (Settings.load_result_of_invalid (Settings.pending?_of_merged merged)
      (sameValid.trans invalid))

/-- As long as nobody sets a variable, the environment keeps what it has, and each variable has its
value at the start or else the first that a load has found, which is what the first file defines
that is loaded with it, if files are loaded to their ends. A load reads the settings off that.
Settings that a load has refused are refused again, whatever the file says by then. -/
theorem first_value_sticks (start : Session) (run : List Operation)
    (unset : ∀ operation ∈ run, ¬ operation.SetsVariable) :
    let session := (start.performAll run).1
    session.world.loader = start.world.loader ∧
      session.world.environment = start.firstValues run ∧
      (∀ before after, run = before ++ after →
        (start.performAll before).1.world.environment.Within session.world.environment) ∧
      (∀ operation checked, session.load? operation = some checked →
        (∃ settings,
          session.Reads operation checked (start.firstValues (run ++ [operation])) settings) ∧
          (start.LoadsFiles (run ++ [operation]) → ∀ name,
            (start.firstValues (run ++ [operation])).get? name =
              (start.world.environment.get? name).or
                (start.observed (defined? name) (run ++ [operation])).head?)) ∧
      ∀ before failing after error, run = before ++ failing :: after →
        (start.performAll before).1.load? failing = some true →
        (Settings.load true (start.performAll before).1.world).result =
            .error (.settings error) →
          error.code = "DEV-040" ∧
            ∀ operation, session.load? operation = some true → session.world.loaded.2 = none →
              (session.perform operation).2.answer = .error (.settings error) := by
  intro session
  refine ⟨performAll_loader start run, environment_performAll unset, ?_, ?_, ?_⟩
  · rintro before after rfl
    have split : session = ((start.performAll before).1.performAll after).1 :=
      performAll_append start before after
    rw [split]
    exact environment_within_performAll (List.forall_mem_append.mp unset).2
  · intro operation checked loads
    have unsetBoth : ∀ other ∈ run ++ [operation], ¬ other.SetsVariable :=
      List.forall_mem_append.mpr
        ⟨unset, List.forall_mem_singleton.mpr (not_setsVariable_of_load loads)⟩
    refine ⟨?_, fun reads name => get?_firstValues_of_loadsFiles unsetBoth reads name⟩
    rw [← environment_performAll unsetBoth, performAll_concat]
    exact ⟨_, reads_of_load loads⟩
  · rintro before failing after error rfl loads failed
    refine ⟨(Settings.loadsTo_load true _).code_eq failed, fun operation again merged => ?_⟩
    have split : session =
        (((start.performAll before).1.perform failing).1.performAll after).1 :=
      performAll_append start before (failing :: after)
    have unsetAfter := (List.forall_mem_cons.mp (List.forall_mem_append.mp unset).2).2
    rw [split] at again merged ⊢
    exact fails_again unsetAfter loads failed again merged

/-- A level that is refused from one file is refused again after a reset, although the file names
another level by then. -/
theorem first_value_sticks_past_correction :
    let start := ofBindings []
    let run := [.assignDotenv "DATA_EVAL_LOG_LEVEL=verbose\n", .loadSettings true,
      .assignDotenv "DATA_EVAL_LOG_LEVEL=INFO\n", .resetSettings]
    let session := (start.performAll run).1
    session.world.dotenv = "DATA_EVAL_LOG_LEVEL=INFO\n" ∧
      (session.perform (.sharedSettings true)).2.answer =
        .error (.settings ({ logLevel := "VERBOSE" } : Settings).invalid) := by
  intro start run session
  have unset : ∀ operation ∈ run, ¬ operation.SetsVariable := by
    simp [run, Operation.SetsVariable]
  obtain ⟨_, _, _, _, refusedAgain⟩ := first_value_sticks start run unset
  obtain ⟨_, again⟩ :=
    refusedAgain (run.take 1) (.loadSettings true) (run.drop 2)
      ({ logLevel := "VERBOSE" } : Settings).invalid rfl rfl (by decide +kernel)
  have corrected : session.world.dotenv = "DATA_EVAL_LOG_LEVEL=INFO\n" := by decide +kernel
  have loads : session.load? (.sharedSettings true) = some true := by decide +kernel
  have merged : session.world.loaded.2 = none := by decide +kernel
  have failed := again (.sharedSettings true) loads merged
  exact ⟨corrected, failed⟩

end Session

end DataGate

import DataGate.Proofs.FirstValue

namespace DataGate

namespace Log.Level

/-- The names of a level: its own, and for two of them a second one. -/
def IsNamed (level : Level) (name : String) : Prop :=
  name = level.name ∨ name = "WARN" ∧ level = .warning ∨ name = "FATAL" ∧ level = .critical

theorem ofName?_eq_some_iff {level : Level} {name : String} :
    ofName? name = some level ↔ level.IsNamed name := by
  constructor
  · intro found
    obtain ⟨before, after, split, _⟩ := List.lookup_eq_some_iff.mp found
    have member : (name, level) ∈ names := by simp [split]
    simp only [names, List.mem_cons, Prod.mk.injEq, List.not_mem_nil, or_false] at member
    rcases member with ⟨rfl, rfl⟩ | ⟨rfl, rfl⟩ | ⟨rfl, rfl⟩ | ⟨rfl, rfl⟩ | ⟨rfl, rfl⟩ | ⟨rfl, rfl⟩ |
      ⟨rfl, rfl⟩ | ⟨rfl, rfl⟩
    case inr.inr.inr.inl => exact .inr (.inl ⟨rfl, rfl⟩)
    case inr.inr.inr.inr.inr.inr.inl => exact .inr (.inr ⟨rfl, rfl⟩)
    all_goals exact .inl rfl
  · rintro (rfl | ⟨rfl, rfl⟩ | ⟨rfl, rfl⟩)
    · cases level <;> rfl
    · rfl
    · rfl

end Log.Level

namespace Settings

variable {settings : Settings} {world : World} {checked : Bool} {loaded : Instance}
  {outcome : Outcome Instance}

/-- The level of the log that the settings name, if they name one. -/
def level? (settings : Settings) : Option Log.Level :=
  Log.Level.ofName? settings.logLevel

theorem level?_eq_some_iff {level : Log.Level} :
    settings.level? = some level ↔ level.IsNamed settings.logLevel :=
  Log.Level.ofName?_eq_some_iff

theorem applyLevel_of_named {level : Log.Level} (named : settings.level? = some level) :
    settings.applyLevel world = { result := .ok (), world := { world with level } } := by
  simp only [level?] at named
  simp only [applyLevel, named]
  rfl

theorem applyLevel_of_unnamed (unnamed : settings.level? = none) :
    settings.applyLevel world =
      { result := .error (.unknownLevel settings.logLevel), world } := by
  simp only [level?] at unnamed
  simp only [applyLevel, unnamed]
  rfl

theorem LoadsTo.level_of_ok (loads : LoadsTo world true outcome)
    (done : outcome.result = .ok loaded) :
    loaded.settings.level? = some outcome.world.level := by
  cases loads with
  | refused found => cases done
  | invalid merged invalid => cases done
  | valid merged valid named =>
      cases done
      exact named

theorem LoadsTo.level_of_error {fault : Fault} (loads : LoadsTo world checked outcome)
    (failed : outcome.result = .error fault) : outcome.world.level = world.level := by
  cases loads with
  | refused found => rfl
  | invalid merged invalid => rfl
  | unchecked merged => cases failed
  | valid merged valid named => cases failed

theorem LoadsTo.level_of_unchecked (loads : LoadsTo world false outcome) :
    outcome.world.level = world.level := by
  cases loads <;> rfl

end Settings

namespace Session

variable {session start : Session} {operation : Operation} {run : List Operation} {checked : Bool}
  {settings : Settings} {current loaded : Instance} {level : Log.Level} {fault : Fault}

/-- The settings that the operation obtains from a load that checks them. -/
def loadedChecked? (session : Session) (operation : Operation) : Option Settings :=
  if session.load? operation = some true then
    (Settings.load true session.world).result.toOption.map Instance.settings
  else none

/-- The caller's own settings, if the operation is to apply their level. -/
def applied? (session : Session) : Operation → Option Settings
  | .applyLevel => session.current.map Instance.settings
  | _ => none

/-- The level that the operation gives to the log, if it gives it one. -/
def given? (session : Session) (operation : Operation) : Option Log.Level :=
  ((session.loadedChecked? operation).or (session.applied? operation)).bind Settings.level?

theorem perform_level_of_load (loads : session.load? operation = some checked) :
    (session.perform operation).1.world.level =
      (Settings.load checked session.world).world.level :=
  perform_view_of_load (World.ignores_level nofun) (World.ignores_level nofun) loads

theorem perform_level_of_loaded (loads : session.load? operation = some true)
    (done : (Settings.load true session.world).result = .ok loaded) :
    loaded.settings.level? = some (session.perform operation).1.world.level := by
  rw [perform_level_of_load loads]
  exact (Settings.loadsTo_load true session.world).level_of_ok done

theorem perform_level_of_load_error (loads : session.load? operation = some checked)
    (failed : (Settings.load checked session.world).result = .error fault) :
    (session.perform operation).1.world.level = session.world.level := by
  rw [perform_level_of_load loads]
  exact (Settings.loadsTo_load checked session.world).level_of_error failed

theorem perform_level_of_unchecked (loads : session.load? operation = some false) :
    (session.perform operation).1.world.level = session.world.level := by
  rw [perform_level_of_load loads]
  exact (Settings.loadsTo_load false session.world).level_of_unchecked

theorem perform_level_of_unloaded (unloaded : session.load? operation = none)
    (unapplied : operation ≠ .applyLevel) :
    (session.perform operation).1.world.level = session.world.level := by
  refine perform_view_of_unloaded (World.ignores_level nofun) unloaded
    fun request publishes part listed => World.ignores_level ?_
  rintro rfl
  cases operation with
  | loadSettings checked => cases unloaded
  | sharedSettings checked => cases request
  | applyLevel => exact unapplied rfl
  | publish id choice => exact publishes id choice rfl
  | _ => simp [Operation.writes] at listed

theorem perform_applyLevel_of_absent (absent : session.current = none) :
    session.perform .applyLevel = session.settle .nothing := by
  simp only [perform, withCurrent, absent]

theorem perform_applyLevel_of_named (held : session.current = some current)
    (named : current.settings.level? = some level) :
    session.perform .applyLevel =
      ({ session with world := { session.world with level } },
        { answer := .ok (.level level) }) := by
  simp only [perform, withCurrent, held, run, Settings.applyLevel_of_named named]

theorem perform_applyLevel_of_unnamed (held : session.current = some current)
    (unnamed : current.settings.level? = none) :
    session.perform .applyLevel =
      (session, { answer := .error (.unknownLevel current.settings.logLevel) }) := by
  have failed : current.settings.applyLevel session.world = _ :=
    Settings.applyLevel_of_unnamed unnamed
  simp only [perform, withCurrent, held]
  rw [run_of_error (congrArg Outcome.result failed), failed]

theorem applied?_of_load (loads : session.load? operation = some checked) :
    session.applied? operation = none := by
  cases operation with
  | applyLevel => cases loads
  | _ => rfl

theorem given?_of_load (loads : session.load? operation = some checked) :
    session.given? operation = (session.loadedChecked? operation).bind Settings.level? := by
  rw [given?, applied?_of_load loads, Option.or_none]

theorem given?_of_unloaded (unloaded : session.load? operation = none)
    (unapplied : operation ≠ .applyLevel) : session.given? operation = none := by
  have absent : session.applied? operation = none := by
    cases operation with
    | applyLevel => exact absurd rfl unapplied
    | _ => rfl
  simp [given?, loadedChecked?, unloaded, absent]

theorem perform_level_of_loads (loads : session.load? operation = some checked) :
    (session.perform operation).1.world.level =
      (session.given? operation).getD session.world.level := by
  rw [given?_of_load loads, loadedChecked?, loads]
  cases checked with
  | false => exact perform_level_of_unchecked loads
  | true =>
      rw [if_pos rfl]
      cases done : (Settings.load true session.world).result with
      | error fault => exact perform_level_of_load_error loads done
      | ok loaded =>
          have named := perform_level_of_loaded loads done
          exact (congrArg (Option.getD · session.world.level) named).symm

theorem perform_level_of_applyLevel (session : Session) :
    (session.perform .applyLevel).1.world.level =
      (session.given? .applyLevel).getD session.world.level := by
  cases held : session.current with
  | none =>
      rw [perform_applyLevel_of_absent held]
      simp [given?, loadedChecked?, load?, request?, applied?, held, settle]
  | some current =>
      have given : session.given? .applyLevel = current.settings.level? := by
        simp [given?, loadedChecked?, load?, request?, applied?, held]
      rw [given]
      cases named : current.settings.level? with
      | none => rw [perform_applyLevel_of_unnamed held named, Option.getD_none]
      | some level => rw [perform_applyLevel_of_named held named, Option.getD_some]

/-- An operation gives the log a level or leaves it as it is. -/
theorem perform_level (session : Session) (operation : Operation) :
    (session.perform operation).1.world.level =
      (session.given? operation).getD session.world.level := by
  cases loads : session.load? operation with
  | some checked => exact perform_level_of_loads loads
  | none =>
      by_cases applies : operation = .applyLevel
      · subst applies
        exact perform_level_of_applyLevel session
      · rw [given?_of_unloaded loads applies]
        exact perform_level_of_unloaded loads applies

theorem performAll_level (start : Session) (run : List Operation) :
    (start.performAll run).1.world.level =
      (start.observed given? run).getLast?.getD start.world.level := by
  induction run generalizing start with
  | nil => rfl
  | cons first rest ih =>
      let next := (start.perform first).1
      calc (next.performAll rest).1.world.level
        _ = (next.observed given? rest).getLast?.getD next.world.level := ih next
        _ = (next.observed given? rest).getLast?.getD
              ((start.given? first).getD start.world.level) := by rw [perform_level]
        _ = (start.observed given? (first :: rest)).getLast?.getD start.world.level := by
            rw [observed, List.getLast?_append]
            cases (next.observed given? rest).getLast? <;> cases start.given? first <;> rfl

theorem applyLevel_answer_iff :
    (session.perform .applyLevel).2.answer = .ok (.level level) ↔
      ∃ current, session.current = some current ∧
        level.IsNamed current.settings.logLevel := by
  simp only [← Settings.level?_eq_some_iff]
  cases held : session.current with
  | none =>
      rw [perform_applyLevel_of_absent held]
      simp [settle]
  | some current =>
      cases named : current.settings.level? with
      | none =>
          rw [perform_applyLevel_of_unnamed held named]
          simp [named]
      | some other =>
          rw [perform_applyLevel_of_named held named]
          simp [named]

/-- A level is given by a load that checks and succeeds, and by applying a level that there is. -/
theorem given?_eq_some_iff :
    session.given? operation = some level ↔
      (∃ loaded, session.load? operation = some true ∧
        (Settings.load true session.world).result = .ok loaded ∧
        level.IsNamed loaded.settings.logLevel) ∨
      operation = .applyLevel ∧ (session.perform operation).2.answer = .ok (.level level) := by
  simp only [← Settings.level?_eq_some_iff]
  cases loads : session.load? operation with
  | some checked =>
      have unapplied : operation ≠ .applyLevel := by
        rintro rfl
        cases loads
      rw [given?_of_load loads, loadedChecked?, loads]
      cases checked with
      | false => simp [unapplied]
      | true =>
          cases done : (Settings.load true session.world).result with
          | error fault => simp [unapplied, Except.toOption]
          | ok loaded => simp [unapplied, Except.toOption]
  | none =>
      by_cases applies : operation = .applyLevel
      · subst applies
        rw [applyLevel_answer_iff]
        simp [given?, loadedChecked?, loads, applied?, Option.bind_eq_some_iff,
          Settings.level?_eq_some_iff]
      · rw [given?_of_unloaded loads applies]
        simp [applies]

theorem exists_given_of_level_ne
    (changed : (session.perform operation).1.world.level ≠ session.world.level) :
    ∃ level, session.given? operation = some level := by
  rw [perform_level] at changed
  cases given : session.given? operation with
  | none =>
      rw [given] at changed
      exact absurd rfl changed
  | some level => exact ⟨level, rfl⟩

theorem perform_publish_answer_of_loaded {id : String} {choice : SettingsChoice}
    {evaluation : Evaluation} (held : session.records id = some evaluation)
    (unchosen : session.choose choice = none) (absent : session.world.shared = none)
    (done : (Settings.load true session.world).result = .ok loaded) :
    (session.perform (.publish id choice)).2.answer =
      ((evaluation.notices loaded.settings).map fun _ => .nothing).mapError .time := by
  have found : (Settings.obtained none session.world).result = .ok loaded.settings := by
    rw [Settings.obtained_none, Settings.shared_result_of_none absent, done]
    rfl
  rw [perform_publish held, unchosen, run_keepNothing, evaluation.publish_of_ok found]
  cases evaluation.notices loaded.settings <;> rfl

/-- After its load, only a publication can still fail, and only over its time. -/
theorem exists_publish_of_loaded (loads : session.load? operation = some true)
    (done : (Settings.load true session.world).result = .ok loaded)
    (failed : (session.perform operation).2.answer = .error fault) :
    ∃ id choice reason, operation = .publish id choice ∧ fault = .time reason := by
  rcases load?_eq_some_iff.mp loads with rfl | ⟨request, absent⟩
  · rw [perform, run_of_ok done] at failed
    cases failed
  · have found := (Settings.shared_result_of_none absent).trans done
    rcases request?_eq_some_iff.mp request with
      rfl | ⟨id, choice, evaluation, rfl, _, held, unchosen⟩
    · rw [perform, run_of_ok found] at failed
      cases failed
    · rw [perform_publish_answer_of_loaded held unchosen absent done] at failed
      cases noted : evaluation.notices loaded.settings with
      | ok notices =>
          rw [noted] at failed
          cases failed
      | error reason =>
          rw [noted] at failed
          cases failed
          exact ⟨id, choice, reason, rfl, rfl⟩

theorem perform_publish_answer_of_unrendered {id : String} {choice : SettingsChoice}
    {evaluation : Evaluation} {reason : TimeError}
    (held : session.records id = some evaluation)
    (loads : session.load? (.publish id choice) = some true)
    (done : (Settings.load true session.world).result = .ok loaded)
    (unrendered : EvaluationTime.render evaluation.evaluatedMs loaded.settings.zone =
      .error reason) :
    (session.perform (.publish id choice)).2.answer = .error (.time reason) := by
  obtain ⟨_, _, unchosen, absent⟩ := load?_publish_eq_some_iff.mp loads
  have noted : evaluation.notices loaded.settings = .error reason := by
    simp only [Evaluation.notices, Evaluation.report, unrendered]
    rfl
  rw [perform_publish_answer_of_loaded held unchosen absent done, noted]
  rfl

/-- How an operation deals with the level of the log. A load that checks gives it the level of the
settings that it returns, and applying a level gives it the one that is applied; these two are all
that change it. What fails before that point, an unchecked load, a request for an instance that is
already shared and a check of settings leave it as it is. An operation that fails later is a
publication that loaded its settings and then could not display the time. -/
structure SetsLevel (session : Session) (operation : Operation) : Prop where
  loaded : ∀ loaded, session.load? operation = some true →
    (Settings.load true session.world).result = .ok loaded →
      (session.perform operation).1.world.level.IsNamed loaded.settings.logLevel
  applied : ∀ level, operation = .applyLevel →
    (session.perform operation).2.answer = .ok (.level level) →
      (session.perform operation).1.world.level = level ∧
        ∃ current, session.current = some current ∧ level.IsNamed current.settings.logLevel
  changed : (session.perform operation).1.world.level ≠ session.world.level →
    (session.load? operation = some true ∧
        ∃ loaded, (Settings.load true session.world).result = .ok loaded) ∨
      operation = .applyLevel ∧
        ∃ level, (session.perform operation).2.answer = .ok (.level level)
  unloaded : ∀ checked fault, session.load? operation = some checked →
    (Settings.load checked session.world).result = .error fault →
      (session.perform operation).1.world.level = session.world.level
  unchecked : session.load? operation = some false →
    (session.perform operation).1.world.level = session.world.level
  served : ∀ checked current, session.request? operation = some checked →
    session.world.shared = some current →
      (session.perform operation).1.world.level = session.world.level
  validated : operation = .validateSettings →
    (session.perform operation).1.world.level = session.world.level
  failed : ∀ fault, (session.perform operation).2.answer = .error fault →
    (session.perform operation).1.world.level = session.world.level ∨
      ∃ id choice reason, operation = .publish id choice ∧ session.load? operation = some true ∧
        fault = .time reason
  unrendered : ∀ id choice evaluation loaded reason, operation = .publish id choice →
    session.records id = some evaluation → session.load? operation = some true →
    (Settings.load true session.world).result = .ok loaded →
    EvaluationTime.render evaluation.evaluatedMs loaded.settings.zone = .error reason →
      (session.perform operation).2.answer = .error (.time reason) ∧
        (session.perform operation).1.world.level.IsNamed loaded.settings.logLevel

theorem setsLevel (session : Session) (operation : Operation) : session.SetsLevel operation where
  loaded _ loads done := Settings.level?_eq_some_iff.mp (perform_level_of_loaded loads done)
  applied level applies answered := by
    subst applies
    obtain ⟨current, held, named⟩ := applyLevel_answer_iff.mp answered
    rw [perform_applyLevel_of_named held (Settings.level?_eq_some_iff.mpr named)]
    exact ⟨rfl, current, held, named⟩
  changed changed := by
    obtain ⟨level, given⟩ := exists_given_of_level_ne changed
    rcases given?_eq_some_iff.mp given with ⟨loaded, loads, done, _⟩ | ⟨applies, answered⟩
    · exact .inl ⟨loads, loaded, done⟩
    · exact .inr ⟨applies, level, answered⟩
  unloaded _ _ loads failed := perform_level_of_load_error loads failed
  unchecked loads := perform_level_of_unchecked loads
  served _ _ request present := (servesInForce_of_shared request present).level
  validated validates := by
    subst validates
    exact perform_level_of_unloaded rfl nofun
  failed fault failed := by
    by_cases same : (session.perform operation).1.world.level = session.world.level
    · exact .inl same
    · obtain ⟨level, given⟩ := exists_given_of_level_ne same
      rcases given?_eq_some_iff.mp given with ⟨loaded, loads, done, _⟩ | ⟨_, answered⟩
      · obtain ⟨id, choice, reason, publishes, late⟩ := exists_publish_of_loaded loads done failed
        exact .inr ⟨id, choice, reason, publishes, loads, late⟩
      · rw [answered] at failed
        cases failed
  unrendered _ _ _ _ _ publishes held loads done unrendered := by
    subst publishes
    exact ⟨perform_publish_answer_of_unrendered held loads done unrendered,
      Settings.level?_eq_some_iff.mp (perform_level_of_loaded loads done)⟩

/-- In any run of operations the level of the log is the one that was given to it last, by a load
that checks and succeeds or by applying a level; every operation deals with it in this way. -/
theorem level_given_last (start : Session) (run : List Operation) :
    let session := (start.performAll run).1
    session.world.level = (start.observed given? run).getLast?.getD start.world.level ∧
      (∀ operation level, session.given? operation = some level ↔
        (∃ loaded, session.load? operation = some true ∧
          (Settings.load true session.world).result = .ok loaded ∧
          level.IsNamed loaded.settings.logLevel) ∨
        operation = .applyLevel ∧ (session.perform operation).2.answer = .ok (.level level)) ∧
      ∀ operation, session.SetsLevel operation := by
  intro session
  exact ⟨performAll_level start run, fun _ _ => given?_eq_some_iff, session.setsLevel⟩

/-- A publication that cannot display the time keeps the level that its load has applied. -/
theorem level_given_last_unrendered :
    let start := ofBindings [("DATA_EVAL_LOG_LEVEL", "error")]
    let clock := Clock.ofReadings (.ok 253402300800000) []
    let run := [.create "late" .newRequest (some clock), .call "late" (.permit .normal)]
    let session := (start.performAll run).1
    let published := session.perform (.publish "late" .absent)
    session.world.level = .notset ∧
      published.2.answer = .error (.time (.yearOutOfRange 10000)) ∧
      published.1.world.level = .error := by
  intro start clock run session published
  obtain ⟨level, _, sets⟩ := level_given_last start run
  obtain ⟨answer, named⟩ := (sets (.publish "late" .absent)).unrendered "late" .absent _
    { serial := 0, settings := { logLevel := "ERROR" } } (.yearOutOfRange 10000) rfl rfl
    (by decide +kernel) (by decide +kernel) (by decide +kernel)
  have named : published.1.world.level.IsNamed "ERROR" := named
  exact ⟨level.trans (by decide +kernel), answer,
    Option.some_inj.mp (Log.Level.ofName?_eq_some_iff.mpr named).symm⟩

end Session

end DataGate

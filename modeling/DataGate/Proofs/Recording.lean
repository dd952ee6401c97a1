import DataGate.Proofs.Frame

namespace DataGate

variable {γ : Type} {view : World → γ}

namespace Settings

open Effect

/-- The caller's settings, or else the shared ones. -/
def obtained : Option Settings → Effect Settings
  | some settings => Pure.pure settings
  | none => do
      let current ← shared true
      return current.settings

theorem obtained_none (world : World) :
    obtained none world =
      { result := (shared true world).result.map Instance.settings
        world := (shared true world).world
        issued := (shared true world).issued } := by
  change (shared true >>= fun current => Pure.pure current.settings) world = _
  cases found : (shared true world).result with
  | error fault =>
      rw [bind_apply_error found]
      rfl
  | ok current =>
      rw [bind_apply_ok found]
      simp only [pure_apply, List.append_nil]
      rfl

theorem keeps_obtained (environment : World.Ignores view .environment)
    (level : World.Ignores view .level) (created : World.Ignores view .created)
    (shared : World.Ignores view .shared) (settings : Option Settings) :
    Keeps view (obtained settings) := by
  cases settings with
  | some settings => exact keeps_pure settings
  | none =>
      exact (keeps_shared environment level created shared).bind fun current =>
        keeps_pure current.settings

/-- Whoever looks for settings looks neither at the clock nor at the condition of the counters. -/
theorem obtained_fitted (settings : Option Settings) (world : World) (wall : Clock)
    (broken : Counter → Option String) :
    obtained settings (world.fitted wall broken) =
      { obtained settings world with
        world := (obtained settings world).world.fitted wall broken } := by
  cases settings with
  | some settings => rfl
  | none => rw [obtained_none, obtained_none, shared_fitted]

theorem obtained_counters (settings : Option Settings) (world : World) :
    (obtained settings world).world.counters = world.counters :=
  keeps_obtained (fun _ _ => rfl) (fun _ _ => rfl) (fun _ _ => rfl) (fun _ _ => rfl) settings world

theorem obtained_broken (settings : Option Settings) (world : World) :
    (obtained settings world).world.broken = world.broken :=
  keeps_obtained (fun _ _ => rfl) (fun _ _ => rfl) (fun _ _ => rfl) (fun _ _ => rfl) settings world

end Settings

namespace Evaluation

open Effect

variable (evaluation : Evaluation)

theorem publish_eq (settings : Option Settings) :
    evaluation.publish settings = Settings.obtained settings >>= evaluation.publishWith := by
  cases settings with
  | some settings => exact (pure_bind settings evaluation.publishWith).symm
  | none =>
      change _ = (Settings.shared true >>= fun current => Pure.pure current.settings) >>= _
      simp only [bind_assoc, pure_bind]
      rfl

theorem publish_of_error {settings : Option Settings} {world : World} {fault : Fault}
    (failed : (Settings.obtained settings world).result = .error fault) :
    evaluation.publish settings world =
      { result := .error fault
        world := (Settings.obtained settings world).world
        issued := (Settings.obtained settings world).issued } := by
  rw [publish_eq, bind_apply_error failed]

theorem publish_of_ok {settings : Option Settings} {world : World} {current : Settings}
    (found : (Settings.obtained settings world).result = .ok current) :
    let counted := evaluation.countUnder current (Settings.obtained settings world).world
    evaluation.publish settings world =
      { result := ((evaluation.notices current).map fun _ => ()).mapError .time
        world := counted.world
        issued := (Settings.obtained settings world).issued ++ (counted.issued ++
          ((evaluation.notices current).toOption.getD []).map counted.world.issue) } := by
  intro counted
  rw [publish_eq, bind_apply_ok found, publishWith_apply]

/-- The counters after the evaluation is counted in this world. -/
def tallied (world : World) : Counters :=
  (world.counters.tally world.broken evaluation.labels).1

theorem countUnder_counters (settings : Settings) (world : World) :
    (evaluation.countUnder settings world).world.counters =
      if settings.metricsEnabled then evaluation.tallied world else world.counters := by
  unfold countUnder
  split
  · rw [count_apply]
    rfl
  · rfl

theorem publish_counters (settings : Option Settings) (world : World) :
    (evaluation.publish settings world).world.counters =
      if (Settings.obtained settings world).result.toOption.any Settings.metricsEnabled then
        evaluation.tallied world
      else world.counters := by
  cases found : (Settings.obtained settings world).result with
  | error fault =>
      rw [publish_of_error evaluation found]
      exact Settings.obtained_counters settings world
  | ok current =>
      rw [publish_of_ok evaluation found]
      simp only [countUnder_counters, tallied, Settings.obtained_counters,
        Settings.obtained_broken]
      rfl

end Evaluation

namespace Session

variable {session : Session} {operation : Operation} {evaluation : Evaluation} {id : String}
  {choice : SettingsChoice}

/-- The settings that a publication of this session gets hold of. -/
def obtained? (session : Session) (choice : SettingsChoice) : Option Settings :=
  (Settings.obtained (session.choose choice) session.world).result.toOption

theorem exists_obtained_of_counted
    (counted : (session.obtained? choice).any Settings.metricsEnabled = true) :
    ∃ current, (Settings.obtained (session.choose choice) session.world).result = .ok current ∧
      current.metricsEnabled = true := by
  unfold obtained? at counted
  cases found : (Settings.obtained (session.choose choice) session.world).result with
  | error fault =>
      rw [found] at counted
      cases counted
  | ok current =>
      rw [found] at counted
      exact ⟨current, rfl, counted⟩

/-- The evaluation that the operation counts because it is asked to. -/
def counted? (session : Session) : Operation → Option Evaluation
  | .count id => session.records id
  | _ => none

/-- The evaluation that the operation publishes, if evaluations are counted under the settings that
the publication obtains. -/
def countedAsPublished? (session : Session) : Operation → Option Evaluation
  | .publish id choice =>
      (session.records id).filter fun _ => (session.obtained? choice).any Settings.metricsEnabled
  | _ => none

/-- The evaluation that the operation counts, for either reason. -/
def recorded? (session : Session) (operation : Operation) : Option Evaluation :=
  (session.counted? operation).or (session.countedAsPublished? operation)

theorem recorded?_count : session.recorded? (.count id) = session.records id :=
  Option.or_none

theorem recorded?_publish :
    session.recorded? (.publish id choice) =
      (session.records id).filter fun _ =>
        (session.obtained? choice).any Settings.metricsEnabled :=
  rfl

theorem perform_count (held : session.records id = some evaluation) :
    session.perform (.count id) = session.run evaluation.count keepNothing := by
  simp only [perform, withRecord, held]

theorem perform_publish (held : session.records id = some evaluation) :
    session.perform (.publish id choice) =
      session.run (evaluation.publish (session.choose choice)) keepNothing := by
  simp only [perform, withRecord, held]

theorem perform_count_counters :
    (session.perform (.count id)).1.world.counters =
      ((session.recorded? (.count id)).map (·.tallied session.world)).getD
        session.world.counters := by
  rw [recorded?_count]
  cases held : session.records id with
  | none => simp only [perform, withRecord, held]; rfl
  | some evaluation =>
      rw [perform_count held, run_world fun _ _ => rfl, Evaluation.count_apply]
      rfl

theorem perform_publish_counters :
    (session.perform (.publish id choice)).1.world.counters =
      ((session.recorded? (.publish id choice)).map (·.tallied session.world)).getD
        session.world.counters := by
  rw [recorded?_publish]
  cases held : session.records id with
  | none => simp only [perform, withRecord, held]; rfl
  | some evaluation =>
      rw [perform_publish held, run_world fun _ _ => rfl, Evaluation.publish_counters,
        Option.filter_some, obtained?]
      split <;> rfl

/-- The counters after an operation are those that the evaluation it records leaves behind. -/
theorem perform_counters_eq (session : Session) (operation : Operation) :
    (session.perform operation).1.world.counters =
      ((session.recorded? operation).map (·.tallied session.world)).getD
        session.world.counters := by
  cases operation with
  | count id => exact perform_count_counters
  | publish id choice => exact perform_publish_counters
  | _ => exact perform_counters (by simp [Operation.writes])

end Session

end DataGate

import DataGate.Proofs.Reading
import DataGate.Proofs.Requests
import DataGate.Proofs.SharedSettings

namespace DataGate.Session

variable {session start : Session} {operation last : Operation} {run : List Operation}
  {checked : Bool} {current loaded given : Instance}

/-- A request was served this instance, and no reset has come since. -/
def InForce (start : Session) (run : List Operation) (current : Instance) : Prop :=
  Since (fun before operation => (start.performAll before).1.served? operation = some current)
    (· ≠ .resetSettings) run

/-- The instance that the operation makes or obtains. -/
def handed? (session : Session) : Operation → Option Instance
  | .loadSettings checked => (Settings.load checked session.world).result.toOption
  | .makeSettings settings => (settings.instantiate session.world).result.toOption
  | operation => session.served? operation

/-- Some operation of the run made or obtained this instance. -/
def Handed (start : Session) (run : List Operation) (given : Instance) : Prop :=
  Since (fun before operation => (start.performAll before).1.handed? operation = some given)
    (fun _ => True) run

/-- Nothing but a reset removes the shared instance, and nothing but a request adds one. -/
theorem perform_shared_eq (noReset : operation ≠ .resetSettings)
    (noUpdate : ∀ update, operation ≠ .updateSettings update) :
    (session.perform operation).1.world.shared =
      session.world.shared.or (session.served? operation) := by
  cases request : session.request? operation with
  | some checked =>
      rw [served?_of_request request, ← Settings.shared_shared]
      exact perform_view_of_request (World.ignores_shared nofun) request
  | none =>
      rw [served?_of_unrequested request, Option.or_none]
      cases operation with
      | sharedSettings checked => cases request
      | resetSettings => exact absurd rfl noReset
      | updateSettings update => exact absurd rfl (noUpdate update)
      | publish id choice =>
          exact perform_publish_view_of_unrequested (World.ignores_shared nofun) request
      | _ => exact perform_shared (by simp [Operation.writes])

theorem shared_perform_eq_some_iff (noUpdate : ∀ update, operation ≠ .updateSettings update) :
    (session.perform operation).1.world.shared = some current ↔
      session.served? operation = some current ∨
        session.world.shared = some current ∧ operation ≠ .resetSettings := by
  by_cases reset : operation = .resetSettings
  · subst reset
    have cleared : (session.perform .resetSettings).1.world.shared = none := rfl
    have unserved : session.served? .resetSettings = none := rfl
    simp [cleared, unserved]
  · rw [perform_shared_eq reset noUpdate]
    cases present : session.world.shared with
    | none => simp
    | some other =>
        cases request : session.request? operation with
        | none => simp [served?_of_unrequested request, reset]
        | some checked => simp [served?_of_shared request present, reset]

theorem shared_performAll_iff_inForce (unshared : start.world.shared = none)
    (noUpdate : ∀ update, .updateSettings update ∉ run) :
    (start.performAll run).1.world.shared = some current ↔ start.InForce run current := by
  induction run using List.reverseRecOn with
  | nil =>
      have absent : (start.performAll []).1.world.shared = none := unshared
      rw [absent]
      exact iff_of_false nofun not_since_nil
  | append_singleton run last ih =>
      have earlier : ∀ update, .updateSettings update ∉ run := fun update member =>
        noUpdate update (List.mem_append_left _ member)
      have noLastUpdate : ∀ update, last ≠ .updateSettings update := fun update same =>
        noUpdate update (by simp [same])
      rw [performAll_concat, shared_perform_eq_some_iff noLastUpdate, ih earlier]
      unfold InForce
      rw [since_concat]

theorem handed_of_inForce (inForce : start.InForce run current) : start.Handed run current := by
  refine inForce.imp (fun before operation served => ?_) fun _ _ => trivial
  cases operation with
  | sharedSettings checked => exact served
  | publish id choice => exact served
  | _ => cases served

theorem created_le_shared (checked : Bool) (world : World) :
    world.created ≤ (Settings.shared checked world).world.created := by
  cases present : world.shared with
  | some current => exact Nat.le_of_eq (by rw [Settings.shared_of_some present])
  | none =>
      rw [Settings.shared_view_of_none present (World.ignores_created nofun)]
      exact (Settings.loadsTo_load checked world).created_le

/-- Instances are only ever added. -/
theorem created_le_perform (session : Session) (operation : Operation) :
    session.world.created ≤ (session.perform operation).1.world.created := by
  cases request : session.request? operation with
  | some checked =>
      rw [perform_view_of_request (World.ignores_created nofun) request]
      exact created_le_shared checked session.world
  | none =>
      cases operation with
      | loadSettings checked =>
          rw [perform_loadSettings_world]
          exact (Settings.loadsTo_load checked session.world).created_le
      | sharedSettings checked => cases request
      | makeSettings settings => exact Nat.le_succ _
      | publish id choice =>
          exact Nat.le_of_eq
            (perform_publish_view_of_unrequested (World.ignores_created nofun) request).symm
      | _ => exact Nat.le_of_eq (perform_created (by simp [Operation.writes])).symm

theorem serial_lt_of_served (bounded : ∀ current, session.world.shared = some current →
      current.serial < session.world.created)
    (served : session.served? operation = some given) :
    given.serial < (session.perform operation).1.world.created := by
  cases request : session.request? operation with
  | none =>
      rw [served?_of_unrequested request] at served
      cases served
  | some checked =>
      cases present : session.world.shared with
      | some current =>
          rw [served?_of_shared request present] at served
          cases served
          exact Nat.lt_of_lt_of_le (bounded given present) (created_le_perform session operation)
      | none =>
          rw [served?_of_none request present] at served
          obtain ⟨rfl, created⟩ := (Settings.loadsTo_load checked session.world).ok
            (Effect.ok_of_toOption served)
          rw [perform_view_of_request (World.ignores_created nofun) request,
            Settings.shared_view_of_none present (World.ignores_created nofun), created]
          exact Nat.lt_succ_self _

theorem serial_lt_of_handed (bounded : ∀ current, session.world.shared = some current →
      current.serial < session.world.created)
    (found : session.handed? operation = some given) :
    given.serial < (session.perform operation).1.world.created := by
  cases operation with
  | loadSettings checked =>
      obtain ⟨rfl, created⟩ := (Settings.loadsTo_load checked session.world).ok
        (Effect.ok_of_toOption found)
      rw [perform_loadSettings_world, created]
      exact Nat.lt_succ_self _
  | makeSettings settings =>
      cases found
      exact Nat.lt_succ_self _
  | sharedSettings checked => exact serial_lt_of_served bounded found
  | publish id choice => exact serial_lt_of_served bounded found
  | _ => cases found

/-- The world has counted every instance of the run. The shared one is among them, which bounds the
serial number of an instance that is handed out again. -/
theorem Handed.serial_lt (unshared : start.world.shared = none)
    (noUpdate : ∀ update, .updateSettings update ∉ run) (handed : start.Handed run given) :
    given.serial < (start.performAll run).1.world.created := by
  induction run using List.reverseRecOn generalizing given with
  | nil => exact absurd handed not_since_nil
  | append_singleton run last ih =>
      have earlier : ∀ update, .updateSettings update ∉ run := fun update member =>
        noUpdate update (List.mem_append_left _ member)
      rw [performAll_concat]
      rcases since_concat.mp handed with now | ⟨before, _⟩
      · -- An instance that was shared before the last operation was handed out before it.
        refine serial_lt_of_handed (fun current present => ?_) now
        exact ih earlier
          (handed_of_inForce ((shared_performAll_iff_inForce unshared earlier).mp present))
      · exact Nat.lt_of_lt_of_le (ih earlier before) (created_le_perform _ last)

/-- A request is served this instance, and nothing is done about settings. A publication is what it
would be if it were given the settings of the instance. -/
structure ServesInForce (session : Session) (operation : Operation) (current : Instance) :
    Prop where
  served : session.served? operation = some current
  environment : (session.perform operation).1.world.environment = session.world.environment
  level : (session.perform operation).1.world.level = session.world.level
  silent : ∀ issue ∈ (session.perform operation).2.issued, issue.entry.channel ≠ .settings
  publishes : ∀ id choice, operation = .publish id choice →
    session.perform operation = session.perform (.publish id (.given current.settings))

/-- A request is served by a load. If the load fails, so does the request, and nothing is shared. If
it succeeds, the next instance is shared, with the settings that are read off the environment. A
publication is then the load, followed by what it would be if it were given these settings. -/
structure ServesByLoad (session : Session) (operation : Operation) (checked : Bool) : Prop where
  served : session.served? operation = (Settings.load checked session.world).result.toOption
  failed : ∀ fault, (Settings.load checked session.world).result = .error fault →
    (session.perform operation).2.answer = .error fault ∧
      (session.perform operation).1.world.shared = none
  loaded : ∀ loaded, (Settings.load checked session.world).result = .ok loaded →
    (session.perform operation).1.world.shared = some loaded ∧
      loaded.serial = session.world.created ∧
      loaded.settings.ReadFrom (session.perform operation).1.world.environment
  publishes : ∀ loaded, (Settings.load checked session.world).result = .ok loaded →
    ∀ id choice, operation = .publish id choice →
      let ready := { session with world := (Settings.shared checked session.world).world }
      let published := ready.perform (.publish id (.given loaded.settings))
      session.perform operation = (published.1, { published.2 with
        issued := (Settings.load checked session.world).issued ++ published.2.issued })

theorem perform_publish_of_shared {id : String} {choice : SettingsChoice} {evaluation : Evaluation}
    (held : session.records id = some evaluation) (absent : session.choose choice = none)
    (present : session.world.shared = some current) :
    session.perform (.publish id choice) =
      session.perform (.publish id (.given current.settings)) := by
  rw [perform_publish held, perform_publish held, absent]
  unfold run
  rw [evaluation.publish_of_shared present]
  rfl

theorem perform_publish_of_loaded {id : String} {choice : SettingsChoice} {evaluation : Evaluation}
    (held : session.records id = some evaluation) (unchosen : session.choose choice = none)
    (absent : session.world.shared = none)
    (done : (Settings.load true session.world).result = .ok loaded) :
    let ready := { session with world := (Settings.shared true session.world).world }
    let published := ready.perform (.publish id (.given loaded.settings))
    session.perform (.publish id choice) = (published.1, { published.2 with
      issued := (Settings.load true session.world).issued ++ published.2.issued }) := by
  intro ready published
  have heldReady : ready.records id = some evaluation := held
  have found : (Settings.shared true session.world).result = .ok loaded :=
    (Settings.shared_result_of_none absent).trans done
  have issued : (Settings.shared true session.world).issued =
      (Settings.load true session.world).issued := by
    rw [Settings.shared_of_ok absent done]
  have publish : evaluation.publish none session.world =
      let rest := evaluation.publish (some loaded.settings) ready.world
      { rest with issued := (Settings.load true session.world).issued ++ rest.issued } := by
    rw [← issued]
    exact Effect.bind_apply_ok found
  simp only [published, perform_publish held, perform_publish heldReady, unchosen,
    run_keepNothing, publish]
  rfl

theorem servesInForce_of_shared (request : session.request? operation = some checked)
    (present : session.world.shared = some current) : session.ServesInForce operation current := by
  have requested : Settings.shared checked session.world =
      { result := .ok current, world := session.world } := Settings.shared_of_some present
  constructor
  · exact served?_of_shared request present
  · rw [perform_view_of_request (World.ignores_environment nofun) request, requested]
  · rw [perform_view_of_request (World.ignores_level nofun) request, requested]
  · rcases request?_eq_some_iff.mp request with
      rfl | ⟨id, choice, evaluation, rfl, rfl, held, absent⟩
    · intro issue member
      rw [perform, run_issued, requested] at member
      cases member
    · rw [perform_publish_of_shared held absent present, perform_publish held, run_issued]
      exact fun issue member => evaluation.channel_of_mem_publish member
  · rintro id choice rfl
    rcases request?_eq_some_iff.mp request with same | ⟨_, _, evaluation, same, rfl, held, absent⟩
    · cases same
    · cases same
      exact perform_publish_of_shared held absent present

theorem servesByLoad_of_none (request : session.request? operation = some checked)
    (absent : session.world.shared = none) : session.ServesByLoad operation checked := by
  have found : (Settings.shared checked session.world).result =
      (Settings.load checked session.world).result := Settings.shared_result_of_none absent
  have shared := (perform_view_of_request (World.ignores_shared nofun) request).trans
    (Settings.shared_shared checked session.world)
  rw [absent, Option.none_or, found] at shared
  constructor
  · exact served?_of_none request absent
  · intro fault failed
    exact ⟨perform_answer_of_failed request (found.trans failed), by rw [shared, failed]; rfl⟩
  · intro loaded done
    obtain ⟨made, _⟩ := (Settings.loadsTo_load checked session.world).ok done
    refine ⟨by rw [shared, done]; rfl, by rw [made], ?_⟩
    rw [perform_view_of_request (World.ignores_environment nofun) request,
      Settings.shared_view_of_none absent (World.ignores_environment nofun), made]
    exact Settings.readFrom_ofEnvironment _
  · rintro loaded done id choice rfl
    rcases request?_eq_some_iff.mp request with same | ⟨_, _, evaluation, same, rfl, held, unchosen⟩
    · cases same
    · cases same
      exact perform_publish_of_loaded held unchosen absent done

/-- A request that comes when nothing is shared is served the newest instance of the run. -/
theorem serial_lt_of_newest (unshared : start.world.shared = none)
    (noUpdate : ∀ update, .updateSettings update ∉ run)
    (request : (start.performAll run).1.request? operation = some checked)
    (absent : (start.performAll run).1.world.shared = none)
    (served : (start.performAll run).1.served? operation = some loaded)
    (handed : start.Handed run given) : given.serial < loaded.serial := by
  have loads := servesByLoad_of_none request absent
  have done := Effect.ok_of_toOption (loads.served.symm.trans served)
  rw [(loads.loaded loaded done).2.1]
  exact handed.serial_lt unshared noUpdate

theorem perform_sharedSettings_of_served
    (served : session.served? (.sharedSettings checked) = some current) :
    (session.perform (.sharedSettings checked)).1.current = some current ∧
      ∃ level same, (session.perform (.sharedSettings checked)).2.answer =
        .ok (.shared current.settings level same) := by
  have found : (Settings.shared checked session.world).result = .ok current :=
    Effect.ok_of_toOption ((served?_of_request rfl).symm.trans served)
  rw [perform, run_of_ok found]
  exact ⟨rfl, _, _, rfl⟩

/-- From a start without shared settings, and as long as nobody assigns to a field of settings, the
shared instance is the one that requests have been served since the last reset. If there is one, it
serves every request as it is; otherwise a request is a load, and the instance it makes is newer
than any other. Loading for oneself leaves what is shared as it is. -/
theorem one_instance_between_resets (start : Session) (run : List Operation)
    (unshared : start.world.shared = none)
    (noUpdate : ∀ update, .updateSettings update ∉ run) :
    let session := (start.performAll run).1
    (∀ current, session.world.shared = some current ↔ start.InForce run current) ∧
      (∀ operation checked, session.request? operation = some checked →
        (∀ current, start.InForce run current → session.ServesInForce operation current) ∧
          ((∀ current, ¬ start.InForce run current) →
            session.ServesByLoad operation checked ∧
              ∀ loaded, session.served? operation = some loaded →
                ∀ earlier, start.Handed run earlier → earlier.serial < loaded.serial)) ∧
      (∀ checked current, session.served? (.sharedSettings checked) = some current →
        (session.perform (.sharedSettings checked)).1.current = some current ∧
          ∃ level same, (session.perform (.sharedSettings checked)).2.answer =
            .ok (.shared current.settings level same)) ∧
      ∀ checked, (session.perform (.loadSettings checked)).1.world.shared =
        session.world.shared := by
  intro session
  have inForce (current : Instance) : session.world.shared = some current ↔
      start.InForce run current := shared_performAll_iff_inForce unshared noUpdate
  refine ⟨inForce, fun operation checked request => ⟨?_, ?_⟩, ?_, ?_⟩
  · intro current isInForce
    exact servesInForce_of_shared request ((inForce current).mpr isInForce)
  · intro noneInForce
    have absent : session.world.shared = none :=
      Option.eq_none_iff_forall_ne_some.mpr fun current present =>
        noneInForce current ((inForce current).mp present)
    refine ⟨servesByLoad_of_none request absent, fun loaded served earlier handed => ?_⟩
    exact serial_lt_of_newest unshared noUpdate request absent served handed
  · exact fun checked current served => perform_sharedSettings_of_served served
  · exact fun checked => perform_shared (by simp [Operation.writes])

/-- A publication loads a new instance after a reset and a request that failed, and the next request
is served the same. -/
theorem one_instance_between_resets_after_failure :
    let start := ofBindings [("DATA_EVAL_LOG_LEVEL", "VERBOSE")]
    let run := [.create "first" .newRequest none, .loadSettings false, .sharedSettings false,
      .resetSettings, .sharedSettings true, .assignVariable "DATA_EVAL_LOG_LEVEL" "error"]
    let published := run ++ [.publish "first" .absent]
    let current : Instance := { serial := 2, settings := { logLevel := "ERROR" } }
    (start.performAll run).1.ServesByLoad (.publish "first" .absent) true ∧
      (∀ earlier, start.Handed run earlier → earlier.serial < current.serial) ∧
      (start.performAll published).1.ServesInForce (.sharedSettings true) current := by
  intro start run published current
  obtain ⟨inForce, requests, _⟩ := one_instance_between_resets start run rfl (by simp [run])
  obtain ⟨inForcePublished, requestsPublished, _⟩ :=
    one_instance_between_resets start published rfl (by simp [run, published])
  have absent : (start.performAll run).1.world.shared = none := by decide +kernel
  have served : (start.performAll run).1.served? (.publish "first" .absent) = some current := by
    decide +kernel
  have present : (start.performAll published).1.world.shared = some current := by decide +kernel
  have noneInForce (other : Instance) : ¬ start.InForce run other := by
    rw [← inForce, absent]
    nofun
  have asks : (start.performAll run).1.request? (.publish "first" .absent) = some true := by
    decide +kernel
  obtain ⟨loads, newest⟩ := (requests _ true asks).2 noneInForce
  exact ⟨loads, newest current served,
    (requestsPublished _ true rfl).1 current ((inForcePublished current).mp present)⟩

end DataGate.Session

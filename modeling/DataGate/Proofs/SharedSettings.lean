import DataGate.Dotenv
import DataGate.Proofs.Frame
import DataGate.Proofs.Since

namespace DataGate

namespace World

variable {world : World} {checked : Bool}

def HoldsInvalid (world : World) : Prop :=
  ∃ current, world.shared = some current ∧ current.settings.isValid = false

def AwaitsInvalid (world : World) : Prop :=
  world.shared = none ∧
    ∃ settings, Settings.pending? world = some settings ∧ settings.isValid = false

/-- The settings that a request finds: the shared ones, or else those that a load would read. -/
def inForce? (world : World) : Option Settings :=
  (world.shared.map Instance.settings).or (Settings.pending? world)

theorem not_holdsInvalid_of_none (absent : world.shared = none) : ¬ world.HoldsInvalid := by
  intro holds
  obtain ⟨current, present, _⟩ := holds
  rw [absent] at present
  cases present

theorem holdsInvalid_congr {other : World} (same : other.shared = world.shared) :
    other.HoldsInvalid ↔ world.HoldsInvalid := by
  unfold HoldsInvalid
  rw [same]

theorem awaitsInvalid_iff {settings : Settings} (absent : world.shared = none)
    (pending : Settings.pending? world = some settings) :
    world.AwaitsInvalid ↔ settings.isValid = false := by
  constructor
  · intro awaits
    obtain ⟨_, other, found, invalid⟩ := awaits
    rw [pending] at found
    cases found
    exact invalid
  · intro invalid
    exact ⟨absent, settings, pending, invalid⟩

theorem not_awaitsInvalid_of_refused (refused : Settings.pending? world = none) :
    ¬ world.AwaitsInvalid := by
  intro awaits
  obtain ⟨_, settings, found, _⟩ := awaits
  rw [refused] at found
  cases found

theorem not_holdsInvalid_of_load_error {fault : Fault} (absent : world.shared = none)
    (failed : (Settings.load checked world).result = .error fault) :
    ¬ (Settings.shared checked world).world.HoldsInvalid := by
  apply not_holdsInvalid_of_none
  rw [Settings.shared_of_error absent failed, Settings.load_shared, absent]

theorem holdsInvalid_iff_of_load_ok {loaded : Instance} (absent : world.shared = none)
    (done : (Settings.load checked world).result = .ok loaded) :
    (Settings.shared checked world).world.HoldsInvalid ↔ loaded.settings.isValid = false := by
  rw [Settings.shared_of_ok absent done]
  constructor
  · intro holds
    obtain ⟨current, same, invalid⟩ := holds
    cases same
    exact invalid
  · intro invalid
    exact ⟨loaded, rfl, invalid⟩

/-- A request brings invalid settings into force just if it is the one to load them unchecked. -/
theorem holdsInvalid_shared_iff (checked : Bool) (world : World) :
    (Settings.shared checked world).world.HoldsInvalid ↔
      world.HoldsInvalid ∨ checked = false ∧ world.AwaitsInvalid := by
  cases present : world.shared with
  | some current =>
      rw [Settings.shared_of_some present]
      refine (or_iff_left ?_).symm
      intro awaits
      rw [awaits.2.1] at present
      cases present
  | none =>
      rw [or_iff_right (not_holdsInvalid_of_none present)]
      cases pending : Settings.pending? world with
      | none =>
          obtain ⟨reason, failed⟩ := Settings.load_result_of_not_pending checked pending
          exact iff_of_false (not_holdsInvalid_of_load_error present failed)
            fun awaits => not_awaitsInvalid_of_refused pending awaits.2
      | some settings =>
          rw [awaitsInvalid_iff present pending]
          cases valid : settings.isValid with
          | true =>
              have loaded := Settings.load_result_of_pending checked pending fun _ => valid
              rw [holdsInvalid_iff_of_load_ok present loaded, valid]
              exact (and_iff_right_of_imp fun impossible => by cases impossible).symm
          | false =>
              cases checked with
              | true =>
                  have failed := Settings.load_result_of_invalid pending valid
                  exact iff_of_false (not_holdsInvalid_of_load_error present failed) nofun
              | false =>
                  have loaded := Settings.load_result_of_pending false pending
                    fun impossible => absurd impossible Bool.false_ne_true
                  rw [holdsInvalid_iff_of_load_ok present loaded, valid]
                  exact iff_of_true rfl ⟨rfl, rfl⟩

theorem shared_result_of_nothing (nothing : world.inForce? = none) :
    ∃ reason, (Settings.shared true world).result = .error (.environment reason) := by
  obtain ⟨absent, refused⟩ := Option.or_eq_none_iff.mp nothing
  rw [Option.map_eq_none_iff] at absent
  obtain ⟨reason, failed⟩ := Settings.load_result_of_not_pending true refused
  exact ⟨reason, by rw [Settings.shared_of_error absent failed, failed]⟩

theorem shared_result_of_valid {settings : Settings} (inForce : world.inForce? = some settings)
    (valid : settings.isValid = true) :
    ∃ current, (Settings.shared true world).result = .ok current ∧
      current.settings = settings := by
  cases present : world.shared with
  | some current =>
      rw [inForce?, present] at inForce
      cases inForce
      exact ⟨current, by rw [Settings.shared_of_some present], rfl⟩
  | none =>
      rw [inForce?, present] at inForce
      have loaded := Settings.load_result_of_pending true inForce fun _ => valid
      exact ⟨_, by rw [Settings.shared_of_ok present loaded, loaded], rfl⟩

theorem shared_result_of_invalid {settings : Settings} (inForce : world.inForce? = some settings)
    (invalid : settings.isValid = false) (unheld : ¬ world.HoldsInvalid) :
    (Settings.shared true world).result = .error (.settings settings.invalid) := by
  cases present : world.shared with
  | some current =>
      rw [inForce?, present] at inForce
      cases inForce
      exact absurd ⟨current, present, invalid⟩ unheld
  | none =>
      rw [inForce?, present] at inForce
      have failed := Settings.load_result_of_invalid inForce invalid
      rw [Settings.shared_of_error present failed, failed]

end World

/-- The operation may replace the shared instance or change it. -/
def Operation.ReachesShared : Operation → Prop
  | .sharedSettings _ | .resetSettings | .updateSettings _ | .publish _ _ => True
  | _ => False

theorem Operation.reachesShared_iff {operation : Operation} :
    operation.ReachesShared ↔ .shared ∈ operation.writes := by
  cases operation <;> simp [ReachesShared, writes]

namespace Session

variable {session start : Session} {operation last : Operation} {operations : List Operation}

theorem holdsInvalid_perform_publish_iff (id : String) (choice : SettingsChoice) :
    (session.perform (.publish id choice)).1.world.HoldsInvalid ↔ session.world.HoldsInvalid := by
  simp only [perform, withRecord]
  cases session.records id with
  | none => rfl
  | some evaluation =>
      cases chosen : session.choose choice with
      | some settings =>
          have keeps : Effect.Keeps World.shared (evaluation.publish (some settings)) :=
            evaluation.keeps_publishWith (fun _ _ => rfl) settings
          exact World.holdsInvalid_congr (run_view keeps fun _ _ => rfl)
      | none =>
          have requested : (session.run (evaluation.publish none) keepNothing).1.world.shared =
              (Settings.shared true session.world).world.shared := by
            rw [run_world fun _ _ => rfl, evaluation.publish_none_shared]
          rw [World.holdsInvalid_congr requested, World.holdsInvalid_shared_iff]
          exact or_iff_left fun impossible => by cases impossible.1

/-- Only an unchecked request brings invalid settings into force, and only a reset removes them. -/
theorem holdsInvalid_perform_iff (noUpdate : ∀ update, operation ≠ .updateSettings update) :
    (session.perform operation).1.world.HoldsInvalid ↔
      (operation = .sharedSettings false ∧ session.world.AwaitsInvalid) ∨
        session.world.HoldsInvalid ∧ operation ≠ .resetSettings := by
  by_cases reaches : operation.ReachesShared
  · cases operation with
    | sharedSettings checked =>
        have requested : (session.perform (.sharedSettings checked)).1.world =
            (Settings.shared checked session.world).world := run_world fun _ _ => rfl
        rw [requested, World.holdsInvalid_shared_iff]
        simp [or_comm]
    | resetSettings =>
        have cleared : (session.perform .resetSettings).1.world.shared = none := rfl
        simp [World.not_holdsInvalid_of_none cleared]
    | updateSettings update => exact absurd rfl (noUpdate update)
    | publish id choice =>
        rw [holdsInvalid_perform_publish_iff]
        simp
    | _ => cases reaches
  · rw [World.holdsInvalid_congr (perform_shared (mt Operation.reachesShared_iff.mpr reaches))]
    have notRequest : operation ≠ .sharedSettings false := by
      intro same
      subst same
      exact reaches trivial
    have notReset : operation ≠ .resetSettings := by
      intro same
      subst same
      exact reaches trivial
    simp [notRequest, notReset]

/-- An unchecked request loaded settings that are not valid, and no reset has come since. -/
def AdoptedUnchecked (start : Session) : List Operation → Prop :=
  Since
    (fun before operation =>
      operation = .sharedSettings false ∧ (start.performAll before).1.world.AwaitsInvalid)
    (· ≠ .resetSettings)

theorem holdsInvalid_performAll_iff (unshared : start.world.shared = none)
    (noUpdate : ∀ update, .updateSettings update ∉ operations) :
    (start.performAll operations).1.world.HoldsInvalid ↔ start.AdoptedUnchecked operations := by
  induction operations using List.reverseRecOn with
  | nil => exact iff_of_false (World.not_holdsInvalid_of_none unshared) not_since_nil
  | append_singleton operations last ih =>
      have earlier : ∀ update, .updateSettings update ∉ operations := by
        intro update member
        exact noUpdate update (List.mem_append_left _ member)
      have noLastUpdate : ∀ update, last ≠ .updateSettings update := by
        intro update same
        exact noUpdate update (by simp [same])
      rw [performAll_concat, holdsInvalid_perform_iff noLastUpdate, ih earlier]
      unfold AdoptedUnchecked
      rw [since_concat]

/-- What a request that checks is there for: it answers with valid settings only, and settings that
are not valid are refused under the code for that. -/
def FailsClosed (session : Session) : Prop :=
  let answer := (session.perform (.sharedSettings true)).2.answer
  (∀ settings level same, answer = .ok (.shared settings level same) →
      settings.logLevel ∈ Settings.validLevels) ∧
    ∀ settings, session.world.inForce? = some settings →
      settings.logLevel ∉ Settings.validLevels →
        ∃ error, answer = .error (.settings error) ∧ error.code = "DEV-040"

theorem checked_answer_of_ok {current : Instance}
    (done : (Settings.shared true session.world).result = .ok current) :
    ∃ level same, (session.perform (.sharedSettings true)).2.answer =
      .ok (.shared current.settings level same) :=
  ⟨_, _, congrArg (fun outcome => outcome.2.answer) (run_of_ok done adoptShared)⟩

theorem checked_answer_of_error {fault : Fault}
    (failed : (Settings.shared true session.world).result = .error fault) :
    (session.perform (.sharedSettings true)).2.answer = .error fault :=
  congrArg (fun outcome => outcome.2.answer) (run_of_error failed adoptShared)

theorem failsClosed_of_nothing (nothing : session.world.inForce? = none) :
    session.FailsClosed := by
  obtain ⟨reason, failed⟩ := World.shared_result_of_nothing nothing
  refine ⟨?_, ?_⟩
  · intro settings level same answered
    rw [checked_answer_of_error failed] at answered
    cases answered
  · intro settings found
    rw [nothing] at found
    cases found

theorem failsClosed_of_valid {settings : Settings}
    (inForce : session.world.inForce? = some settings) (valid : settings.isValid = true) :
    session.FailsClosed := by
  have listed : settings.logLevel ∈ Settings.validLevels := Settings.isValid_iff.mp valid
  obtain ⟨current, done, rfl⟩ := World.shared_result_of_valid inForce valid
  obtain ⟨level, same, answer⟩ := checked_answer_of_ok done
  refine ⟨?_, ?_⟩
  · intro settings level same answered
    rw [answer] at answered
    cases answered
    exact listed
  · intro settings found notListed
    rw [inForce] at found
    cases found
    exact absurd listed notListed

theorem failsClosed_of_invalid {settings : Settings}
    (inForce : session.world.inForce? = some settings) (invalid : settings.isValid = false)
    (unheld : ¬ session.world.HoldsInvalid) : session.FailsClosed := by
  have failed := World.shared_result_of_invalid inForce invalid unheld
  refine ⟨?_, ?_⟩
  · intro settings level same answered
    rw [checked_answer_of_error failed] at answered
    cases answered
  · intro other found _
    rw [inForce] at found
    cases found
    exact ⟨_, checked_answer_of_error failed, rfl⟩

theorem failsClosed_iff_not_holdsInvalid : session.FailsClosed ↔ ¬ session.world.HoldsInvalid := by
  constructor
  · intro closed holds
    obtain ⟨current, present, invalid⟩ := holds
    obtain ⟨level, same, answered⟩ :=
      checked_answer_of_ok (by rw [Settings.shared_of_some present])
    have valid := closed.1 _ _ _ answered
    rw [← Settings.isValid_iff, invalid] at valid
    cases valid
  · intro unheld
    cases inForce : session.world.inForce? with
    | none => exact failsClosed_of_nothing inForce
    | some settings =>
        cases valid : settings.isValid with
        | true => exact failsClosed_of_valid inForce valid
        | false => exact failsClosed_of_invalid inForce valid unheld

/-- From a start without shared settings, and as long as nobody assigns to a field of settings, a
request that checks fails closed exactly when no unchecked request has shared invalid settings since
the last reset. -/
theorem failsClosed_iff_not_adoptedUnchecked (start : Session) (operations : List Operation)
    (unshared : start.world.shared = none)
    (noUpdate : ∀ update, .updateSettings update ∉ operations) :
    (start.performAll operations).1.FailsClosed ↔ ¬ start.AdoptedUnchecked operations := by
  rw [failsClosed_iff_not_holdsInvalid, holdsInvalid_performAll_iff unshared noUpdate]

/-- A new session under these variables, with no file. -/
def ofBindings (bindings : List (String × String)) : Session where
  world :=
    { loader := Dotenv.loader
      environment := .ofList bindings
      dotenv := ""
      level := .notset
      wall := .ofReadings (.ok 0) [] }

/-- The same request fails open after an unchecked one and closed again after a reset. -/
theorem failsClosed_after_reset :
    let start := ofBindings [("DATA_EVAL_LOG_LEVEL", "VERBOSE")]
    ¬ (start.performAll [.sharedSettings false]).1.FailsClosed ∧
      (start.performAll [.sharedSettings false, .resetSettings]).1.FailsClosed := by
  intro start
  have awaits : start.world.AwaitsInvalid :=
    ⟨rfl, { logLevel := "VERBOSE" }, by decide +kernel, by decide +kernel⟩
  constructor
  · rw [failsClosed_iff_not_adoptedUnchecked start [.sharedSettings false] rfl (by simp)]
    exact not_not_intro ⟨[], _, [], rfl, ⟨rfl, awaits⟩, by simp⟩
  · rw [failsClosed_iff_not_adoptedUnchecked start [.sharedSettings false, .resetSettings] rfl
      (by simp)]
    intro adopted
    have split : [.sharedSettings false, .resetSettings] =
        [Operation.sharedSettings false] ++ [.resetSettings] := rfl
    rw [split, AdoptedUnchecked, since_concat] at adopted
    rcases adopted with request | kept
    · cases request.1
    · exact kept.2 rfl

/-- An unknown level that an unchecked request has shared is handed to a request that checks. -/
theorem checked_request_answers_invalid :
    let start := ofBindings [("DATA_EVAL_LOG_LEVEL", "VERBOSE")]
    ((start.performAll [.sharedSettings false]).1.perform (.sharedSettings true)).2.answer =
        .ok (.shared { logLevel := "VERBOSE" } .notset true) ∧
      "VERBOSE" ∉ Settings.validLevels := by
  decide +kernel

end Session

end DataGate

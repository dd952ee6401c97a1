import DataGate.Proofs.Recording

namespace DataGate

namespace World

/-- The same world with every counter in order. -/
def mended (world : World) : World :=
  { world with broken := fun _ => none }

/-- The world but for its counters and their condition. -/
def apartFromCounters (world : World) : World :=
  { world with counters := .zero, broken := fun _ => none }

end World

namespace Settings

/-- Whoever looks for settings does not look at the counters. -/
theorem obtained_mended (settings : Option Settings) (world : World) :
    obtained settings world.mended =
      { obtained settings world with world := (obtained settings world).world.mended } := by
  have wall : (obtained settings world).world.wall = world.wall :=
    keeps_obtained (fun _ _ => rfl) (fun _ _ => rfl) (fun _ _ => rfl) (fun _ _ => rfl) settings
      world
  have mended : (obtained settings world).world.mended =
      (obtained settings world).world.fitted world.wall fun _ => none := by
    rw [← wall]
    rfl
  rw [mended]
  exact obtained_fitted settings world world.wall fun _ => none

end Settings

namespace Evaluation

variable {evaluation : Evaluation} {counter : Counter} {world : World}

/-- Counting the evaluation asks this counter. -/
def Asks (evaluation : Evaluation) : Counter → Prop
  | .evaluations => True
  | .grants => evaluation.decision.isAllowed = true
  | .obstacles => evaluation.decision.isAllowed = false

/-- Counting the evaluation asks a counter that is broken. -/
def Disturbed (evaluation : Evaluation) (world : World) : Prop :=
  ∃ counter, evaluation.Asks counter ∧ (world.broken counter).isSome = true

theorem asks_iff :
    evaluation.Asks counter ↔ counter = .evaluations ∨ counter = evaluation.reasonCounter := by
  cases counter <;> cases allowed : evaluation.decision.isAllowed <;>
    simp [Asks, reasonCounter, allowed]

/-- The complaint is one of a broken counter that is asked. -/
theorem exists_asked_of_complaint {complaint : String}
    (complained : evaluation.complaint? world.broken = some complaint) :
    ∃ counter, evaluation.Asks counter ∧ world.broken counter = some complaint := by
  rcases Option.or_eq_some_iff.mp complained with first | ⟨_, second⟩
  · exact ⟨.evaluations, asks_iff.mpr (Or.inl rfl), first⟩
  · exact ⟨evaluation.reasonCounter, asks_iff.mpr (Or.inr rfl), second⟩

theorem complaint?_eq_none_iff :
    evaluation.complaint? world.broken = none ↔ ¬ evaluation.Disturbed world := by
  constructor
  · intro silent disturbed
    obtain ⟨evaluationsWork, reasonsWork⟩ := Option.or_eq_none_iff.mp silent
    obtain ⟨counter, asked, broken⟩ := disturbed
    rcases asks_iff.mp asked with same | same
    · rw [same, evaluationsWork] at broken
      cases broken
    · rw [same, reasonsWork] at broken
      cases broken
  · intro calm
    cases complained : evaluation.complaint? world.broken with
    | none => rfl
    | some complaint =>
        obtain ⟨counter, asked, found⟩ := exists_asked_of_complaint complained
        exact absurd ⟨counter, asked, by rw [found, Option.isSome_some]⟩ calm

theorem tallied_of_calm (calm : ¬ evaluation.Disturbed world) :
    evaluation.tallied world = evaluation.tallied world.mended := by
  have silent : evaluation.complaint? world.mended.broken = none := rfl
  rw [tallied, tallied, tally_of_silent (complaint?_eq_none_iff.mpr calm), tally_of_silent silent]
  rfl

theorem tallied_of_evaluations_broken (broken : (world.broken .evaluations).isSome = true) :
    evaluation.tallied world = world.counters := by
  obtain ⟨complaint, found⟩ := Option.isSome_iff_exists.mp broken
  rw [tallied, tally_of_evaluations_broken found]

theorem tallied_of_reasons_broken (disturbed : evaluation.Disturbed world)
    (works : world.broken .evaluations = none) :
    evaluation.tallied world =
      world.counters.increment (.evaluation evaluation.trigger evaluation.ruling) := by
  obtain ⟨counter, asked, broken⟩ := disturbed
  obtain ⟨complaint, found⟩ := Option.isSome_iff_exists.mp broken
  rcases asks_iff.mp asked with same | same
  · rw [same, works] at found
    cases found
  · rw [same] at found
    rw [tallied, tally_of_reasons_broken works found]

theorem countUnder_apart (settings : Settings) (world : World) :
    (evaluation.countUnder settings world).world.apartFromCounters = world.apartFromCounters := by
  have keeps : Effect.Keeps World.apartFromCounters (evaluation.countUnder settings) :=
    evaluation.keeps_countUnder (fun _ _ => rfl) settings
  exact keeps world

theorem countUnder_issue (settings : Settings) (world : World) :
    (evaluation.countUnder settings world).world.issue = world.issue := by
  have keeps : Effect.Keeps World.issue (evaluation.countUnder settings) :=
    evaluation.keeps_countUnder (fun _ _ => rfl) settings
  exact keeps world

theorem countUnder_issued {settings : Settings} (enabled : settings.metricsEnabled = true)
    (world : World) :
    (evaluation.countUnder settings world).issued =
      [world.issue (evaluation.metricEntry (evaluation.complaint? world.broken))] := by
  rw [countUnder, if_pos enabled, count_apply]

theorem countUnder_of_disabled {settings : Settings} (disabled : ¬ settings.metricsEnabled = true) :
    evaluation.countUnder settings = Pure.pure () := by
  rw [countUnder, if_neg disabled]

section Publish

variable {settings : Option Settings} {current : Settings}

/-- A publication comes to the same whether or not counters are broken, and if it does not count
then its entries are the same as well. -/
theorem publish_mended (settings : Option Settings) (world : World) :
    let calm := evaluation.publish settings world.mended
    let actual := evaluation.publish settings world
    calm.result = actual.result ∧
      calm.world.apartFromCounters = actual.world.apartFromCounters ∧
      (¬ (Settings.obtained settings world).result.toOption.any Settings.metricsEnabled = true →
        calm.issued = actual.issued) := by
  intro calm actual
  have mended := Settings.obtained_mended settings world
  have same := congrArg Outcome.result mended
  cases found : (Settings.obtained settings world).result with
  | error fault =>
      have actualEq : actual = _ := publish_of_error evaluation found
      have calmEq : calm = _ := publish_of_error evaluation (same.trans found)
      rw [actualEq, calmEq, mended]
      exact ⟨rfl, rfl, fun _ => rfl⟩
  | ok current =>
      have actualEq : actual = _ := publish_of_ok evaluation found
      have calmEq : calm = _ := publish_of_ok evaluation (same.trans found)
      rw [actualEq, calmEq, mended]
      refine ⟨rfl, ?_, ?_⟩
      · rw [countUnder_apart, countUnder_apart]
        rfl
      · intro uncounted
        rw [countUnder_of_disabled uncounted]
        rfl

theorem publish_issued_of_counted
    (found : (Settings.obtained settings world).result = .ok current)
    (enabled : current.metricsEnabled = true) :
    let got := Settings.obtained settings world
    (evaluation.publish settings world).issued = got.issued ++
      got.world.issue (evaluation.metricEntry (evaluation.complaint? world.broken)) ::
        ((evaluation.notices current).toOption.getD []).map got.world.issue := by
  intro got
  rw [publish_of_ok evaluation found, countUnder_issued enabled, countUnder_issue,
    Settings.obtained_broken]
  rfl

end Publish

end Evaluation

namespace Session

variable {session : Session} {operation : Operation} {evaluation : Evaluation}

def mended (session : Session) : Session :=
  { session with world := session.world.mended }

def apartFromCounters (session : Session) : Session :=
  { session with world := session.world.apartFromCounters }

theorem recorded?_mended (session : Session) (operation : Operation) :
    session.mended.recorded? operation = session.recorded? operation := by
  cases operation with
  | publish id choice =>
      have same : session.mended.obtained? choice = session.obtained? choice := by
        unfold obtained?
        change (Settings.obtained (session.choose choice) session.world.mended).result.toOption = _
        rw [Settings.obtained_mended]
      rw [recorded?_publish, recorded?_publish, same]
      rfl
  | _ => rfl

/-- Against the same operation with every counter in order, broken counters change nothing but the
counters and the one entry that tells of the counting. They change these if the operation counts the
evaluation and asks one of them. -/
structure ContainsFailure (session : Session) (evaluation : Evaluation) (operation : Operation) :
    Prop where
  answer : (session.perform operation).2.answer = (session.mended.perform operation).2.answer
  apart : (session.perform operation).1.apartFromCounters =
    (session.mended.perform operation).1.apartFromCounters
  calm : ¬ (session.recorded? operation = some evaluation ∧ evaluation.Disturbed session.world) →
    (session.perform operation).2.issued = (session.mended.perform operation).2.issued ∧
      (session.perform operation).1.world.counters =
        (session.mended.perform operation).1.world.counters
  replaced : session.recorded? operation = some evaluation →
    evaluation.Disturbed session.world →
      ∃ earlier later threshold counter complaint,
        evaluation.Asks counter ∧ session.world.broken counter = some complaint ∧
        evaluation.countedEntry.level = .debug ∧
        (session.mended.perform operation).2.issued =
          earlier ++ { entry := evaluation.countedEntry, threshold } :: later ∧
        let failed : Log.Entry :=
          { channel := .metrics
            level := .error
            message := "[OBS-001] Failed to record data_evaluation metrics | error=" ++ complaint }
        (session.perform operation).2.issued =
          earlier ++ { entry := failed, threshold } :: later
  unchanged : session.recorded? operation = some evaluation →
    (session.world.broken .evaluations).isSome = true →
      (session.perform operation).1.world.counters = session.world.counters
  partly : session.recorded? operation = some evaluation →
    evaluation.Disturbed session.world → session.world.broken .evaluations = none →
      (session.perform operation).1.world.counters =
        session.world.counters.increment (.evaluation evaluation.trigger evaluation.ruling)

section Contained

variable {effect : Effect Unit}
  (performed : session.perform operation = session.run effect keepNothing)
  (performedMended : session.mended.perform operation = session.mended.run effect keepNothing)
  (result : (effect session.world.mended).result = (effect session.world).result)
  (apart : (effect session.world.mended).world.apartFromCounters =
    (effect session.world).world.apartFromCounters)

include performed performedMended result apart

theorem containsFailure_of_recorded {earlier later : List Log.Issue} {threshold : Log.Level}
    (recorded : session.recorded? operation = some evaluation)
    (issued : (effect session.world).issued = earlier ++
      { entry := evaluation.metricEntry (evaluation.complaint? session.world.broken), threshold } ::
        later)
    (issuedMended : (effect session.world.mended).issued = earlier ++
      { entry := evaluation.countedEntry, threshold } :: later) :
    session.ContainsFailure evaluation operation := by
  have counters : (session.perform operation).1.world.counters =
      evaluation.tallied session.world := by
    rw [perform_counters_eq, recorded]
    rfl
  have countersMended : (session.mended.perform operation).1.world.counters =
      evaluation.tallied session.world.mended := by
    rw [perform_counters_eq, recorded?_mended, recorded]
    rfl
  rw [run_keepNothing] at performed performedMended
  constructor
  · rw [performed, performedMended]
    exact congrArg (Except.map fun _ => Answer.nothing) result.symm
  · rw [performed, performedMended]
    exact congrArg (fun world => { session with world }) apart.symm
  · intro unseen
    have calm : ¬ evaluation.Disturbed session.world := fun disturbed =>
      unseen ⟨recorded, disturbed⟩
    rw [counters, countersMended]
    refine ⟨?_, Evaluation.tallied_of_calm calm⟩
    rw [performed, performedMended, issued, Evaluation.complaint?_eq_none_iff.mpr calm]
    exact issuedMended.symm
  · intro _ disturbed
    cases complained : evaluation.complaint? session.world.broken with
    | none => exact absurd disturbed (Evaluation.complaint?_eq_none_iff.mp complained)
    | some complaint =>
        obtain ⟨counter, asked, found⟩ := Evaluation.exists_asked_of_complaint complained
        rw [complained] at issued
        rw [performed, performedMended]
        exact ⟨earlier, later, threshold, counter, complaint, asked, found, rfl, issuedMended,
          issued⟩
  · intro _ broken
    rw [counters, Evaluation.tallied_of_evaluations_broken broken]
  · intro _ disturbed works
    rw [counters, Evaluation.tallied_of_reasons_broken disturbed works]

theorem containsFailure_of_unrecorded (unrecorded : session.recorded? operation = none)
    (issued : (effect session.world.mended).issued = (effect session.world).issued) :
    session.ContainsFailure evaluation operation := by
  have counters : (session.perform operation).1.world.counters =
      (session.mended.perform operation).1.world.counters := by
    rw [perform_counters_eq, perform_counters_eq, recorded?_mended, unrecorded]
    rfl
  have notRecorded : session.recorded? operation ≠ some evaluation := by
    rw [unrecorded]
    exact (Option.some_ne_none evaluation).symm
  rw [run_keepNothing] at performed performedMended
  constructor
  · rw [performed, performedMended]
    exact congrArg (Except.map fun _ => Answer.nothing) result.symm
  · rw [performed, performedMended]
    exact congrArg (fun world => { session with world }) apart.symm
  · intro _
    refine ⟨?_, counters⟩
    rw [performed, performedMended]
    exact issued.symm
  · exact fun recorded => absurd recorded notRecorded
  · exact fun recorded => absurd recorded notRecorded
  · exact fun recorded => absurd recorded notRecorded

end Contained

theorem containsFailure_count {id : String} (held : session.records id = some evaluation) :
    session.ContainsFailure evaluation (.count id) := by
  have recorded : session.recorded? (.count id) = some evaluation := recorded?_count.trans held
  have issued (world : World) : (evaluation.count world).issued = [] ++
      { entry := evaluation.metricEntry (evaluation.complaint? world.broken)
        threshold := world.level } :: [] := by
    rw [Evaluation.count_apply]
    rfl
  refine containsFailure_of_recorded (perform_count held) (perform_count held) ?_ ?_ recorded
    (issued session.world) (issued session.world.mended)
  · rw [Evaluation.count_apply, Evaluation.count_apply]
  · rw [Evaluation.count_apply, Evaluation.count_apply]
    rfl

theorem containsFailure_publish {id : String} (held : session.records id = some evaluation)
    (choice : SettingsChoice) : session.ContainsFailure evaluation (.publish id choice) := by
  obtain ⟨result, apart, issued⟩ :=
    evaluation.publish_mended (session.choose choice) session.world
  have sameResult := congrArg Outcome.result
    (Settings.obtained_mended (session.choose choice) session.world)
  by_cases counted : (session.obtained? choice).any Settings.metricsEnabled = true
  · have recorded : session.recorded? (.publish id choice) = some evaluation := by
      rw [recorded?_publish, held, Option.filter_some, if_pos counted]
    obtain ⟨current, found, enabled⟩ := Session.exists_obtained_of_counted counted
    refine containsFailure_of_recorded (perform_publish held) (perform_publish held) result apart
      recorded (Evaluation.publish_issued_of_counted found enabled) ?_
    rw [Evaluation.publish_issued_of_counted (sameResult.trans found) enabled,
      Settings.obtained_mended]
    rfl
  · have unrecorded : session.recorded? (.publish id choice) = none := by
      rw [recorded?_publish, held, Option.filter_some, if_neg counted]
    exact containsFailure_of_unrecorded (perform_publish held) (perform_publish held) result apart
      unrecorded (issued counted)

end Session

end DataGate

import DataGate.Proofs.CounterFailure
import DataGate.Proofs.LogFilter

namespace DataGate

namespace Evaluation

variable {evaluation : Evaluation}

/-- The entry is one for the audit log or shows a summary of the evaluation, at whatever time. -/
def Announces (evaluation : Evaluation) (entry : Log.Entry) : Prop :=
  entry.channel = .audit ∨ ∃ time, entry.message = evaluation.summaryAt time

/-- The entry tells the audit log of the evaluation, with all that a report has of it. -/
structure Audits (evaluation : Evaluation) (time : String) (entry : Log.Entry) : Prop where
  channel : entry.channel = .audit
  report : entry.context = .audited (evaluation.reportAt time)
  allowed : evaluation.decision.isAllowed = true →
    entry.level = .info ∧
      entry.message = "DATA_ALLOWED: Reason=" ++ evaluation.decision.grant.name
  blocked : ¬ evaluation.decision.isAllowed = true →
    entry.level = .warning ∧ ∃ severity : Severity,
      entry.message = "DATA_DISALLOWED: Severity=" ++ severity.name ++ " Reasons=" ++
        String.intercalate "," evaluation.decision.obstacles.names ∧
      (severity = .hard ↔ evaluation.decision.hasHard = true)

/-- The entry is the summary of the evaluation. -/
structure Summarizes (evaluation : Evaluation) (time : String) (entry : Log.Entry) : Prop where
  channel : entry.channel = .metrics
  level : entry.level = .debug
  message : entry.message = evaluation.summaryAt time

theorem audits_auditEntry (evaluation : Evaluation) (time : String) :
    evaluation.Audits time (evaluation.reportAt time).auditEntry where
  channel := Report.auditEntry_channel _
  report := Report.auditEntry_context _
  allowed allowed := by
    rw [Report.auditEntry_of_allowed _ allowed]
    exact ⟨rfl, rfl⟩
  blocked blocked := by
    rw [Report.auditEntry_of_blocked _ blocked]
    exact ⟨rfl, _, rfl, Report.severity_eq_hard_iff _⟩

theorem summarizes_summaryEntry (evaluation : Evaluation) (time : String) :
    evaluation.Summarizes time (summaryEntry (evaluation.summaryAt time)) where
  channel := rfl
  level := rfl
  message := rfl

theorem head?_toList_append {left : String} {c : Char} (first : left.toList.head? = some c)
    (right : String) : (left ++ right).toList.head? = some c := by
  rw [String.toList_append, List.head?_append, first, Option.some_or]

/-- The entry of the counting does not begin as a summary does. -/
theorem head?_metricEntry_message (complaint : Option String) :
    ∃ c, (evaluation.metricEntry complaint).message.toList.head? = some c ∧ c ≠ 'D' := by
  cases complaint with
  | none =>
      refine ⟨'M', ?_, by decide⟩
      simp only [metricEntry, countedEntry]
      iterate 3 refine head?_toList_append ?_ _
      decide +kernel
  | some complaint =>
      refine ⟨'[', ?_, by decide⟩
      simp only [metricEntry, uncountedEntry]
      refine head?_toList_append ?_ _
      decide +kernel

theorem metricEntry_message_ne_summaryAt (complaint : Option String) (time : String) :
    (evaluation.metricEntry complaint).message ≠ evaluation.summaryAt time := by
  obtain ⟨c, counted, different⟩ := evaluation.head?_metricEntry_message complaint
  have summed : (evaluation.summaryAt time).toList.head? = some 'D' := by
    unfold summaryAt
    iterate 7 refine head?_toList_append ?_ _
    decide +kernel
  intro same
  rw [same, summed] at counted
  cases counted
  exact different rfl

theorem not_announces_metricEntry (complaint : Option String) :
    ¬ evaluation.Announces (evaluation.metricEntry complaint) := by
  intro announces
  rcases announces with audited | ⟨time, summary⟩
  · rw [metricEntry_channel] at audited
    cases audited
  · exact metricEntry_message_ne_summaryAt complaint time summary

end Evaluation

namespace Settings

variable {world : World} {checked : Bool}

/-- A request that fails is a load that fails. -/
theorem shared_of_failed {fault : Fault} (failed : (shared checked world).result = .error fault) :
    world.shared = none ∧ shared checked world = load checked world := by
  cases present : world.shared with
  | some current =>
      rw [shared_of_some present] at failed
      cases failed
  | none =>
      rw [shared_result_of_none present] at failed
      exact ⟨rfl, shared_of_error present failed⟩

end Settings

namespace Session

variable {session : Session} {id : String} {choice : SettingsChoice} {evaluation : Evaluation}
  {settings : Settings}

/-- What a request to count the record leaves and writes, if evaluations are counted under these
settings. -/
def counting (session : Session) (id : String) (settings : Settings) : Session × List Log.Issue :=
  if settings.metricsEnabled then
    ((session.perform (.count id)).1, (session.perform (.count id)).2.issued)
  else (session, [])

theorem perform_count_eq (held : session.records id = some evaluation) :
    session.perform (.count id) =
      ({ session with
          world := { session.world with counters := evaluation.tallied session.world } },
        { answer := .ok .nothing
          issued := [session.world.issue
            (evaluation.metricEntry (evaluation.complaint? session.world.broken))] }) := by
  rw [perform_count held, run_keepNothing, Evaluation.count_apply]
  rfl

theorem counting_of_enabled (enabled : settings.metricsEnabled = true) :
    session.counting id settings =
      ((session.perform (.count id)).1, (session.perform (.count id)).2.issued) := by
  rw [counting, if_pos enabled]

theorem counting_of_disabled (disabled : ¬ settings.metricsEnabled = true) :
    session.counting id settings = (session, []) := by
  rw [counting, if_neg disabled]

theorem counting_eq (held : session.records id = some evaluation) (settings : Settings) :
    session.counting id settings =
      ({ session with world := (evaluation.countUnder settings session.world).world },
        (evaluation.countUnder settings session.world).issued) := by
  by_cases enabled : settings.metricsEnabled = true
  · rw [counting_of_enabled enabled, perform_count_eq held, Evaluation.countUnder, if_pos enabled,
      Evaluation.count_apply]
    rfl
  · rw [counting_of_disabled enabled, Evaluation.countUnder_of_disabled enabled]
    rfl

theorem not_announces_of_mem_counting (held : session.records id = some evaluation)
    {issue : Log.Issue} (member : issue ∈ (session.counting id settings).2) :
    ¬ evaluation.Announces issue.entry := by
  unfold counting at member
  split at member
  · rw [perform_count_eq held] at member
    rw [List.mem_singleton.mp member]
    exact Evaluation.not_announces_metricEntry _
  · cases member

/-- A publication under settings that it is given, in full. -/
theorem perform_publish_of_given (held : session.records id = some evaluation)
    (chosen : session.choose choice = some settings) :
    session.perform (.publish id choice) =
      ((session.counting id settings).1,
        { answer := ((evaluation.notices settings).map fun _ => .nothing).mapError .time
          issued := (session.counting id settings).2 ++
            ((evaluation.notices settings).toOption.getD []).map session.world.issue }) := by
  have found : (Settings.obtained (some settings) session.world).result = .ok settings := rfl
  rw [perform_publish held, run_keepNothing, chosen, evaluation.publish_of_ok found,
    counting_eq held, Evaluation.countUnder_issue]
  cases evaluation.notices settings <;> rfl

/-- A publication that gets no settings ends with the load that fails to give it any. -/
theorem perform_publish_of_unloaded {fault : Fault} (held : session.records id = some evaluation)
    (unchosen : session.choose choice = none)
    (failed : (Settings.shared true session.world).result = .error fault) :
    session.perform (.publish id choice) =
      ({ session with world := (Settings.load true session.world).world },
        { answer := .error fault, issued := (Settings.load true session.world).issued }) := by
  have unobtained : (Settings.obtained none session.world).result = .error fault := by
    rw [Settings.obtained_none, failed]
    rfl
  rw [perform_publish held, run_keepNothing, unchosen, evaluation.publish_of_error unobtained,
    Settings.obtained_none, (Settings.shared_of_failed failed).2]
  rfl

theorem answer_publish_eq_error_iff (held : session.records id = some evaluation)
    (chosen : session.choose choice = some settings) {fault : Fault} :
    (session.perform (.publish id choice)).2.answer = .error fault ↔
      ∃ reason, EvaluationTime.render evaluation.evaluatedMs settings.zone = .error reason ∧
        fault = .time reason := by
  rw [perform_publish_of_given held chosen]
  cases rendered : EvaluationTime.render evaluation.evaluatedMs settings.zone with
  | error reason =>
      rw [Evaluation.notices_of_unrendered rendered]
      constructor
      · intro failed
        cases failed
        exact ⟨reason, rfl, rfl⟩
      · intro failed
        obtain ⟨_, same, rfl⟩ := failed
        cases same
        rfl
  | ok time =>
      rw [Evaluation.notices_of_rendered rendered]
      constructor
      · intro failed
        cases failed
      · intro failed
        obtain ⟨_, same, _⟩ := failed
        cases same

theorem counting_records (held : session.records id = some evaluation) :
    (session.counting id settings).1.records = session.records := by
  rw [counting_eq held]

/-- Every further try counts the record once more. -/
theorem performAll_publish_eq (held : session.records id = some evaluation)
    (chosen : session.choose choice = some settings) (tries : Nat) :
    (session.performAll (List.replicate tries (.publish id choice))).1 =
      if settings.metricsEnabled then
        (session.performAll (List.replicate tries (.count id))).1
      else session := by
  induction tries generalizing session with
  | zero => exact (ite_self session).symm
  | succ tries ih =>
      have once : (session.perform (.publish id choice)).1 = (session.counting id settings).1 := by
        rw [perform_publish_of_given held chosen]
      change ((session.perform (.publish id choice)).1.performAll _).1 = _
      by_cases enabled : settings.metricsEnabled = true
      · have counted := perform_count_eq held
        rw [once, counting_of_enabled enabled, ih (by rw [counted]; exact held)
          (by rw [counted]; exact chosen), if_pos enabled, if_pos enabled]
        rfl
      · rw [once, counting_of_disabled enabled, ih held chosen, if_neg enabled, if_neg enabled]

/-- How a publication of this record deals with a time that cannot be shown under these settings.
That is the one thing it fails over. Either way it changes what counting the record changes, as
often as it is tried; but only if the time can be shown does it announce the record, to the audit
log if that is enabled and then in a summary. -/
structure FailsOverTime (session : Session) (id : String) (choice : SettingsChoice)
    (evaluation : Evaluation) (settings : Settings) : Prop where
  answer_iff : ∀ fault, (session.perform (.publish id choice)).2.answer = .error fault ↔
    ∃ reason, EvaluationTime.render evaluation.evaluatedMs settings.zone = .error reason ∧
      fault = .time reason
  changes : (session.perform (.publish id choice)).1 =
    if settings.metricsEnabled then (session.perform (.count id)).1 else session
  retried : ∀ tries, (session.performAll (List.replicate tries (.publish id choice))).1 =
    if settings.metricsEnabled then (session.performAll (List.replicate tries (.count id))).1
    else session
  records : (session.perform (.publish id choice)).1.records = session.records
  counted : ∀ issue ∈ (session.counting id settings).2, ¬ evaluation.Announces issue.entry
  failed : ∀ reason,
    EvaluationTime.render evaluation.evaluatedMs settings.zone = .error reason →
      (session.perform (.publish id choice)).2.issued = (session.counting id settings).2
  announced : ∀ time, EvaluationTime.render evaluation.evaluatedMs settings.zone = .ok time →
    evaluation.report settings.zone = .ok (evaluation.reportAt time) ∧
      ∃ audit summary, evaluation.Audits time audit ∧ evaluation.Summarizes time summary ∧
        (session.perform (.publish id choice)).2.issued = (session.counting id settings).2 ++
          ((if settings.auditEnabled then [audit] else []) ++ [summary]).map session.world.issue

theorem failsOverTime (held : session.records id = some evaluation)
    (chosen : session.choose choice = some settings) :
    session.FailsOverTime id choice evaluation settings where
  answer_iff _ := answer_publish_eq_error_iff held chosen
  changes := performAll_publish_eq held chosen 1
  retried := performAll_publish_eq held chosen
  records := by
    rw [perform_publish_of_given held chosen]
    exact counting_records held
  counted _ := not_announces_of_mem_counting held
  failed reason unrendered := by
    rw [perform_publish_of_given held chosen, Evaluation.notices_of_unrendered unrendered]
    exact List.append_nil _
  announced time rendered := by
    refine ⟨Evaluation.report_of_rendered rendered, _, _, evaluation.audits_auditEntry time,
      evaluation.summarizes_summaryEntry time, ?_⟩
    rw [perform_publish_of_given held chosen, Evaluation.notices_of_rendered rendered]
    rfl

/-- A publication that is given settings fails over the time of its record and over nothing else,
and what it counts before it fails it counts again when it is tried again. One that is given none
fails over settings that cannot be loaded, before it has counted or announced anything, and shares
none. -/
theorem publication_fails_over_time (session : Session) (id : String) (evaluation : Evaluation) :
    let ready := session.store id evaluation
    (∀ choice settings, ready.choose choice = some settings →
      ready.FailsOverTime id choice evaluation settings) ∧
      ∀ choice fault, ready.choose choice = none →
        (Settings.shared true ready.world).result = .error fault →
          let published := ready.perform (.publish id choice)
          published.2.answer = .error fault ∧
            (∀ error, fault = .settings error → error.code = "DEV-040") ∧
            published.1.world.counters = ready.world.counters ∧
            published.1.world.shared = none ∧ published.1.records = ready.records ∧
            ∀ issue ∈ published.2.issued, issue.entry.channel = .settings := by
  intro ready
  have held : ready.records id = some evaluation := if_pos rfl
  refine ⟨fun choice settings chosen => failsOverTime held chosen, ?_⟩
  intro choice fault unchosen failed published
  obtain ⟨absent, same⟩ := Settings.shared_of_failed failed
  have loads := Settings.loadsTo_load true ready.world
  have counters : (Settings.load true ready.world).world.counters = ready.world.counters :=
    Settings.keeps_load (fun _ _ => rfl) (fun _ _ => rfl) (fun _ _ => rfl) ready.world
  rw [same] at failed
  simp only [published, perform_publish_of_unloaded held unchosen (same ▸ failed)]
  refine ⟨trivial, ?_, counters, loads.shared_eq.trans absent, trivial,
    fun issue => loads.channel_eq⟩
  intro error refused
  rw [refused] at failed
  exact loads.code_eq failed

/-- A record of the year 10000 cannot be published although both switches are off and the level
hides the summary. With the counters on, two tries count its grant twice. Under a level that there
is not, a publication without settings fails over that instead. -/
theorem publication_fails_over_time_switched_off :
    let clock := Clock.ofReadings (.ok 253402300800000) []
    let evaluation :=
      (Evaluation.afterCalls { trigger := .newRequest, clock } clock [.permit .normal]).evaluation
    let ready := (ofBindings [("DATA_EVAL_LOG_LEVEL", "verbose")]).store "late" evaluation
    let off : Settings := { metricsEnabled := false, auditEnabled := false, logLevel := "CRITICAL" }
    let published := ready.perform (.publish "late" (.given off))
    let twice := (ready.performAll (List.replicate 2 (.publish "late" (.given {})))).1
    let unloaded := ready.perform (.publish "late" .absent)
    published.2.answer = .error (.time (.yearOutOfRange 10000)) ∧ published.1 = ready ∧
      published.2.issued = [] ∧ twice.world.counters.count (.grant .normal) = 2 ∧
      unloaded.2.answer = .error (.settings ({ logLevel := "VERBOSE" } : Settings).invalid) ∧
      unloaded.1.world.shared = none := by
  intro clock evaluation ready off published twice unloaded
  obtain ⟨given, absent⟩ :=
    publication_fails_over_time (ofBindings [("DATA_EVAL_LOG_LEVEL", "verbose")]) "late" evaluation
  have hidden := given (.given off) off rfl
  have tried := (given (.given {}) {} rfl).retried 2
  have unrendered : EvaluationTime.render evaluation.evaluatedMs off.zone =
      .error (.yearOutOfRange 10000) := by decide +kernel
  obtain ⟨answer, _, _, unshared, _⟩ := absent .absent _ rfl
    (show (Settings.shared true ready.world).result =
      .error (.settings ({ logLevel := "VERBOSE" } : Settings).invalid) by decide +kernel)
  refine ⟨(hidden.answer_iff _).mpr ⟨_, unrendered, rfl⟩, hidden.changes,
    hidden.failed _ unrendered, ?_, answer, unshared⟩
  rw [show twice = _ from tried]
  decide +kernel

end Session

end DataGate

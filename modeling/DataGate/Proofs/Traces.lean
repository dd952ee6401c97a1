import DataGate.Proofs.Conservation
import DataGate.Proofs.PublicationFailure
import DataGate.Proofs.Views

namespace DataGate

/-- The traces of one publication: by how much each label was raised, the audit entry and its
report, and the summary together with what it says. -/
structure Traces where
  gained : Label → Nat
  audit : Log.Entry
  report : Report
  carries : audit.context = .audited report
  text : String
  summary : Summary
  reads : Summary.read? text.toList = some summary

namespace Traces

/-- The traces tell of this grant and raise it alone among the grants. -/
structure TellOfGrant (traces : Traces) (grant : Grant) : Prop where
  level : traces.audit.level = .info
  message : traces.audit.message = "DATA_ALLOWED: Reason=" ++ grant.name
  report : traces.report.grant = grant.name
  summary : traces.summary.finding = .grant grant
  gained : ∀ other, traces.gained (.grant other) = if other = grant then 1 else 0

/-- The traces tell of these obstacles, in the order of their declaration, and raise each of them
once and no other. -/
structure TellOfObstacles (traces : Traces) (severity : Severity) (listed : List Obstacle) :
    Prop where
  ordered : Obstacle.Ordered listed
  level : traces.audit.level = .warning
  message : traces.audit.message = "DATA_DISALLOWED: Severity=" ++ severity.name ++ " Reasons=" ++
    String.intercalate "," (listed.map Obstacle.name)
  report : traces.report.obstacles = listed.map Obstacle.name
  summary : traces.summary.finding = .obstacles listed
  gained : ∀ obstacle rank, traces.gained (.obstacle obstacle rank) =
    if obstacle ∈ listed ∧ rank = obstacle.severity then 1 else 0
  severity_iff : severity = .hard ↔ ∃ obstacle, traces.gained (.obstacle obstacle .hard) = 1
  hasHard_iff : traces.report.hasHard = true ↔ severity = .hard

/-- The traces agree on a record of this trigger that was counted under this ruling. -/
structure Agree (traces : Traces) (trigger : Trigger) (ruling : Ruling) : Prop where
  channel : traces.audit.channel = .audit
  time : traces.report.evaluatedTime = traces.summary.time
  gained : ∀ other outcome, traces.gained (.evaluation other outcome) =
    if other = trigger ∧ outcome = ruling then 1 else 0
  allowed_iff : ruling = .allowed ↔ ∃ grant, traces.TellOfGrant grant
  otherwise : ruling ≠ .allowed → ∃ severity listed, traces.TellOfObstacles severity listed

end Traces

namespace Evaluation

variable (evaluation : Evaluation) {time : String}
  (wide : time.toList.length = Stamp.shape.length)

/-- The traces of the evaluation under a given display of its time. -/
def tracesAt : Traces where
  gained := evaluation.labels.count
  audit := (evaluation.reportAt time).auditEntry
  report := evaluation.reportAt time
  carries := Report.auditEntry_context _
  text := evaluation.summaryAt time
  summary := evaluation.summaryParts time
  reads := read?_summaryAt wide

theorem count_labels (label : Label) :
    evaluation.labels.count label = if label ∈ evaluation.labels then 1 else 0 :=
  evaluation.nodup_labels.count

theorem tracesAt_evaluation (trigger : Trigger) (ruling : Ruling) :
    (evaluation.tracesAt wide).gained (.evaluation trigger ruling) =
      if trigger = evaluation.trigger ∧ ruling = evaluation.ruling then 1 else 0 := by
  simp only [tracesAt, count_labels, evaluation_mem_labels]

theorem tracesAt_obstacle (obstacle : Obstacle) (severity : Severity) :
    (evaluation.tracesAt wide).gained (.obstacle obstacle severity) =
      if obstacle ∈ evaluation.decision.obstacles.toList ∧ severity = obstacle.severity then 1
      else 0 := by
  simp only [tracesAt, count_labels, obstacle_mem_labels, Decision.contains_iff]

theorem tracesAt_grant (allowed : evaluation.decision.isAllowed = true) (grant : Grant) :
    (evaluation.tracesAt wide).gained (.grant grant) =
      if grant = evaluation.decision.grant then 1 else 0 := by
  simp only [tracesAt, count_labels, grant_mem_labels, allowed, true_and]

theorem tellOfGrant (allowed : evaluation.decision.isAllowed = true) :
    (evaluation.tracesAt wide).TellOfGrant evaluation.decision.grant := by
  have entry := (evaluation.reportAt time).auditEntry_of_allowed allowed
  exact
    { level := congrArg Log.Entry.level entry
      message := congrArg Log.Entry.message entry
      report := rfl
      summary := finding_of_allowed allowed
      gained := evaluation.tracesAt_grant wide allowed }

/-- An obstacle is raised with its own severity, so one is raised as hard if one of those listed is
hard. -/
theorem tellOfObstacles (blocked : ¬ evaluation.decision.isAllowed = true) :
    (evaluation.tracesAt wide).TellOfObstacles (evaluation.reportAt time).severity
      evaluation.decision.obstacles.toList := by
  have entry := (evaluation.reportAt time).auditEntry_of_blocked blocked
  have raised : evaluation.decision.hasHard = true ↔
      ∃ obstacle, (evaluation.tracesAt wide).gained (.obstacle obstacle .hard) = 1 := by
    rw [Decision.hasHard_iff]
    refine exists_congr fun obstacle => ?_
    rw [tracesAt_obstacle, Obstacle.isHard, beq_iff_eq, eq_comm (a := obstacle.severity)]
    simp only [ite_eq_left_iff, Nat.zero_ne_one, imp_false, not_not]
  exact
    { ordered := evaluation.decision.obstacles.ordered_toList
      level := congrArg Log.Entry.level entry
      message := congrArg Log.Entry.message entry
      report := rfl
      summary := finding_of_blocked blocked
      gained := evaluation.tracesAt_obstacle wide
      severity_iff := (Report.severity_eq_hard_iff _).trans raised
      hasHard_iff := (Report.severity_eq_hard_iff _).symm }

theorem tracesAt_agree :
    (evaluation.tracesAt wide).Agree evaluation.trigger evaluation.ruling where
  channel := Report.auditEntry_channel _
  time := rfl
  gained := evaluation.tracesAt_evaluation wide
  allowed_iff := by
    rw [evaluation.ruling_eq_allowed_iff]
    refine ⟨fun allowed => ⟨_, evaluation.tellOfGrant wide allowed⟩, fun told => ?_⟩
    obtain ⟨grant, tells⟩ := told
    by_contra blocked
    -- Only a record that is allowed has its entry at this level.
    have warned := (evaluation.tellOfObstacles wide blocked).level
    rw [tells.level] at warned
    cases warned
  otherwise refused := by
    rw [Ne, evaluation.ruling_eq_allowed_iff] at refused
    exact ⟨_, _, evaluation.tellOfObstacles wide refused⟩

end Evaluation

namespace Log

/-- A log at its lowest level lets through every entry that has a level at all. -/
theorem emitted_map_issue {world : World} {entries : List Entry} (lowest : world.level = .debug)
    (levels : ∀ entry ∈ entries, Level.debug.admits entry.level = true) :
    emitted (entries.map world.issue) = entries := by
  have passes : entries.filter (Issue.isEmitted ∘ world.issue) = entries := by
    refine List.filter_eq_self.mpr fun entry member => ?_
    rw [← levels entry member, ← lowest]
    rfl
  rw [emitted, List.filter_map, passes, List.map_map]
  exact List.map_id entries

end Log

namespace Session

variable {session : Session} {id : String} {choice : SettingsChoice} {evaluation : Evaluation}
  {settings : Settings} {time : String}

/-- The publication succeeds and leaves these traces, after whatever it wrote to obtain its
settings. If the lowest level is then in force, they are all that a reader sees of the rest, but for
the entry that says that the record was counted. -/
structure Leaves (session : Session) (id : String) (choice : SettingsChoice)
    (evaluation : Evaluation) (traces : Traces) : Prop where
  answer : (session.perform (.publish id choice)).2.answer = .ok .nothing
  counts : ∀ label, (session.perform (.publish id choice)).1.world.counters.count label =
    session.world.counters.count label + traces.gained label
  issued : (session.perform (.publish id choice)).2.issued =
    (Settings.obtained (session.choose choice) session.world).issued ++
      [evaluation.countedEntry, traces.audit, Evaluation.summaryEntry traces.text].map
        (Settings.obtained (session.choose choice) session.world).world.issue
  emitted : (Settings.obtained (session.choose choice) session.world).world.level = .debug →
    (session.perform (.publish id choice)).2.emitted =
      Log.emitted (Settings.obtained (session.choose choice) session.world).issued ++
        [evaluation.countedEntry, traces.audit, Evaluation.summaryEntry traces.text]

/-- Counting raises the labels of the record, each once, if no counter that it asks is broken. -/
theorem counts_publish (held : session.records id = some evaluation)
    (found : (Settings.obtained (session.choose choice) session.world).result = .ok settings)
    (metrics : settings.metricsEnabled = true) (calm : ¬ evaluation.Disturbed session.world)
    (label : Label) :
    (session.perform (.publish id choice)).1.world.counters.count label =
      session.world.counters.count label + evaluation.labels.count label := by
  have silent := Evaluation.complaint?_eq_none_iff.mpr calm
  have enabled : (Except.ok settings : Except Fault Settings).toOption.any
      Settings.metricsEnabled = true := metrics
  have counted : (session.perform (.publish id choice)).1.world.counters =
      evaluation.labels.foldl Counters.increment session.world.counters := by
    rw [perform_publish held, run_keepNothing, Evaluation.publish_counters, found, if_pos enabled,
      Evaluation.tallied, Evaluation.tally_of_silent silent]
  rw [counted, Counters.count_foldl_increment]

theorem leaves_tracesAt (held : session.records id = some evaluation)
    (found : (Settings.obtained (session.choose choice) session.world).result = .ok settings)
    (metrics : settings.metricsEnabled = true) (audits : settings.auditEnabled = true)
    (calm : ¬ evaluation.Disturbed session.world)
    (rendered : EvaluationTime.render evaluation.evaluatedMs settings.zone = .ok time) :
    session.Leaves id choice evaluation
      (evaluation.tracesAt (Evaluation.length_of_render rendered)) := by
  let written := [evaluation.countedEntry, (evaluation.reportAt time).auditEntry,
    Evaluation.summaryEntry (evaluation.summaryAt time)]
  have noted : evaluation.notices settings = .ok written.tail := by
    rw [Evaluation.notices_of_rendered rendered, if_pos audits]
    rfl
  have issued : (session.perform (.publish id choice)).2.issued =
      (Settings.obtained (session.choose choice) session.world).issued ++
        written.map (Settings.obtained (session.choose choice) session.world).world.issue := by
    rw [perform_publish held, run_issued, Evaluation.publish_issued_of_counted found metrics,
      Evaluation.complaint?_eq_none_iff.mpr calm, noted]
    rfl
  have levels : ∀ entry ∈ written, Log.Level.debug.admits entry.level = true := by
    simp only [written, List.forall_mem_cons]
    exact ⟨rfl, Report.admits_auditEntry _, rfl, List.forall_mem_nil _⟩
  exact
    { answer := by
        rw [perform_publish held, run_keepNothing, evaluation.publish_of_ok found, noted]
        rfl
      counts := counts_publish held found metrics calm
      issued
      emitted := fun lowest => by
        rw [Response.emitted, issued, Log.emitted_append, Log.emitted_map_issue lowest levels]
        rfl }

/-- A publication that obtains settings with both switches on, with no broken counter to ask and a
time that can be shown, leaves traces that agree. The record counts as allowed exactly if the audit
log and the summary name the one grant that is raised. Otherwise they list the obstacles that are
raised, in one order, and call them hard exactly if one of them is raised as hard. -/
theorem publication_traces_agree (session : Session) (id : String) (choice : SettingsChoice)
    (evaluation : Evaluation) (settings : Settings) (time : String)
    (held : session.records id = some evaluation)
    (found : (Settings.obtained (session.choose choice) session.world).result = .ok settings)
    (metrics : settings.metricsEnabled = true) (audits : settings.auditEnabled = true)
    (calm : ¬ evaluation.Disturbed session.world)
    (rendered : EvaluationTime.render evaluation.evaluatedMs settings.zone = .ok time) :
    ∃ traces ruling, session.Leaves id choice evaluation traces ∧
      traces.Agree evaluation.trigger ruling :=
  ⟨_, _, leaves_tracesAt held found metrics audits calm rendered, evaluation.tracesAt_agree _⟩

/-- A publication that itself lowers the level, of two obstacles named out of order and more than
once. The one broken counter is not asked. -/
theorem publication_traces_agree_loaded :
    let clock := Clock.ofReadings (.ok 5) [.error .stopped]
    let evaluation := (Evaluation.afterCalls { trigger := .simLoaded, clock } clock
      [.permit .normal, .block .simNotReady, .block .dataDisabled, .block .simNotReady]).evaluation
    let bindings := [("DATA_EVAL_LOG_LEVEL", "debug"), ("DATA_EVAL_DISPLAY_UTC", "yes")]
    let session :=
      (((ofBindings bindings).perform (.breakCounter .grants "full")).1).store "one" evaluation
    (session.perform (.publish "one" .absent)).2.emitted.map Log.Entry.message =
        ["Metric: data_evaluation | evaluation_reason=SIM_LOADED | outcome=DISALLOWED",
          "DATA_DISALLOWED: Severity=HARD Reasons=DATA_DISABLED,SIM_NOT_READY",
          "Data evaluation: evaluation reason:SIM_LOADED, " ++
            "Data disallowed reasons: DATA_DISABLED SIM_NOT_READY, candidate profile=None, " ++
            "time=01-01 00:00:00.005"] ∧
      ∃ traces ruling, session.Leaves "one" .absent evaluation traces ∧
        traces.Agree .simLoaded ruling := by
  intro clock evaluation bindings session
  have found : (Settings.obtained (session.choose .absent) session.world).result =
      .ok { displayUtc := true, logLevel := "DEBUG" } := by decide +kernel
  have calm : ¬ evaluation.Disturbed session.world :=
    Evaluation.complaint?_eq_none_iff.mp (by decide +kernel)
  have rendered : EvaluationTime.render evaluation.evaluatedMs .utc =
      .ok "01-01 00:00:00.005" := by decide +kernel
  refine ⟨by decide +kernel, ?_⟩
  exact publication_traces_agree session "one" .absent evaluation _ _ rfl found rfl rfl calm
    rendered

end Session

end DataGate

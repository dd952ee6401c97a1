import DataGate.Proofs.Recording

/-!
The operations that ask for the shared settings: a request, checked or not, and a publication that
is given no settings. All of them do to the world what `Settings.shared` does, but for the counters.
With an instance in the world that is nothing at all; without one it is a load.
-/

namespace DataGate

variable {γ : Type} {view : World → γ}

namespace Settings

open Effect

variable {world : World} {checked : Bool} {current loaded : Instance} {outcome : Outcome Instance}

/-- A load makes the next instance, of the settings that the environment it leaves stands for. -/
theorem LoadsTo.ok (loads : LoadsTo world checked outcome) (done : outcome.result = .ok loaded) :
    loaded = { serial := world.created, settings := ofEnvironment outcome.world.environment } ∧
      outcome.world.created = world.created + 1 := by
  cases loads with
  | refused found => cases done
  | invalid merged invalid => cases done
  | unchecked merged =>
      cases done
      exact ⟨rfl, rfl⟩
  | valid merged valid named =>
      cases done
      exact ⟨rfl, rfl⟩

theorem LoadsTo.created_le (loads : LoadsTo world checked outcome) :
    world.created ≤ outcome.world.created := by
  cases loads with
  | refused found => exact Nat.le_refl _
  | invalid merged invalid => exact Nat.le_refl _
  | unchecked merged => exact Nat.le_succ _
  | valid merged valid named => exact Nat.le_succ _

theorem shared_result_of_none (absent : world.shared = none) :
    (shared checked world).result = (load checked world).result := by
  cases done : (load checked world).result with
  | error fault => rw [shared_of_error absent done, done]
  | ok loaded => rw [shared_of_ok absent done, done]

theorem shared_view_of_none (absent : world.shared = none)
    (blind : World.Ignores view .shared) :
    view (shared checked world).world = view (load checked world).world := by
  cases done : (load checked world).result with
  | error fault => rw [shared_of_error absent done]
  | ok loaded =>
      rw [shared_of_ok absent done]
      exact blind _ _

/-- An instance that is there stays, and one that the request obtains is there afterwards. -/
theorem shared_shared (checked : Bool) (world : World) :
    (shared checked world).world.shared =
      world.shared.or (shared checked world).result.toOption := by
  cases present : world.shared with
  | some current => rw [shared_of_some present, present, Option.some_or]
  | none =>
      rw [Option.none_or]
      cases done : (load checked world).result with
      | error fault =>
          rw [shared_of_error present done, load_shared, present, done]
          rfl
      | ok loaded =>
          rw [shared_of_ok present done, done]
          rfl

end Settings

namespace Report

variable (report : Report)

theorem auditEntry_of_allowed (allowed : report.allowed = true) :
    report.auditEntry =
      { channel := .audit
        level := .info
        message := "DATA_ALLOWED: Reason=" ++ report.grant
        context := .audited report } :=
  if_pos allowed

/-- The severity that the audit log shows for a report of obstacles. -/
def severity : Severity :=
  if report.hasHard then .hard else .soft

theorem severity_eq_hard_iff : report.severity = .hard ↔ report.hasHard = true := by
  simp [severity]

theorem auditEntry_of_blocked (blocked : ¬ report.allowed = true) :
    report.auditEntry =
      { channel := .audit
        level := .warning
        message := "DATA_DISALLOWED: Severity=" ++ report.severity.name ++ " Reasons=" ++
          String.intercalate "," report.obstacles
        context := .audited report } :=
  if_neg blocked

theorem auditEntry_channel : report.auditEntry.channel = .audit := by
  unfold auditEntry
  split <;> rfl

theorem auditEntry_context : report.auditEntry.context = .audited report := by
  unfold auditEntry
  split <;> rfl

theorem admits_auditEntry : Log.Level.debug.admits report.auditEntry.level = true := by
  unfold auditEntry
  split <;> rfl

end Report

namespace Evaluation

open Effect

variable (evaluation : Evaluation)

/-- Beside the counters, a publication changes what looking for its settings changes. -/
theorem publish_view (counters : World.Ignores view .counters) (settings : Option Settings)
    (world : World) :
    view (evaluation.publish settings world).world =
      view (Settings.obtained settings world).world := by
  cases found : (Settings.obtained settings world).result with
  | error fault => rw [publish_of_error evaluation found]
  | ok current =>
      rw [publish_of_ok evaluation found]
      exact evaluation.keeps_countUnder counters current _

/-- With a shared instance, a publication that is given no settings is one that is given those. -/
theorem publish_of_shared {world : World} {current : Instance}
    (present : world.shared = some current) :
    evaluation.publish none world = evaluation.publish (some current.settings) world := by
  have found : (Settings.shared true world).result = .ok current := by
    rw [Settings.shared_of_some present]
  change (Settings.shared true >>= fun current => evaluation.publishWith current.settings) world = _
  rw [bind_apply_ok found, Settings.shared_of_some present, List.nil_append]
  rfl

theorem metricEntry_channel (complaint : Option String) :
    (evaluation.metricEntry complaint).channel = .metrics := by
  cases complaint <;> rfl

theorem channel_of_mem_notices {settings : Settings} {entry : Log.Entry}
    (member : entry ∈ (evaluation.notices settings).toOption.getD []) :
    entry.channel = .audit ∨ entry.channel = .metrics := by
  unfold notices report summary at member
  cases rendered : EvaluationTime.render evaluation.evaluatedMs settings.zone with
  | error reason =>
      rw [rendered] at member
      cases member
  | ok time =>
      rw [rendered] at member
      rcases List.mem_append.mp member with listed | listed
      · split at listed
        · rw [List.mem_singleton.mp listed]
          exact Or.inl (Report.auditEntry_channel _)
        · cases listed
      · rw [List.mem_singleton.mp listed]
        exact Or.inr rfl

/-- Publishing under settings that are given writes nothing about settings. -/
theorem channel_of_mem_publish {settings : Settings} {world : World} {issue : Log.Issue}
    (member : issue ∈ (evaluation.publish (some settings) world).issued) :
    issue.entry.channel ≠ .settings := by
  rw [publish_of_ok evaluation rfl] at member
  rcases List.mem_append.mp member with none | member
  · cases none
  · rcases List.mem_append.mp member with counted | noticed
    · unfold countUnder at counted
      split at counted
      · rw [count_apply, List.mem_singleton] at counted
        rw [counted]
        simp [World.issue, metricEntry_channel]
      · cases counted
    · obtain ⟨entry, listed, rfl⟩ := List.mem_map.mp noticed
      rcases evaluation.channel_of_mem_notices listed with same | same <;>
        simp [World.issue, same]

end Evaluation

namespace Session

variable {session : Session} {operation : Operation} {checked : Bool} {current : Instance}

/-- Whether the operation asks for the shared settings, and then whether for a checked instance. -/
def request? (session : Session) : Operation → Option Bool
  | .sharedSettings checked => some checked
  | .publish id choice => match session.records id, session.choose choice with
      | some _, none => some true
      | _, _ => none
  | _ => none

/-- The instance that the operation gets hold of by asking for the shared one. -/
def served? (session : Session) (operation : Operation) : Option Instance :=
  (session.request? operation).bind fun checked =>
    (Settings.shared checked session.world).result.toOption

theorem served?_of_request (request : session.request? operation = some checked) :
    session.served? operation = (Settings.shared checked session.world).result.toOption := by
  rw [served?, request, Option.bind_some]

theorem served?_of_unrequested (unrequested : session.request? operation = none) :
    session.served? operation = none := by
  rw [served?, unrequested, Option.bind_none]

theorem served?_of_shared (request : session.request? operation = some checked)
    (present : session.world.shared = some current) :
    session.served? operation = some current := by
  rw [served?_of_request request, Settings.shared_of_some present]
  rfl

theorem served?_of_none (request : session.request? operation = some checked)
    (absent : session.world.shared = none) :
    session.served? operation = (Settings.load checked session.world).result.toOption := by
  rw [served?_of_request request, Settings.shared_result_of_none absent]

/-- A request is either the operation of that name or a publication of a record that is there. -/
theorem request?_eq_some_iff :
    session.request? operation = some checked ↔
      operation = .sharedSettings checked ∨
        ∃ id choice evaluation, operation = .publish id choice ∧ checked = true ∧
          session.records id = some evaluation ∧ session.choose choice = none := by
  constructor
  · intro request
    cases operation with
    | sharedSettings other =>
        cases request
        exact Or.inl rfl
    | publish id choice =>
        cases held : session.records id with
        | none => simp [request?, held] at request
        | some evaluation =>
            cases chosen : session.choose choice with
            | some settings => simp [request?, held, chosen] at request
            | none =>
                simp only [request?, held, chosen, Option.some.injEq] at request
                exact Or.inr ⟨id, choice, evaluation, rfl, request.symm, held, chosen⟩
    | _ => cases request
  · intro asked
    rcases asked with rfl | ⟨id, choice, evaluation, rfl, rfl, held, absent⟩
    · rfl
    · simp only [request?, held, absent]

theorem perform_view_of_request (counters : World.Ignores view .counters)
    (request : session.request? operation = some checked) :
    view (session.perform operation).1.world =
      view (Settings.shared checked session.world).world := by
  rcases request?_eq_some_iff.mp request with rfl | ⟨id, choice, evaluation, rfl, rfl, held, absent⟩
  · exact congrArg view (run_world fun _ _ => rfl)
  · rw [perform_publish held, run_world fun _ _ => rfl, absent, evaluation.publish_view counters,
      Settings.obtained_none]

/-- A publication that asks for no shared settings has those it is given, or nothing to publish. -/
theorem perform_publish_view_of_unrequested {id : String} {choice : SettingsChoice}
    (counters : World.Ignores view .counters)
    (unrequested : session.request? (.publish id choice) = none) :
    view (session.perform (.publish id choice)).1.world = view session.world := by
  cases held : session.records id with
  | none => simp only [perform, withRecord, held]; rfl
  | some evaluation =>
      rw [perform_publish held, run_world fun _ _ => rfl, evaluation.publish_view counters]
      cases chosen : session.choose choice with
      | some settings => rfl
      | none =>
          have request : session.request? (.publish id choice) = some true :=
            request?_eq_some_iff.mpr (Or.inr ⟨id, choice, evaluation, rfl, rfl, held, chosen⟩)
          rw [unrequested] at request
          cases request

theorem perform_loadSettings_world (session : Session) (checked : Bool) :
    (session.perform (.loadSettings checked)).1.world =
      (Settings.load checked session.world).world :=
  run_world fun _ _ => rfl

theorem perform_answer_of_failed {fault : Fault}
    (request : session.request? operation = some checked)
    (failed : (Settings.shared checked session.world).result = .error fault) :
    (session.perform operation).2.answer = .error fault := by
  rcases request?_eq_some_iff.mp request with rfl | ⟨id, choice, evaluation, rfl, rfl, held, absent⟩
  · exact congrArg (fun outcome => outcome.2.answer) (run_of_error failed adoptShared)
  · have unobtained : (Settings.obtained none session.world).result = .error fault := by
      rw [Settings.obtained_none, failed]
      rfl
    have unpublished : (evaluation.publish none session.world).result = .error fault := by
      rw [evaluation.publish_of_error unobtained]
    rw [perform_publish held, absent, run_of_error unpublished]

end Session

end DataGate

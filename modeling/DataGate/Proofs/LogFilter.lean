import DataGate.Proofs.LogLevel

/-!
The level of the log does nothing but filter it. Operations that have no business with the level
come to the same under every level and write the same entries; a reader of the log sees those of
them that the level admits. Loading settings changes the level midway, so a publication that loads
its settings is filtered by the level before it as far as the load goes and by the new one from
there on.
-/

namespace DataGate

namespace Log

variable {level other : Level} {issues : List Issue}

/-- The same entry, written while this level was in force. -/
def Issue.under (level : Level) (issue : Issue) : Issue :=
  { issue with threshold := level }

theorem emitted_map_under (level : Level) (issues : List Issue) :
    emitted (issues.map (Issue.under level)) =
      (issues.map Issue.entry).filter (level.admits ·.level) := by
  simp only [emitted, List.filter_map, List.map_map]
  rfl

theorem emitted_append (earlier later : List Issue) :
    emitted (earlier ++ later) = emitted earlier ++ emitted later := by
  simp only [emitted, List.filter_append, List.map_append]

/-- No level lets through what the lowest one does not. -/
theorem admits_debug (admitted : level.admits other = true) : Level.debug.admits other = true := by
  have lowest : Level.debug.rank ≤ level.effective.rank := by cases level <;> decide
  simp only [Level.admits, decide_eq_true_eq] at *
  exact Nat.le_trans lowest admitted

theorem filter_admits_debug (level : Level) (entries : List Entry) :
    (entries.filter (Level.debug.admits ·.level)).filter (level.admits ·.level) =
      entries.filter (level.admits ·.level) := by
  rw [List.filter_filter]
  refine List.filter_congr fun entry _ => ?_
  cases admitted : level.admits entry.level with
  | false => rfl
  | true => rw [admits_debug admitted]; rfl

end Log

def World.atLevel (world : World) (level : Log.Level) : World :=
  { world with level }

def Outcome.under {α : Type} (level : Log.Level) (outcome : Outcome α) : Outcome α where
  result := outcome.result
  world := outcome.world.atLevel level
  issued := outcome.issued.map (Log.Issue.under level)

namespace Effect

variable {α β ε : Type} {level : Log.Level}

/-- Under another level of the log the effect comes to the same and writes the same entries. -/
def OverlooksLevel (effect : Effect α) : Prop :=
  ∀ world level, effect (world.atLevel level) = (effect world).under level

theorem map_issue_atLevel (world : World) (level : Log.Level) (entries : List Log.Entry) :
    entries.map (world.atLevel level).issue =
      (entries.map world.issue).map (Log.Issue.under level) := by
  rw [List.map_map]
  rfl

theorem overlooksLevel_pure (value : α) : OverlooksLevel (Pure.pure value) := fun _ _ => rfl

theorem overlooksLevel_issue (entry : Log.Entry) : OverlooksLevel (issue entry) := fun _ _ => rfl

theorem overlooksLevel_fail (fault : Fault) : OverlooksLevel (fail fault : Effect α) :=
  fun _ _ => rfl

theorem overlooksLevel_modify {change : World → World}
    (same : ∀ world level, change (world.atLevel level) = (change world).atLevel level) :
    OverlooksLevel (modify change) := by
  intro world level
  simp only [modify, same]
  rfl

theorem overlooksLevel_ofExcept (fault : ε → Fault) (result : Except ε α) :
    OverlooksLevel (ofExcept fault result) := by
  cases result with
  | ok value => exact overlooksLevel_pure value
  | error reason => exact overlooksLevel_fail (fault reason)

theorem OverlooksLevel.bind {first : Effect α} {next : α → Effect β}
    (overlooks : OverlooksLevel first) (overlooksNext : ∀ value, OverlooksLevel (next value)) :
    OverlooksLevel (first >>= next) := by
  intro world level
  have same := overlooks world level
  have sameResult := congrArg Outcome.result same
  cases done : (first world).result with
  | error fault =>
      rw [bind_apply_error done, bind_apply_error (sameResult.trans done), same]
      rfl
  | ok value =>
      rw [bind_apply_ok done, bind_apply_ok (sameResult.trans done), same]
      have rest := overlooksNext value (first world).world level
      simp only [Outcome.under] at rest ⊢
      rw [rest, List.map_append]

/-- What is read of the world may be anything but its level. -/
theorem overlooksLevel_read_bind {next : World → Effect β}
    (same : ∀ world level, next (world.atLevel level) = next world)
    (overlooksNext : ∀ world, OverlooksLevel (next world)) : OverlooksLevel (read >>= next) := by
  intro world level
  rw [read_bind, read_bind, same]
  exact overlooksNext world world level

end Effect

namespace Settings

open Effect

theorem overlooksLevel_validate (settings : Settings) : OverlooksLevel settings.validate := by
  unfold validate
  split
  · exact overlooksLevel_issue settings.validatedEntry
  · exact (overlooksLevel_issue settings.invalidEntry).bind fun _ => overlooksLevel_fail _

theorem overlooksLevel_reset : OverlooksLevel reset :=
  (overlooksLevel_modify fun _ _ => rfl).bind fun _ => overlooksLevel_issue resetEntry

theorem overlooksLevel_assignVariable (name value : String) :
    OverlooksLevel (assignVariable name value) :=
  overlooksLevel_read_bind (fun _ _ => rfl) fun _ => (overlooksLevel_ofExcept _ _).bind fun _ =>
    overlooksLevel_modify fun _ _ => rfl

/-- A load writes about settings and nothing else. -/
theorem LoadsTo.channel_eq {world : World} {checked : Bool} {outcome : Outcome Instance}
    (loads : LoadsTo world checked outcome) {issue : Log.Issue} (member : issue ∈ outcome.issued) :
    issue.entry.channel = .settings := by
  cases loads with
  | refused found => cases member
  | _ =>
      obtain ⟨entry, listed, rfl⟩ := List.mem_map.mp member
      rcases List.mem_append.mp listed with warned | noted
      · obtain ⟨switch, text, rfl⟩ := exists_rejected_of_mem_warnings warned
        rfl
      · simp only [List.mem_cons, List.not_mem_nil, or_false] at noted
        rcases noted with rfl | rfl <;> rfl

/-- A checked load that succeeds does not depend on the level it finds: it puts its own in place of
it. What it writes, it writes under the level that it finds. -/
theorem load_atLevel_of_ok {world : World} {loaded : Instance}
    (done : (load true world).result = .ok loaded) (level : Log.Level) :
    load true (world.atLevel level) =
      { load true world with issued := (load true world).issued.map (Log.Issue.under level) } := by
  have loads := loadsTo_load true world
  generalize load true world = outcome at done loads
  cases loads with
  | refused found => cases done
  | invalid merged invalid => cases done
  | valid merged valid named =>
      have merged : (world.atLevel level).loaded = _ := merged
      rw [load_of_valid merged valid named, map_issue_atLevel]
      rfl

theorem shared_atLevel_of_ok {world : World} {loaded : Instance} (absent : world.shared = none)
    (done : (load true world).result = .ok loaded) (level : Log.Level) :
    (shared true (world.atLevel level)).world = (shared true world).world := by
  have same := load_atLevel_of_ok done level
  have doneUnder : (load true (world.atLevel level)).result = .ok loaded := by rw [same, done]
  have absentUnder : (world.atLevel level).shared = none := absent
  rw [shared_of_ok absent done, shared_of_ok absentUnder doneUnder, same]

end Settings

namespace Verdict

open Effect

theorem overlooksLevel_reach (obstacles : List Obstacle) (grants : List Grant) :
    OverlooksLevel (reach obstacles grants) :=
  (overlooksLevel_issue _).bind fun _ => overlooksLevel_pure _

theorem overlooksLevel_record (verdict : Verdict) (trigger : Trigger)
    (candidate : Option Candidate) : OverlooksLevel (verdict.record trigger candidate) := by
  intro world level
  simp only [record, map_issue_atLevel]
  rfl

end Verdict

namespace Evaluation

open Effect

variable (evaluation : Evaluation)

theorem overlooksLevel_count : OverlooksLevel evaluation.count := by
  intro world level
  rw [count_apply, count_apply]
  rfl

theorem overlooksLevel_audit (zone : Zone) : OverlooksLevel (evaluation.audit zone) :=
  (overlooksLevel_ofExcept _ _).bind fun report => overlooksLevel_issue report.auditEntry

theorem overlooksLevel_publishWith (settings : Settings) :
    OverlooksLevel (evaluation.publishWith settings) := by
  rw [publishWith_eq]
  refine OverlooksLevel.bind ?_ fun _ world level => ?_
  · unfold countUnder
    split
    · exact evaluation.overlooksLevel_count
    · exact overlooksLevel_pure ()
  · rw [evaluation.announce_apply, evaluation.announce_apply, map_issue_atLevel]
    rfl

end Evaluation

def Response.under (level : Log.Level) (response : Response) : Response :=
  { response with issued := response.issued.map (Log.Issue.under level) }

/-- What a reader of the log sees of the operation. -/
def Response.emitted (response : Response) : List Log.Entry :=
  Log.emitted response.issued

namespace Session

variable {session : Session} {operation : Operation} {level : Log.Level}

def atLevel (session : Session) (level : Log.Level) : Session :=
  { session with world := session.world.atLevel level }

/-- The operation neither sets the level of the log nor shows it, and if it publishes then under
settings of the caller's own. -/
def LevelFree (session : Session) : Operation → Prop
  | .loadSettings _ | .sharedSettings _ | .makeSettings _ | .updateSettings _ | .applyLevel => False
  | .publish _ choice => (session.choose choice).isSome = true
  | _ => True

/-- What an operation does under another level. -/
def relevel (level : Log.Level) (done : Session × Response) : Session × Response :=
  (done.1.atLevel level, done.2.under level)

theorem run_atLevel {α : Type} {effect : Effect α} {keep : α → Session → Session × Answer}
    (overlooks : effect.OverlooksLevel)
    (frame : ∀ value session, keep value (session.atLevel level) =
      ((keep value session).1.atLevel level, (keep value session).2)) :
    (session.atLevel level).run effect keep = relevel level (session.run effect keep) := by
  have same : effect (session.atLevel level).world = (effect session.world).under level :=
    overlooks session.world level
  have sameResult := congrArg Outcome.result same
  cases done : (effect session.world).result with
  | error fault =>
      rw [run_of_error done, run_of_error (sameResult.trans done), same]
      rfl
  | ok value =>
      rw [run_of_ok done, run_of_ok (sameResult.trans done), same]
      have kept := frame value { session with world := (effect session.world).world }
      exact congrArg (fun done => (done.1, { answer := .ok done.2, issued := _ : Response })) kept

theorem run_keepNothing_atLevel {effect : Effect Unit} (overlooks : effect.OverlooksLevel) :
    (session.atLevel level).run effect keepNothing =
      relevel level (session.run effect keepNothing) :=
  run_atLevel overlooks fun _ _ => rfl

theorem withRecord_atLevel {id : String} {operate operateUnder : Evaluation → Session × Response}
    (same : ∀ evaluation, operateUnder evaluation = relevel level (operate evaluation)) :
    (session.atLevel level).withRecord id operateUnder =
      relevel level (session.withRecord id operate) := by
  have held : (session.atLevel level).records id = session.records id := rfl
  simp only [withRecord, held]
  cases session.records id with
  | none => rfl
  | some evaluation => exact same evaluation

theorem withCurrent_atLevel {operate operateUnder : Instance → Session × Response}
    (same : ∀ current, operateUnder current = relevel level (operate current)) :
    (session.atLevel level).withCurrent operateUnder =
      relevel level (session.withCurrent operate) := by
  have held : (session.atLevel level).current = session.current := rfl
  simp only [withCurrent, held]
  cases session.current with
  | none => rfl
  | some current => exact same current

theorem commit_atLevel (session : Session) (id : String) (change : Change) (level : Log.Level) :
    (session.atLevel level).commit id change = relevel level (session.commit id change) := by
  have issued : change.entries.map (session.world.atLevel level).issue = _ :=
    Effect.map_issue_atLevel session.world level change.entries
  exact congrArg (fun issued => (((session.commit id change).1.atLevel level),
    { (session.commit id change).2 with issued })) issued

/-- An operation that has no business with the level does the same under another level. -/
theorem perform_atLevel (free : session.LevelFree operation) (level : Log.Level) :
    (session.atLevel level).perform operation = relevel level (session.perform operation) := by
  cases operation with
  | loadSettings checked => cases free
  | sharedSettings checked => cases free
  | makeSettings settings => cases free
  | updateSettings update => cases free
  | applyLevel => cases free
  | call id call => exact withRecord_atLevel fun _ => commit_atLevel session id _ level
  | ask id query => exact withRecord_atLevel fun _ => rfl
  | takeSnapshot id => exact withRecord_atLevel fun _ => rfl
  | resolve obstacles grants =>
      simp only [perform]
      exact run_atLevel (Verdict.overlooksLevel_reach obstacles grants) fun _ _ => rfl
  | replay id trigger candidate =>
      have same : (session.atLevel level).verdict = session.verdict := rfl
      simp only [perform, same]
      cases session.verdict with
      | none => rfl
      | some verdict =>
          exact run_atLevel (verdict.overlooksLevel_record trigger candidate) fun _ _ => rfl
  | assignVariable name value =>
      exact run_keepNothing_atLevel (Settings.overlooksLevel_assignVariable name value)
  | resetSettings => exact run_keepNothing_atLevel Settings.overlooksLevel_reset
  | validateSettings =>
      exact withCurrent_atLevel fun current =>
        run_keepNothing_atLevel current.settings.overlooksLevel_validate
  | count id =>
      exact withRecord_atLevel fun evaluation =>
        run_keepNothing_atLevel evaluation.overlooksLevel_count
  | audit id choice =>
      exact withRecord_atLevel fun evaluation =>
        run_keepNothing_atLevel (evaluation.overlooksLevel_audit _)
  | publish id choice =>
      obtain ⟨settings, chosen⟩ := Option.isSome_iff_exists.mp free
      have chosenUnder : (session.atLevel level).choose choice = some settings := chosen
      simp only [perform, chosen, chosenUnder]
      exact withRecord_atLevel fun evaluation =>
        run_keepNothing_atLevel (evaluation.overlooksLevel_publishWith settings)
  | _ => rfl

theorem perform_current (free : session.LevelFree operation) :
    (session.perform operation).1.current = session.current := by
  have kept (effect : Effect Unit) : (session.run effect keepNothing).1.current = session.current :=
    run_look current (fun _ _ => rfl) fun _ _ => rfl
  cases operation with
  | loadSettings checked => cases free
  | sharedSettings checked => cases free
  | makeSettings settings => cases free
  | updateSettings update => cases free
  | applyLevel => cases free
  | call id call => exact withRecord_look current fun _ => rfl
  | ask id query => exact withRecord_look current fun _ => rfl
  | takeSnapshot id => exact withRecord_look current fun _ => rfl
  | resolve obstacles grants => rfl
  | replay id trigger candidate =>
      simp only [perform]
      cases session.verdict with
      | none => rfl
      | some verdict => exact run_look current (fun _ _ => rfl) fun _ _ => rfl
  | assignVariable name value => exact kept _
  | resetSettings => rfl
  | validateSettings =>
      exact withCurrent_look Session.current fun current => kept current.settings.validate
  | count id => exact withRecord_look current fun evaluation => kept evaluation.count
  | audit id choice => exact withRecord_look current fun evaluation => kept (evaluation.audit _)
  | publish id choice => exact withRecord_look current fun evaluation => kept (evaluation.publish _)
  | _ => rfl

theorem LevelFree.of_current {other : Session} (same : other.current = session.current)
    (free : session.LevelFree operation) : other.LevelFree operation := by
  cases operation with
  | publish id choice =>
      cases choice with
      | current =>
          simp only [LevelFree, choose] at free ⊢
          rw [same]
          exact free
      | _ => exact free
  | _ => exact free

/-- A run of such operations does the same under another level. -/
theorem performAll_atLevel {run : List Operation}
    (free : ∀ operation ∈ run, session.LevelFree operation) (level : Log.Level) :
    (session.atLevel level).performAll run =
      ((session.performAll run).1.atLevel level,
        (session.performAll run).2.map (Response.under level)) := by
  induction run generalizing session with
  | nil => rfl
  | cons first rest ih =>
      have freeFirst : session.LevelFree first := free first (List.mem_cons_self ..)
      have same : (session.perform first).1.current = session.current := perform_current freeFirst
      have freeRest : ∀ operation ∈ rest, (session.perform first).1.LevelFree operation :=
        fun operation member => (free operation (List.mem_cons_of_mem _ member)).of_current same
      simp only [performAll, perform_atLevel freeFirst level, relevel, ih freeRest, List.map_cons]

theorem perform_emitted (free : session.LevelFree operation) :
    (session.perform operation).2.emitted =
      ((session.perform operation).2.issued.map Log.Issue.entry).filter
        (session.world.level.admits ·.level) := by
  have same := congrArg Prod.snd (perform_atLevel free session.world.level)
  have issued := congrArg Response.issued same
  simp only [Response.emitted]
  rw [← Log.emitted_map_under]
  exact congrArg Log.emitted issued

/-- How an operation that loads its settings midway is filtered: up to the end of the load by the
level before it, and from there on by the level of the settings. -/
structure FiltersMidway (session : Session) (operation : Operation) (applied : Log.Level)
    (configuration later : List Log.Entry) : Prop where
  configures : ∀ entry ∈ configuration, entry.channel = .settings
  proceeds : ∀ entry ∈ later, entry.channel ≠ .settings
  written : (session.perform operation).2.issued.map Log.Issue.entry = configuration ++ later
  applies : (session.perform operation).1.world.level = applied
  emitted : (session.perform operation).2.emitted =
    configuration.filter (session.world.level.admits ·.level) ++
      later.filter (applied.admits ·.level)

theorem channel_of_mem_perform_publish {id : String} {settings : Settings} {issue : Log.Issue}
    (member : issue ∈ (session.perform (.publish id (.given settings))).2.issued) :
    issue.entry.channel ≠ .settings := by
  cases held : session.records id with
  | none =>
      simp only [perform, withRecord, held] at member
      cases member
  | some evaluation =>
      rw [perform_publish held, run_issued] at member
      exact evaluation.channel_of_mem_publish member

section

variable {id : String} {choice : SettingsChoice} {loaded : Instance}

theorem load?_publish_given (settings : Settings) :
    session.load? (.publish id (.given settings)) = none := by
  rw [Option.eq_none_iff_forall_not_mem]
  intro checked loads
  obtain ⟨_, _, unchosen, _⟩ := load?_publish_eq_some_iff.mp loads
  cases unchosen

/-- Where a publication stands when its load has just succeeded. -/
def ready (session : Session) : Session :=
  { session with world := (Settings.shared true session.world).world }

theorem perform_publish_of_load (loads : session.load? (.publish id choice) = some true)
    (done : (Settings.load true session.world).result = .ok loaded) :
    let published := session.ready.perform (.publish id (.given loaded.settings))
    session.perform (.publish id choice) = (published.1, { published.2 with
      issued := (Settings.load true session.world).issued ++ published.2.issued }) := by
  obtain ⟨⟨evaluation, held⟩, _, unchosen, absent⟩ := load?_publish_eq_some_iff.mp loads
  exact perform_publish_of_loaded held unchosen absent done

theorem ready_atLevel (loads : session.load? (.publish id choice) = some true)
    (done : (Settings.load true session.world).result = .ok loaded) (level : Log.Level) :
    (session.atLevel level).ready = session.ready := by
  obtain ⟨_, _, _, absent⟩ := load?_publish_eq_some_iff.mp loads
  exact congrArg (fun world => { session with world })
    (Settings.shared_atLevel_of_ok absent done level)

theorem perform_publish_atLevel (loads : session.load? (.publish id choice) = some true)
    (done : (Settings.load true session.world).result = .ok loaded) (level : Log.Level) :
    let published := session.ready.perform (.publish id (.given loaded.settings))
    (session.atLevel level).perform (.publish id choice) = (published.1, { published.2 with
      issued := (Settings.load true session.world).issued.map (Log.Issue.under level) ++
        published.2.issued }) := by
  have same := Settings.load_atLevel_of_ok done level
  have loadsUnder : (session.atLevel level).load? (.publish id choice) = some true := loads
  have doneUnder : (Settings.load true (session.atLevel level).world).result = .ok loaded :=
    (congrArg Outcome.result same).trans done
  have issued : (Settings.load true (session.atLevel level).world).issued =
      (Settings.load true session.world).issued.map (Log.Issue.under level) :=
    congrArg Outcome.issued same
  intro published
  rw [perform_publish_of_load loadsUnder doneUnder, ready_atLevel loads done, issued]

theorem filtersMidway_of_load (loads : session.load? (.publish id choice) = some true)
    (done : (Settings.load true session.world).result = .ok loaded) (level : Log.Level) :
    (session.atLevel level).FiltersMidway (.publish id choice) session.ready.world.level
      ((Settings.load true session.world).issued.map Log.Issue.entry)
      ((session.ready.perform (.publish id (.given loaded.settings))).2.issued.map
        Log.Issue.entry) := by
  have performed := perform_publish_atLevel loads done level
  have free : session.ready.LevelFree (.publish id (.given loaded.settings)) := rfl
  constructor
  · intro entry listed
    obtain ⟨issue, member, rfl⟩ := List.mem_map.mp listed
    exact (Settings.loadsTo_load true session.world).channel_eq member
  · intro entry listed
    obtain ⟨issue, member, rfl⟩ := List.mem_map.mp listed
    exact channel_of_mem_perform_publish member
  · simp only [performed, List.map_append, List.map_map]
    rfl
  · rw [performed]
    exact perform_level_of_unloaded (load?_publish_given loaded.settings) nofun
  · simp only [performed, Response.emitted, Log.emitted_append, Log.emitted_map_under]
    exact congrArg (_ ++ ·) (perform_emitted free)

end

/-- The level of the log only filters it. Runs that leave the level alone come to the same under any
two levels, failures included, and under each a reader sees those entries of the run under `debug`
that the level admits. A publication that loads its settings comes to the same as well; a reader
sees the entries of its load by the level before it and the later ones by the level that the load
applies. -/
theorem level_only_filters_log (start : Session) :
    (∀ run, (∀ operation ∈ run, start.LevelFree operation) → ∀ level other,
        let done := (start.atLevel level).performAll run
        let otherDone := (start.atLevel other).performAll run
        let debugged := (start.atLevel .debug).performAll run
        done.1 = otherDone.1.atLevel level ∧
          done.2.map Response.answer = otherDone.2.map Response.answer ∧
          done.2.map Response.emitted =
            debugged.2.map fun response => response.emitted.filter (level.admits ·.level)) ∧
      ∀ id choice loaded, start.load? (.publish id choice) = some true →
        (Settings.load true start.world).result = .ok loaded →
          ∃ applied configuration later, loaded.settings.level? = some applied ∧
            ∀ level,
              let published := (start.atLevel level).perform (.publish id choice)
              (start.atLevel level).FiltersMidway (.publish id choice) applied configuration
                  later ∧
                published.1 = (start.perform (.publish id choice)).1 ∧
                published.2.answer = (start.perform (.publish id choice)).2.answer := by
  constructor
  · intro run free level other done otherDone debugged
    simp only [done, otherDone, debugged, performAll_atLevel free, List.map_map]
    refine ⟨rfl, rfl, List.map_congr_left fun response _ => ?_⟩
    simp only [Function.comp, Response.emitted, Response.under, Log.emitted_map_under,
      Log.filter_admits_debug]
  · intro id choice loaded loads done
    refine ⟨_, _, _, ?_, fun level => ⟨filtersMidway_of_load loads done level, ?_⟩⟩
    · have applies : (start.perform (.publish id choice)).1.world.level =
          start.ready.world.level :=
        (filtersMidway_of_load loads done start.world.level).applies
      rw [← applies]
      exact perform_level_of_loaded loads done
    · rw [perform_publish_atLevel loads done, perform_publish_of_load loads done]
      exact ⟨rfl, rfl⟩

/-- Under no level of its own the log keeps the one warning of a run in which a clock and a time
fail. A publication that loads the level `warning` hides its load from a log that takes errors only,
and not the warning that follows. -/
theorem level_only_filters_log_midway :
    let start := ofBindings [("DATA_EVAL_LOG_LEVEL", "warning")]
    let clock := Clock.ofReadings (.ok 253402300800000) [.error .stopped]
    let run :=
      [.create "late" .newRequest (some clock), .create "soon" .newRequest none,
        .call "late" (.block .dataDisabled), .call "late" (.permit .emergency),
        .call "soon" (.block .simNotReady), .publish "late" (.given {}),
        .publish "soon" (.given {})]
    let debugged := (start.atLevel .debug).performAll run
    let done := (start.atLevel .notset).performAll run
    let session := done.1.atLevel .error
    let publication := .publish "soon" .absent
    debugged.2.map (·.emitted.length) = [0, 0, 1, 0, 1, 1, 3] ∧
      done.2.map (·.emitted.length) = [0, 0, 0, 0, 0, 0, 1] ∧
      done.2.map Response.emitted =
        debugged.2.map (fun response => response.emitted.filter (Log.Level.notset.admits ·.level)) ∧
      (∃ configuration later, session.FiltersMidway publication .warning configuration later) ∧
      (session.perform publication).2.issued.length = 5 ∧
      (session.perform publication).2.emitted.length = 1 := by
  intro start clock run debugged done session publication
  have free : ∀ operation ∈ run, start.LevelFree operation := by
    simp [run, LevelFree, choose]
  obtain ⟨_, _, filtered⟩ := (level_only_filters_log start).1 run free .notset .debug
  obtain ⟨applied, configuration, later, named, midway⟩ :=
    (level_only_filters_log done.1).2 "soon" .absent
      { serial := 0, settings := { logLevel := "WARNING" } } (by decide +kernel) (by decide +kernel)
  cases named
  exact ⟨by decide +kernel, by decide +kernel, filtered, ⟨configuration, later, (midway .error).1⟩,
    by decide +kernel, by decide +kernel⟩

end Session

end DataGate

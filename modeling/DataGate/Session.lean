import DataGate.Publication
import DataGate.Resolution

/-!
A session is a run of operations on one world by a caller who keeps records by name, one verdict,
one instance of settings and one snapshot of obstacles, and who goes on after a failure.
-/

namespace DataGate

/-- A question to a record. It changes nothing. -/
inductive Query
  | contains (obstacle : Obstacle)
  | containsOnly (obstacle : Obstacle)
  | retains (grant : Grant)
  | summary (zone : Zone)
  | report (zone : Zone)
  | brief
  deriving DecidableEq, Repr

/-- An assignment to one field of settings. -/
inductive FieldUpdate
  | displayUtc (value : Bool)
  | metricsEnabled (value : Bool)
  | auditEnabled (value : Bool)
  | logLevel (value : String)
  deriving DecidableEq, Repr

def Settings.update (settings : Settings) : FieldUpdate → Settings
  | .displayUtc displayUtc => { settings with displayUtc }
  | .metricsEnabled metricsEnabled => { settings with metricsEnabled }
  | .auditEnabled auditEnabled => { settings with auditEnabled }
  | .logLevel logLevel => { settings with logLevel }

/-- Which settings an operation is given: none, the caller's instance, or some made for it. -/
inductive SettingsChoice
  | absent
  | current
  | given (settings : Settings)
  deriving DecidableEq, Repr

inductive Operation
  | create (id : String) (trigger : Trigger) (clock : Option Clock)
  | call (id : String) (call : Call)
  | ask (id : String) (query : Query)
  | takeSnapshot (id : String)
  | readSnapshot
  | resolve (obstacles : List Obstacle) (grants : List Grant)
  | replay (id : String) (trigger : Trigger) (candidate : Option Candidate)
  | assignVariable (name value : String)
  | unsetVariable (name : String)
  | readVariable (name : String)
  | assignDotenv (text : String)
  | loadSettings (checked : Bool)
  | sharedSettings (checked : Bool)
  | resetSettings
  | makeSettings (settings : Settings)
  | updateSettings (update : FieldUpdate)
  | validateSettings
  | applyLevel
  | count (id : String)
  | audit (id : String) (choice : SettingsChoice)
  | publish (id : String) (choice : SettingsChoice)
  | breakCounter (counter : Counter) (complaint : String)
  | mendCounter (counter : Counter)
  | samples

inductive Answer
  | nothing
  | flag (value : Bool)
  | text (value : String)
  | optionalText (value : Option String)
  | report (report : Report)
  | obstacles (obstacles : ObstacleSet)
  | verdict (verdict : Verdict)
  | settings (settings : Settings) (level : Log.Level)
  | shared (settings : Settings) (level : Log.Level) (same : Bool)
  | level (level : Log.Level)
  | samples (samples : List Sample)
  deriving DecidableEq

structure Response where
  answer : Except Fault Answer
  issued : List Log.Issue := []

structure Session where
  world : World
  records : String → Option Evaluation := fun _ => none
  current : Option Instance := none
  lastShared : Option Nat := none
  verdict : Option Verdict := none
  snapshot : ObstacleSet := ∅

namespace Session

def store (session : Session) (id : String) (evaluation : Evaluation) : Session :=
  { session with
    records := fun other => if other = id then some evaluation else session.records other }

/-- Runs an effect on the session's world. What the caller keeps changes only if the effect
succeeds. -/
def run {α : Type} (session : Session) (effect : Effect α)
    (keep : α → Session → Session × Answer) : Session × Response :=
  let outcome := effect session.world
  let after := { session with world := outcome.world }
  match outcome.result with
  | .error fault => (after, { answer := .error fault, issued := outcome.issued })
  | .ok value =>
      let (kept, answer) := keep value after
      (kept, { answer := .ok answer, issued := outcome.issued })

def settle (session : Session) (answer : Answer) : Session × Response :=
  (session, { answer := .ok answer })

/-- A call changes its record whether or not the record's clock fails. -/
def commit (session : Session) (id : String) (change : Change) : Session × Response :=
  let after := session.store id change.evaluation
  ({ after with world := { session.world with wall := change.wall } },
    { answer := match change.fault with
        | some reason => .error (.clock reason)
        | none => .ok .nothing
      issued := change.entries.map session.world.issue })

def answerQuery (evaluation : Evaluation) : Query → Except Fault Answer
  | .contains obstacle => .ok (.flag (evaluation.decision.contains obstacle))
  | .containsOnly obstacle => .ok (.flag (evaluation.decision.containsOnly obstacle))
  | .retains grant => .ok (.flag (evaluation.decision.retains grant))
  | .summary zone => ((evaluation.summary zone).map .text).mapError .time
  | .report zone => ((evaluation.report zone).map .report).mapError .time
  | .brief => .ok (.text evaluation.brief)

/-- Operations on a record or an instance that is not there do nothing. -/
def withRecord (session : Session) (id : String)
    (operation : Evaluation → Session × Response) : Session × Response :=
  match session.records id with
  | some evaluation => operation evaluation
  | none => session.settle .nothing

def withCurrent (session : Session) (operation : Instance → Session × Response) :
    Session × Response :=
  match session.current with
  | some current => operation current
  | none => session.settle .nothing

def settingsAnswer (session : Session) (settings : Settings) : Answer :=
  .settings settings session.world.level

def adopt (instantiated : Instance) (session : Session) : Session × Answer :=
  ({ session with current := some instantiated }, session.settingsAnswer instantiated.settings)

def adoptShared (instantiated : Instance) (session : Session) : Session × Answer :=
  ({ session with current := some instantiated, lastShared := some instantiated.serial },
    .shared instantiated.settings session.world.level
      (session.lastShared == some instantiated.serial))

/-- The caller's instance may be the shared one; then the assignment reaches that as well. -/
def assign (session : Session) (current : Instance) (update : FieldUpdate) : Session :=
  let updated := { current with settings := current.settings.update update }
  let shared := session.world.shared.map fun shared =>
    if shared.serial = current.serial then updated else shared
  { session with current := some updated, world := { session.world with shared } }

def choose (session : Session) : SettingsChoice → Option Settings
  | .absent => none
  | .current => session.current.map Instance.settings
  | .given settings => some settings

def keepNothing (_ : Unit) (session : Session) : Session × Answer :=
  (session, .nothing)

def perform (session : Session) : Operation → Session × Response
  | .create id trigger clock => (session.store id { trigger, clock }).settle .nothing
  | .call id call => session.withRecord id fun evaluation =>
      session.commit id (evaluation.call session.world.wall call)
  | .ask id query => session.withRecord id fun evaluation =>
      (session, { answer := answerQuery evaluation query })
  | .takeSnapshot id => session.withRecord id fun evaluation =>
      { session with snapshot := evaluation.decision.obstacles }.settle .nothing
  | .readSnapshot => session.settle (.obstacles session.snapshot)
  | .resolve obstacles grants => session.run (Verdict.reach obstacles grants) fun verdict after =>
      ({ after with verdict := some verdict }, .verdict verdict)
  | .replay id trigger candidate => match session.verdict with
      | none => session.settle .nothing
      | some verdict => session.run (verdict.record trigger candidate) fun evaluation after =>
          (after.store id evaluation, .nothing)
  | .assignVariable name value => session.run (Settings.assignVariable name value) keepNothing
  | .unsetVariable name =>
      let environment := session.world.environment.unset name
      { session with world := { session.world with environment } }.settle .nothing
  | .readVariable name => session.settle (.optionalText (session.world.environment.get? name))
  | .assignDotenv dotenv => { session with world := { session.world with dotenv } }.settle .nothing
  | .loadSettings checked => session.run (Settings.load checked) adopt
  | .sharedSettings checked => session.run (Settings.shared checked) adoptShared
  | .resetSettings => session.run Settings.reset keepNothing
  | .makeSettings settings => session.run settings.instantiate adopt
  | .updateSettings update => session.withCurrent fun current =>
      let after := session.assign current update
      after.settle (after.settingsAnswer (current.settings.update update))
  | .validateSettings => session.withCurrent fun current =>
      session.run current.settings.validate keepNothing
  | .applyLevel => session.withCurrent fun current =>
      session.run current.settings.applyLevel fun _ after => (after, .level after.world.level)
  | .count id => session.withRecord id fun evaluation => session.run evaluation.count keepNothing
  | .audit id choice => session.withRecord id fun evaluation =>
      let zone := ((session.choose choice).map Settings.zone).getD .localTime
      session.run (evaluation.audit zone) keepNothing
  | .publish id choice => session.withRecord id fun evaluation =>
      session.run (evaluation.publish (session.choose choice)) keepNothing
  | .breakCounter counter complaint =>
      { session with world := session.world.breakCounter counter (some complaint) }.settle .nothing
  | .mendCounter counter =>
      { session with world := session.world.breakCounter counter none }.settle .nothing
  | .samples => session.settle (.samples session.world.counters.samples)

/-- The session after a run of operations, and their responses in order. -/
def performAll (session : Session) : List Operation → Session × List Response
  | [] => (session, [])
  | operation :: rest =>
      let (next, response) := session.perform operation
      let (last, responses) := performAll next rest
      (last, response :: responses)

end Session

end DataGate

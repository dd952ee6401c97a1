import DataGate.Proofs.Counting

/-!
What publishing does in full, and what it leaves alone. Counting an evaluation writes to the
counters and to nothing else. The entries that follow depend on the evaluation and the settings
only, and if the time cannot be shown then none of them is written.
-/

namespace DataGate.Evaluation

open Effect

variable {γ : Type} {view : World → γ} (evaluation : Evaluation)

/-- The counting that a publication begins with. -/
def countUnder (settings : Settings) : Effect Unit :=
  if settings.metricsEnabled then evaluation.count else Pure.pure ()

/-- What a publication does after counting. -/
def announce (settings : Settings) : Effect Unit := do
  if settings.auditEnabled then evaluation.audit settings.zone
  let summary ← ofExcept .time (evaluation.summary settings.zone)
  issue (summaryEntry summary)

/-- The entries that announce an evaluation: the one for the audit log if there is to be one, and
the summary. -/
def notices (settings : Settings) : Except TimeError (List Log.Entry) := do
  let report ← evaluation.report settings.zone
  let summary ← evaluation.summary settings.zone
  return (if settings.auditEnabled then [report.auditEntry] else []) ++ [summaryEntry summary]

/-- The report of the evaluation under a given display of its time. -/
def reportAt (time : String) : Report where
  trigger := evaluation.trigger.name
  allowed := evaluation.decision.isAllowed
  obstacles := evaluation.decision.obstacles.names
  hasHard := evaluation.decision.hasHard
  grant := evaluation.decision.grant.name
  candidate := evaluation.candidate.map Candidate.shown
  evaluatedMs := evaluation.evaluatedMs
  evaluatedTime := time

section Rendering

variable {evaluation} {settings : Settings} {zone : Zone} {time : String}

theorem report_of_rendered
    (rendered : EvaluationTime.render evaluation.evaluatedMs zone = .ok time) :
    evaluation.report zone = .ok (evaluation.reportAt time) := by
  rw [report, rendered]
  rfl

theorem notices_of_unrendered {reason : TimeError}
    (unrendered : EvaluationTime.render evaluation.evaluatedMs settings.zone = .error reason) :
    evaluation.notices settings = .error reason := by
  simp only [notices, report, unrendered]
  rfl

theorem notices_of_rendered
    (rendered : EvaluationTime.render evaluation.evaluatedMs settings.zone = .ok time) :
    evaluation.notices settings = .ok
      ((if settings.auditEnabled then [(evaluation.reportAt time).auditEntry] else []) ++
        [summaryEntry (evaluation.summaryAt time)]) := by
  simp only [notices, report_of_rendered rendered, summary, rendered]
  rfl

end Rendering

theorem publishWith_eq (settings : Settings) :
    evaluation.publishWith settings = (do
      evaluation.countUnder settings
      evaluation.announce settings) := by
  unfold publishWith countUnder announce
  cases settings.metricsEnabled <;> cases settings.auditEnabled <;>
    simp only [Bool.false_eq_true, if_false, if_true, pure_bind]

theorem countUnder_result (settings : Settings) (world : World) :
    (evaluation.countUnder settings world).result = .ok () := by
  unfold countUnder
  split
  · rw [count_apply]
  · rfl

theorem announce_apply (settings : Settings) (world : World) :
    evaluation.announce settings world =
      { result := ((evaluation.notices settings).map fun _ => ()).mapError .time
        world
        issued := ((evaluation.notices settings).toOption.getD []).map world.issue } := by
  unfold notices announce audit report summary
  cases EvaluationTime.render evaluation.evaluatedMs settings.zone <;>
    cases settings.auditEnabled <;> rfl

theorem publishWith_apply (settings : Settings) (world : World) :
    let counted := evaluation.countUnder settings world
    evaluation.publishWith settings world =
      { result := ((evaluation.notices settings).map fun _ => ()).mapError .time
        world := counted.world
        issued := counted.issued ++
          ((evaluation.notices settings).toOption.getD []).map counted.world.issue } := by
  intro counted
  rw [publishWith_eq, bind_apply_ok (evaluation.countUnder_result settings world),
    evaluation.announce_apply]

theorem keeps_count (blind : ∀ world counters, view { world with counters } = view world) :
    Keeps view evaluation.count := by
  intro world
  rw [count_apply]
  exact blind world _

theorem keeps_audit (zone : Zone) : Keeps view (evaluation.audit zone) :=
  (keeps_ofExcept _ _).bind fun report => keeps_issue report.auditEntry

theorem keeps_countUnder (blind : ∀ world counters, view { world with counters } = view world)
    (settings : Settings) : Keeps view (evaluation.countUnder settings) := by
  unfold countUnder
  split
  · exact evaluation.keeps_count blind
  · exact keeps_pure ()

/-- Announcing an evaluation writes to the log alone. -/
theorem keeps_announce (settings : Settings) : Keeps view (evaluation.announce settings) := by
  intro world
  rw [evaluation.announce_apply]

theorem keeps_publishWith (blind : ∀ world counters, view { world with counters } = view world)
    (settings : Settings) : Keeps view (evaluation.publishWith settings) := by
  rw [publishWith_eq]
  exact (evaluation.keeps_countUnder blind settings).bind fun _ =>
    evaluation.keeps_announce settings

/-- Publishing without settings of one's own changes the shared instance as asking for it does. -/
theorem publish_none_shared (world : World) :
    (evaluation.publish none world).world.shared = (Settings.shared true world).world.shared := by
  have keeps (settings : Settings) : Keeps World.shared (evaluation.publishWith settings) :=
    evaluation.keeps_publishWith (fun _ _ => rfl) settings
  change ((Settings.shared true >>= fun current => evaluation.publishWith current.settings)
    world).world.shared = _
  cases found : (Settings.shared true world).result with
  | error fault => rw [bind_apply_error found]
  | ok current =>
      rw [bind_apply_ok found]
      exact keeps current.settings _

end DataGate.Evaluation

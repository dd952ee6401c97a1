import DataGate.Proofs.PublicationFailure
import DataGate.Proofs.ReplayedVerdict
import DataGate.Proofs.Summaries

namespace DataGate

namespace Text

variable {text left right : String}

/-- Neither of the characters that end a line occurs in the text. -/
def IsOneLine (text : String) : Prop :=
  '\n' ∉ text.toList ∧ '\r' ∉ text.toList

instance : Decidable (IsOneLine text) :=
  inferInstanceAs (Decidable (_ ∧ _))

@[simp] theorem isOneLine_append :
    IsOneLine (left ++ right) ↔ IsOneLine left ∧ IsOneLine right := by
  simp only [IsOneLine, String.toList_append, List.mem_append, not_or]
  exact and_and_and_comm

theorem isOneLine_of_isPlain (plain : isPlain text = true) : IsOneLine text :=
  ⟨not_mem_of_isPlain plain rfl, not_mem_of_isPlain plain rfl⟩

/-- A text of digits and marks is on one line if no mark is a break. -/
theorem isOneLine_of_digits (marks : List Char) (clear : '\n' ∉ marks ∧ '\r' ∉ marks)
    (spelled : ∀ c ∈ text.toList, c.isDigit = true ∨ c ∈ marks) : IsOneLine text := by
  constructor
  · intro broken
    exact (spelled '\n' broken).elim (by decide) clear.1
  · intro broken
    exact (spelled '\r' broken).elim (by decide) clear.2

theorem isOneLine_natural (value : Nat) : IsOneLine value.repr := by
  refine isOneLine_of_digits [] (by decide) fun c member => ?_
  rw [Nat.toList_repr] at member
  exact Or.inl (Nat.isDigit_of_mem_toDigits (by decide) (by decide) member)

theorem isOneLine_number (number : Numeral) : IsOneLine number.shown := by
  rw [Numeral.shown, Int.toString_eq_repr, Int.repr_eq_if]
  split
  · exact isOneLine_natural number.value.toNat
  · exact isOneLine_append.mpr ⟨by decide, isOneLine_natural (-number.value).toNat⟩

theorem isOneLine_flag (value : Bool) : IsOneLine (flag value) := by
  cases value <;> decide

end Text

open Text

/-- Whatever fits a shape is spelled with digits and with the marks of the shape. -/
theorem Stamp.isDigit_or_mem_of_fits {pattern spelled : List Char}
    (fits : List.Forall₂ Fits pattern spelled) :
    ∀ c ∈ spelled, c.isDigit = true ∨ c ∈ pattern := by
  induction fits with
  | nil => simp
  | @cons mark first pattern rest fit _ ih =>
      intro c member
      rcases List.mem_cons.mp member with rfl | later
      · unfold Fits at fit
        split at fit
        · exact Or.inl fit
        · exact Or.inr (fit ▸ List.mem_cons_self)
      · exact (ih c later).imp_right (List.mem_cons_of_mem mark)

theorem EvaluationTime.isOneLine_of_render {millis : Int} {zone : Zone} {time : String}
    (rendered : render millis zone = .ok time) : IsOneLine time := by
  refine isOneLine_of_digits Stamp.shape (by decide) ?_
  rw [toList_of_render rendered]
  exact Stamp.isDigit_or_mem_of_fits (Stamp.render_fits _)

namespace Candidate

/-- No part that the candidate is shown by has a line break. A profile is shown by its identifier
and by its display name if it has one. -/
def Unbroken : Candidate → Prop
  | text value => IsOneLine value
  | number _ | flag _ => True
  | profile reference =>
      IsOneLine reference.id ∧ ∀ label ∈ reference.displayName, IsOneLine label

theorem isOneLine_profile_iff (reference : ProfileRef) :
    IsOneLine reference.shown ↔ (profile reference).Unbroken := by
  have opening : IsOneLine "DataProfile[" := by decide
  have slash : IsOneLine "/" := by decide
  have closing : IsOneLine "]" := by decide
  have blank : IsOneLine "" := by decide
  unfold ProfileRef.shown Unbroken
  split
  next unnamed => simp [unnamed, opening, closing]
  next unnamed => simp [unnamed, opening, closing, blank]
  next label _ named => simp [named, opening, slash, closing]

theorem isOneLine_shown_iff (candidate : Candidate) :
    IsOneLine candidate.shown ↔ candidate.Unbroken := by
  cases candidate with
  | text value => rfl
  | number value => exact iff_of_true (isOneLine_number value) trivial
  | flag value => exact iff_of_true (isOneLine_flag value) trivial
  | profile reference => exact isOneLine_profile_iff reference

end Candidate

/-- The candidate that is proposed last, unless that proposal is to have none. -/
def Call.lastProposed? (calls : List Call) : Option Candidate :=
  (calls.filterMap Call.proposal?).getLast?.join

namespace Evaluation

variable {evaluation : Evaluation} {zone : Zone} {time : String}

theorem candidate_afterCalls (trigger : Trigger) (clock : Option Clock) (wall : Clock)
    (calls : List Call) :
    (afterCalls { trigger, clock } wall calls).evaluation.candidate = Call.lastProposed? calls :=
  congrArg candidate (foldl_resume_told trigger clock wall calls).1

theorem isOneLine_findings (evaluation : Evaluation) : IsOneLine evaluation.findings :=
  ⟨evaluation.not_mem_findings rfl (by decide) (by decide) (by decide),
    evaluation.not_mem_findings rfl (by decide) (by decide) (by decide)⟩

theorem isOneLine_shownCandidate_iff :
    IsOneLine evaluation.shownCandidate ↔
      ∀ candidate ∈ evaluation.candidate, candidate.Unbroken := by
  unfold shownCandidate
  cases evaluation.candidate with
  | none => exact iff_of_true (by decide) (by simp)
  | some candidate => simpa using candidate.isOneLine_shown_iff

/-- Of all that a summary is made of, the candidate alone can break it. -/
theorem isOneLine_summaryAt_iff (clear : IsOneLine time) :
    IsOneLine (evaluation.summaryAt time) ↔
      ∀ candidate ∈ evaluation.candidate, candidate.Unbroken := by
  have opening : IsOneLine "Data evaluation: evaluation reason:" := by decide
  have comma : IsOneLine ", " := by decide
  have profile : IsOneLine ", candidate profile=" := by decide
  have stamp : IsOneLine ", time=" := by decide
  have trigger : IsOneLine evaluation.trigger.name :=
    isOneLine_of_isPlain evaluation.trigger.isPlain_name
  unfold summaryAt
  simp only [isOneLine_append, opening, comma, profile, stamp, trigger, clear,
    evaluation.isOneLine_findings, true_and, and_true]
  exact isOneLine_shownCandidate_iff

/-- The last entry that a publication writes is the summary. -/
theorem getLast?_publish_issued {choice : Option Settings} {settings : Settings} {world : World}
    (found : (Settings.obtained choice world).result = .ok settings)
    (rendered : EvaluationTime.render evaluation.evaluatedMs settings.zone = .ok time) :
    (evaluation.publish choice world).issued.getLast?.map Log.Issue.entry =
      some (summaryEntry (evaluation.summaryAt time)) := by
  have noted := evaluation.notices_of_rendered rendered
  rw [evaluation.publish_of_ok found, noted]
  simp [Except.toOption, World.issue]

/-- The summary of a record after any calls, with any clocks, failing or not. It is what a
publication that shows times in the same zone writes last. It stays on one line exactly if the
candidate that was proposed last, if there is one, has no line break in a part that it is shown
by. -/
theorem summary_oneLine_iff_unbroken (trigger : Trigger) (clock : Option Clock) (wall : Clock)
    (calls : List Call) (zone : Zone) (time : String) :
    let evaluation := (afterCalls { trigger, clock } wall calls).evaluation
    EvaluationTime.render evaluation.evaluatedMs zone = .ok time →
      ∃ text, evaluation.summary zone = .ok text ∧
        (IsOneLine text ↔ ∀ candidate ∈ Call.lastProposed? calls, candidate.Unbroken) ∧
        ∀ choice settings world, (Settings.obtained choice world).result = .ok settings →
          settings.zone = zone →
            (evaluation.publish choice world).issued.getLast?.map Log.Issue.entry =
              some (summaryEntry text) := by
  intro evaluation rendered
  refine ⟨evaluation.summaryAt time, summary_eq_ok_iff.mpr ⟨time, rendered, rfl⟩, ?_, ?_⟩
  · rw [isOneLine_summaryAt_iff (EvaluationTime.isOneLine_of_render rendered),
      candidate_afterCalls]
  · intro choice settings world found same
    exact getLast?_publish_issued found (same ▸ rendered)

/-- A text with a line break is proposed, and then in its place a profile whose name looks like the
end of a summary, before a clock that fails. Nothing is left of the break. -/
theorem summary_oneLine_iff_unbroken_replaced :
    let clock := Clock.ofReadings (.ok 5) [.error .stopped]
    let reference : ProfileRef := { id := "internet", displayName := some "web, time=01-01" }
    let calls : List Call := [.propose (some (.text "internet\r\nweb")), .block .simNotReady,
      .propose (some (.profile reference)), .block .dataDisabled]
    let evaluation := (afterCalls { trigger := .simLoaded, clock } clock calls).evaluation
    let world := (Session.ofBindings []).world
    EvaluationTime.render evaluation.evaluatedMs .utc = .ok "01-01 00:00:00.005" ∧
      ∃ text, evaluation.summary .utc = .ok text ∧ IsOneLine text ∧
        (evaluation.publish (some { displayUtc := true }) world).issued.getLast?.map
          Log.Issue.entry = some (summaryEntry text) := by
  intro clock reference calls evaluation world
  have rendered : EvaluationTime.render evaluation.evaluatedMs .utc =
      .ok "01-01 00:00:00.005" := by decide +kernel
  obtain ⟨text, shown, oneLine, published⟩ :=
    summary_oneLine_iff_unbroken .simLoaded clock clock calls .utc _ rendered
  have unbroken : ∀ candidate ∈ Call.lastProposed? calls, candidate.Unbroken := by
    intro candidate proposed
    cases proposed
    simp only [Candidate.Unbroken, reference, Option.mem_some_iff, forall_eq']
    decide
  exact ⟨rendered, text, shown, oneLine.mpr unbroken, published _ _ _ rfl rfl⟩

/-- A text with a line break, proposed to a new record, and a summary on two lines. -/
theorem summary_breaks_with_candidate :
    let wall := Clock.ofReadings (.ok 0) []
    let evaluation := (afterCalls { trigger := .newRequest } wall
      [.propose (some (.text "internet\nweb"))]).evaluation
    let text := "Data evaluation: evaluation reason:NEW_REQUEST, Data allowed reason: NONE, " ++
      "candidate profile=internet\nweb, time=01-01 00:00:00.000"
    evaluation.summary .localTime = .ok text ∧ ¬ IsOneLine text := by
  decide +kernel

end Evaluation

end DataGate

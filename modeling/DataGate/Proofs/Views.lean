import DataGate.Proofs.DeclaredOrder
import DataGate.Proofs.Lettering
import DataGate.Proofs.Publishing
import DataGate.Proofs.Summaries

namespace DataGate

open Text Vocabulary

namespace Text

variable {c : Char} {text : String}

/-- Letters stand for themselves between quotes. -/
theorem escape_of_isLetter (letter : isLetter c = true) : Quoted.escape '\x27' c = [c] := by
  have ascii : c.toNat < 128 := by
    rcases Bool.or_eq_true_iff.mp letter with upper | underscore
    · have last : c.toNat ≤ 90 := (of_decide_eq_true upper).2
      omega
    · rw [beq_iff_eq.mp underscore]
      decide
  exact ascii_of_codes (P := fun c => isLetter c = true → Quoted.escape '\x27' c = [c])
    (by decide +kernel) ascii letter

theorem toList_quoted_of_isPlain (plain : isPlain text = true) :
    (quoted text).toList = '\x27' :: (text.toList ++ ['\x27']) := by
  have apart : '\x27' ∉ text.toList := not_mem_of_isPlain plain rfl
  have quote : Quoted.quoteFor text.toList = '\x27' := if_neg fun both => apart both.1
  have same : text.toList.flatMap (Quoted.escape '\x27') = text.toList := by
    rw [List.flatMap_congr fun c member => escape_of_isLetter (List.all_eq_true.mp plain c member)]
    exact List.flatMap_singleton' text.toList
  rw [quoted, String.toList_ofList, Quoted.encode, quote, same]

end Text

/-- A record in brief, taken apart. -/
structure Brief where
  trigger : Trigger
  obstacles : List Obstacle
  grant : Grant
  deriving DecidableEq, Repr

namespace Brief

/-- A name in quotes, after a blank. -/
def readItem? (text : List Char) : Option Obstacle := do
  let rest ← after? " '" text
  let (obstacle, rest) ← wordBefore? '\x27' rest
  if rest = ['\x27'] then some obstacle else none

def readList? (text : List Char) : Option (List Obstacle) :=
  if text = [] then some [] else ((' ' :: text).splitOn ',').mapM readItem?

def read? (text : List Char) : Option Brief := do
  let rest ← after? "DataEvaluation(reason=" text
  let (trigger, rest) ← wordBefore? ',' rest
  let rest ← after? ", disallowed=[" rest
  let (listed, rest) := cut ']' rest
  let obstacles ← readList? listed
  let rest ← after? "], allowed=" rest
  let (grant, rest) ← wordBefore? ')' rest
  if rest = [')'] then some { trigger, obstacles, grant } else none

variable {obstacle : Obstacle} {listed : List Obstacle}

/-- A name in quotes. -/
def item (obstacle : Obstacle) : List Char :=
  '\x27' :: (obstacle.name.toList ++ ['\x27'])

theorem readItem?_item (obstacle : Obstacle) :
    readItem? (' ' :: item obstacle) = some obstacle := by
  have name : wordBefore? '\x27' (obstacle.name.toList ++ ['\x27']) = some (obstacle, ['\x27']) :=
    wordBefore?_name obstacle.isPlain_name rfl rfl
  have opened : ' ' :: item obstacle = " '".toList ++ (obstacle.name.toList ++ ['\x27']) := rfl
  rw [opened, readItem?, after?_append]
  simp [name]

/-- With a blank in front, the items are set apart by commas alone. -/
theorem cons_intercalate_items {words : List (List Char)} (nonempty : words ≠ []) :
    ' ' :: [',', ' '].intercalate words = [','].intercalate (words.map (' ' :: ·)) := by
  induction words with
  | nil => exact absurd rfl nonempty
  | cons word rest ih =>
      cases rest with
      | nil => simp
      | cons next rest =>
          have tail := ih (List.cons_ne_nil next rest)
          simp only [List.map_cons, List.intercalate_cons_cons] at tail ⊢
          simp [← tail]

theorem mapM_readItem?_items (listed : List Obstacle) :
    (listed.map fun obstacle => ' ' :: item obstacle).mapM readItem? = some listed := by
  induction listed with
  | nil => rfl
  | cons first rest ih => simp [readItem?_item, ih]

theorem not_mem_item {mark : Char} (marks : isLetter mark = false) (other : mark ≠ '\x27')
    (obstacle : Obstacle) : mark ∉ item obstacle := by
  have name : mark ∉ obstacle.name.toList := not_mem_of_isPlain obstacle.isPlain_name marks
  simp [item, name, other]

theorem readList?_items (listed : List Obstacle) :
    readList? ([',', ' '].intercalate (listed.map item)) = some listed := by
  cases listed with
  | nil => rfl
  | cons first rest =>
      have filled : [',', ' '].intercalate ((first :: rest).map item) ≠ [] := by
        cases rest <;> simp [item]
      rw [readList?, if_neg filled, cons_intercalate_items (by simp), List.map_map,
        List.splitOn_intercalate ',' _ (by simp)]
      · exact mapM_readItem?_items (first :: rest)
      · intro spelled member
        obtain ⟨obstacle, _, rfl⟩ := List.mem_map.mp member
        exact List.not_mem_cons_of_ne_of_not_mem (by decide) (not_mem_item rfl (by decide) obstacle)

end Brief

namespace Evaluation

variable (evaluation : Evaluation)

/-- The parts of the evaluation in brief. -/
def briefParts : Brief where
  trigger := evaluation.trigger
  obstacles := evaluation.decision.obstacles.toList
  grant := evaluation.decision.grant

theorem toList_brief :
    evaluation.brief.toList =
      "DataEvaluation(reason=".toList ++ (evaluation.trigger.name.toList ++
        (", disallowed=[".toList ++
          ([',', ' '].intercalate (evaluation.decision.obstacles.toList.map Brief.item) ++
            ("], allowed=".toList ++ (evaluation.decision.grant.name.toList ++ [')']))))) := by
  have items : (", ".intercalate (evaluation.decision.obstacles.names.map quoted)).toList =
      [',', ' '].intercalate (evaluation.decision.obstacles.toList.map Brief.item) := by
    rw [String.toList_intercalate, ObstacleSet.names, List.map_map, List.map_map]
    refine congrArg _ (List.map_congr_left fun obstacle _ => ?_)
    exact toList_quoted_of_isPlain obstacle.isPlain_name
  have opening : ", disallowed=[".toList = ", disallowed=".toList ++ "[".toList := by decide +kernel
  have closing : "], allowed=".toList = "]".toList ++ ", allowed=".toList := by decide +kernel
  have last : ")".toList = [')'] := rfl
  unfold brief quotedList
  rw [← items, opening, closing, ← last]
  generalize evaluation.trigger.name = trigger
  generalize ", ".intercalate (evaluation.decision.obstacles.names.map quoted) = listed
  generalize evaluation.decision.grant.name = grant
  simp only [String.toList_append, List.append_assoc]

theorem read?_brief : Brief.read? evaluation.brief.toList = some evaluation.briefParts := by
  have grant : wordBefore? ')' (evaluation.decision.grant.name.toList ++ [')']) =
      some (evaluation.decision.grant, [')']) :=
    wordBefore?_name evaluation.decision.grant.isPlain_name rfl rfl
  have unclosed :
      ']' ∉ [',', ' '].intercalate (evaluation.decision.obstacles.toList.map Brief.item) := by
    refine not_mem_intercalate (by decide) fun word member => ?_
    obtain ⟨obstacle, _, rfl⟩ := List.mem_map.mp member
    exact Brief.not_mem_item rfl (by decide) obstacle
  rw [toList_brief, Brief.read?, after?_append]
  simp only [Option.bind_eq_bind, Option.bind_some]
  rw [evaluation.trigger.wordBefore?_comma rfl]
  simp only [Option.bind_some]
  rw [after?_append]
  simp only [Option.bind_some]
  rw [cut_append unclosed rfl]
  simp only [Brief.readList?_items, Option.bind_some]
  rw [after?_append]
  simp only [Option.bind_some, grant, if_true]
  rfl

/-- All that the record answers about its obstacles and its grant, and all that it shows of them in
its report, in brief and in its summary, goes by this list of obstacles. -/
structure ViewedAs (evaluation : Evaluation) (zone : Zone) (listed : List Obstacle) : Prop where
  ordered : Obstacle.Ordered listed
  contains_iff : ∀ obstacle, evaluation.decision.contains obstacle = true ↔ obstacle ∈ listed
  containsOnly_iff : ∀ obstacle,
    evaluation.decision.containsOnly obstacle = true ↔ listed = [obstacle]
  isAllowed_iff : evaluation.decision.isAllowed = true ↔ listed = []
  hasHard_iff : evaluation.decision.hasHard = true ↔ ∃ obstacle ∈ listed, obstacle.isHard = true
  report : ∃ report, evaluation.report zone = .ok report ∧
    report.obstacles = listed.map Obstacle.name ∧
    report.allowed = evaluation.decision.isAllowed ∧
    report.hasHard = evaluation.decision.hasHard ∧
    ∀ grant, evaluation.decision.retains grant = true ↔ report.grant = grant.name
  brief : ∃ brief, Brief.read? evaluation.brief.toList = some brief ∧ brief.obstacles = listed ∧
    ∀ grant, evaluation.decision.retains grant = true ↔ brief.grant = grant
  summary : ∃ text told, evaluation.summary zone = .ok text ∧
    Summary.read? text.toList = some told ∧
    (listed ≠ [] → told.finding = .obstacles listed) ∧
    (told.finding = .grant evaluation.decision.grant ↔ listed = [])

variable {evaluation} {zone : Zone} {time : String}

theorem viewedAs_toList
    (rendered : EvaluationTime.render evaluation.evaluatedMs zone = .ok time) :
    evaluation.ViewedAs zone evaluation.decision.obstacles.toList where
  ordered := evaluation.decision.obstacles.ordered_toList
  contains_iff _ := Decision.contains_iff
  containsOnly_iff _ := Decision.containsOnly_iff
  isAllowed_iff := Decision.isAllowed_iff
  hasHard_iff := Decision.hasHard_iff
  report := by
    refine ⟨_, report_of_rendered rendered, rfl, rfl, rfl, fun grant => ?_⟩
    rw [Decision.retains_iff]
    exact ⟨congrArg Grant.name, fun same => Vocabulary.name_injective same⟩
  brief := ⟨_, evaluation.read?_brief, rfl, fun _ => Decision.retains_iff⟩
  summary := by
    refine ⟨_, _, summary_eq_ok_iff.mpr ⟨time, rendered, rfl⟩,
      read?_summaryAt (length_of_render rendered),
      fun blocked => finding_of_blocked (mt Decision.isAllowed_iff.mp blocked), ?_⟩
    refine ⟨fun shown => ?_, fun clear => finding_of_allowed (Decision.isAllowed_iff.mpr clear)⟩
    by_contra blocked
    rw [summaryParts, finding_of_blocked (mt Decision.isAllowed_iff.mp blocked)] at shown
    cases shown

/-- However a record came about, with obstacles named again and again and clocks that fail, there is
one list by which it answers and is shown, whenever its time can be shown: the obstacles named since
the last grant, in the order of their declaration. -/
theorem viewed_as_one_list (trigger : Trigger) (clock : Option Clock) (wall : Clock)
    (calls : List Call) (zone : Zone) (time : String) :
    let evaluation := (afterCalls { trigger, clock } wall calls).evaluation
    EvaluationTime.render evaluation.evaluatedMs zone = .ok time →
      ∃! listed, evaluation.ViewedAs zone listed ∧
        ∀ obstacle, obstacle ∈ listed ↔ Call.Stands calls (.block obstacle) := by
  intro evaluation rendered
  have reflects : evaluation.decision.Reflects calls := by
    simp only [evaluation, afterCalls_decision]
    exact Decision.reflects_foldl_apply calls
  refine ⟨evaluation.decision.obstacles.toList, ⟨viewedAs_toList rendered, fun obstacle => ?_⟩, ?_⟩
  · rw [ObstacleSet.mem_toList, reflects.mem_obstacles]
  · intro other viewed
    refine viewed.1.ordered.eq_of_mem_iff evaluation.decision.obstacles.ordered_toList ?_
    intro obstacle
    rw [← viewed.1.contains_iff, Decision.contains_iff]

/-- Two obstacles named out of order, one of them twice and once past a clock that fails, after a
grant that no view shows. -/
theorem viewed_as_one_list_repeated :
    let clock := Clock.ofReadings (.ok 5) [.ok 1, .error .stopped, .ok 2]
    let evaluation := (afterCalls { trigger := .simLoaded, clock } clock
      [.permit .normal, .block .simNotReady, .block .dataDisabled, .block .simNotReady]).evaluation
    EvaluationTime.render evaluation.evaluatedMs .utc = .ok "01-01 00:00:00.002" ∧
      evaluation.ViewedAs .utc [.dataDisabled, .simNotReady] := by
  intro clock evaluation
  have rendered : EvaluationTime.render evaluation.evaluatedMs .utc = .ok "01-01 00:00:00.002" := by
    decide +kernel
  obtain ⟨listed, ⟨viewed, _⟩, _⟩ :=
    viewed_as_one_list .simLoaded clock clock _ .utc "01-01 00:00:00.002" rendered
  have ordered : Obstacle.Ordered [.dataDisabled, .simNotReady] := by
    unfold Obstacle.Ordered
    decide
  have listing : listed = [.dataDisabled, .simNotReady] := by
    refine viewed.ordered.eq_of_mem_iff ordered fun obstacle => ?_
    rw [← viewed.contains_iff]
    cases obstacle <;> decide +kernel
  exact ⟨rendered, listing ▸ viewed⟩

end Evaluation

end DataGate

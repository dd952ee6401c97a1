import DataGate.Proofs.DeclaredOrder
import DataGate.Proofs.Resolve

namespace DataGate

namespace Vocabulary

variable {α : Type} [Vocabulary α] {value : Literal} {word : α}

theorem read_eq_ok_iff : read value = .ok word ↔ value = .text (name word) := by
  cases value with
  | text text =>
      rw [Literal.text.injEq, eq_comm (a := text), ← ofName?_eq_some_iff, read]
      cases (ofName? text : Option α) <;> simp
  | _ => simp [read]

theorem readAll_names (words : List α) :
    readAll (words.map fun word => .text (name word)) = .ok words := by
  induction words with
  | nil => rfl
  | cons word rest ih =>
      have tail : (rest.map fun word => Literal.text (name word)).mapM read = .ok rest := ih
      simp [readAll, read_name, tail, bind, Except.bind, pure, Except.pure]

end Vocabulary

namespace ObstacleSet

variable {listed other : List Obstacle}

theorem ofList_eq_iff :
    ofList listed = ofList other ↔ ∀ obstacle, obstacle ∈ listed ↔ obstacle ∈ other :=
  ⟨fun same obstacle => by rw [← mem_ofList, same, mem_ofList], ofList_congr⟩

theorem toList_ofList (ordered : Obstacle.Ordered listed) : (ofList listed).toList = listed :=
  (ofList listed).ordered_toList.eq_of_mem_iff ordered fun _ => by rw [mem_toList, mem_ofList]

end ObstacleSet

namespace Verdict

variable {verdict : Verdict} {digest : Digest} {listed overridden : List Obstacle}

/-- Obstacles are named in the order of their declaration, each once. -/
structure Digest.InOrder (digest : Digest) : Prop where
  obstacles : digest.obstacles.Sublist (Obstacle.all.map Obstacle.name)
  overridden : digest.overridden.Sublist (Obstacle.all.map Obstacle.name)

theorem Digest.verdict_of_names (obstacles : digest.obstacles = listed.map Obstacle.name)
    (lists : digest.overridden = overridden.map Obstacle.name) :
    digest.verdict = .ok verdict ↔
      verdict.allowed = digest.allowed ∧ verdict.obstacles = .ofList listed ∧
        verdict.grant.name = digest.grant ∧ verdict.overridden = .ofList overridden := by
  have readObstacles : Vocabulary.readAll (digest.obstacles.map .text) = .ok listed := by
    rw [obstacles, List.map_map]
    exact Vocabulary.readAll_names listed
  have readOverridden : Vocabulary.readAll (digest.overridden.map .text) = .ok overridden := by
    rw [lists, List.map_map]
    exact Vocabulary.readAll_names overridden
  have grants (grant : Grant) : Vocabulary.read (.text digest.grant) = .ok grant ↔
      grant.name = digest.grant := by
    rw [Vocabulary.read_eq_ok_iff, Literal.text.injEq, eq_comm]
    rfl
  obtain ⟨allowed, blocking, grant, yielding⟩ := verdict
  rw [← grants, verdict, Verdict.read, readObstacles, readOverridden]
  cases (Vocabulary.read (.text digest.grant) : Except UnknownWord Grant) <;>
    simp [bind, Except.bind, pure, Except.pure, eq_comm]

theorem inOrder_digest (verdict : Verdict) : verdict.digest.InOrder where
  obstacles := verdict.obstacles.toList_sublist.map Obstacle.name
  overridden := verdict.overridden.toList_sublist.map Obstacle.name

theorem verdict_digest (verdict : Verdict) : verdict.digest.verdict = .ok verdict := by
  have obstacles : verdict.digest.obstacles = verdict.obstacles.toList.map Obstacle.name := rfl
  have overridden : verdict.digest.overridden = verdict.overridden.toList.map Obstacle.name := rfl
  rw [Digest.verdict_of_names obstacles overridden, ObstacleSet.ofList_toList,
    ObstacleSet.ofList_toList]
  exact ⟨rfl, rfl, rfl, rfl⟩

/-- A verdict can be read from many digests, but in order from its own only. -/
theorem digest_eq_iff :
    verdict.digest = digest ↔ digest.InOrder ∧ digest.verdict = .ok verdict := by
  constructor
  · intro same
    exact same ▸ ⟨inOrder_digest verdict, verdict_digest verdict⟩
  · intro written
    obtain ⟨inOrder, read⟩ := written
    obtain ⟨listed, within, named⟩ := List.sublist_map_iff.mp inOrder.obstacles
    obtain ⟨overridden, otherWithin, otherNamed⟩ := List.sublist_map_iff.mp inOrder.overridden
    obtain ⟨allowed, blocking, grant, yielding⟩ :=
      (Digest.verdict_of_names named otherNamed).mp read
    have obstacles : verdict.obstacles.names = digest.obstacles := by
      rw [named, blocking, ObstacleSet.names,
        ObstacleSet.toList_ofList (Obstacle.ordered_all.sublist within)]
    have others : verdict.overridden.names = digest.overridden := by
      rw [otherNamed, yielding, ObstacleSet.names,
        ObstacleSet.toList_ofList (Obstacle.ordered_all.sublist otherWithin)]
    rw [Verdict.digest, allowed, obstacles, grant, others]

/-- Two verdicts, whether their fields agree or not and however their obstacles are listed, are the
same if and only if they are of the same ruling and grant and have the same obstacles, and this is
so if and only if their digests are the same. The digest of a verdict reads back as the verdict, and
it is the only digest in order that does. -/
theorem digest_canonical (allowed otherAllowed : Bool) (grant otherGrant : Grant)
    (listed otherListed overridden otherOverridden : List Obstacle) :
    let verdict : Verdict :=
      { allowed, obstacles := .ofList listed, grant, overridden := .ofList overridden }
    let other : Verdict :=
      { allowed := otherAllowed, obstacles := .ofList otherListed, grant := otherGrant
        overridden := .ofList otherOverridden }
    (verdict = other ↔ allowed = otherAllowed ∧ grant = otherGrant ∧
        (∀ obstacle, obstacle ∈ listed ↔ obstacle ∈ otherListed) ∧
        ∀ obstacle, obstacle ∈ overridden ↔ obstacle ∈ otherOverridden) ∧
      (verdict = other ↔ verdict.digest = other.digest) ∧
      (∃ back, verdict.digest.verdict = .ok back ∧ back = verdict ∧
        back.digest = verdict.digest) ∧
      ∀ digest : Digest,
        verdict.digest = digest ↔ digest.InOrder ∧ digest.verdict = .ok verdict := by
  intro verdict other
  refine ⟨?_, ?_, ⟨verdict, verdict_digest verdict, rfl, rfl⟩, fun digest => digest_eq_iff⟩
  · simp only [verdict, other, Verdict.mk.injEq, ObstacleSet.ofList_eq_iff]
    exact and_congr_right fun _ => and_left_comm
  · refine ⟨congrArg Verdict.digest, fun same => ?_⟩
    have read := verdict_digest verdict
    rw [same, verdict_digest other] at read
    exact (Except.ok.inj read).symm

end Verdict

end DataGate

import Mathlib.Data.List.Induction

/-!
Runs seen from their end. What a run leaves behind is often decided by an event that no later event
has taken back; `since_concat` tells how one more event changes that, which is the step of every
induction over runs here.
-/

namespace DataGate

variable {α : Type} {made : List α → α → Prop} {keeps : α → Prop} {run : List α} {last : α}

/-- Some event of the run was made, given what came before it, and all later events keep it. -/
def Since (made : List α → α → Prop) (keeps : α → Prop) (run : List α) : Prop :=
  ∃ before event after, run = before ++ event :: after ∧ made before event ∧
    ∀ later ∈ after, keeps later

@[simp] theorem not_since_nil : ¬ Since made keeps [] := by
  intro since
  obtain ⟨before, event, after, split, _⟩ := since
  simp at split

theorem Since.imp {others : List α → α → Prop} {also : α → Prop} (since : Since made keeps run)
    (start : ∀ before event, made before event → others before event)
    (kept : ∀ event, keeps event → also event) : Since others also run := by
  obtain ⟨before, event, after, split, started, keptSince⟩ := since
  exact ⟨before, event, after, split, start before event started,
    fun later member => kept later (keptSince later member)⟩

theorem since_concat :
    Since made keeps (run ++ [last]) ↔ made run last ∨ Since made keeps run ∧ keeps last := by
  constructor
  · intro since
    obtain ⟨before, event, after, split, start, kept⟩ := since
    induction after using List.reverseRecOn with
    | nil =>
        obtain ⟨rfl, same⟩ := List.append_inj' split rfl
        obtain rfl := List.singleton_inj.mp same
        exact Or.inl start
    | append_singleton middle final =>
        rw [← List.cons_append, ← List.append_assoc] at split
        obtain ⟨rfl, same⟩ := List.append_inj' split rfl
        obtain rfl := List.singleton_inj.mp same
        refine Or.inr ⟨⟨before, event, middle, rfl, start, ?_⟩, kept last (by simp)⟩
        exact fun later member => kept later (List.mem_append_left _ member)
  · intro now
    rcases now with start | ⟨earlier, final⟩
    · exact ⟨run, last, [], rfl, start, by simp⟩
    · obtain ⟨before, event, after, rfl, start, kept⟩ := earlier
      refine ⟨before, event, after ++ [last], by simp, start, ?_⟩
      intro later member
      rcases List.mem_append.mp member with member | member
      · exact kept later member
      · rwa [List.mem_singleton.mp member]

end DataGate

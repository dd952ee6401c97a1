import Mathlib.Data.List.Forall2
import Mathlib.Data.List.TakeWhile
import DataGate.Text.Blank
import DataGate.Text.UpperCase

/-!
Texts that are read without the blanks around them and without regard to case. Blanks around a text
and the case of its ASCII letters are lost when it is trimmed and put in one case. Plain words are
spelled by the same texts whether all letters are made small or the ASCII ones only.
-/

namespace DataGate.Text

variable {c : Char} {text other before after lowered word : List Char}

/-- What holds of each of the 128 codes holds of every ASCII character. -/
theorem ascii_of_codes {P : Char → Prop} (holds : ∀ code, code < 128 → P (Char.ofNat code))
    (ascii : c.toNat < 128) : P c := by
  have found := holds c.toNat ascii
  rwa [Char.ofNat_toNat] at found

theorem toLower_of_not_ascii (beyond : ¬ c.toNat < 128) : c.toLower = c := by
  refine dif_neg fun letter => beyond ?_
  have last : c.toNat ≤ 90 := letter.2
  omega

theorem toUpper_of_not_ascii (beyond : ¬ c.toNat < 128) : c.toUpper = c := by
  refine dif_neg fun letter => beyond ?_
  have last : c.toNat ≤ 122 := letter.2
  omega

theorem toLower_idem (c : Char) : c.toLower.toLower = c.toLower := by
  by_cases ascii : c.toNat < 128
  · exact ascii_of_codes (P := fun c => c.toLower.toLower = c.toLower) (by decide +kernel) ascii
  · rw [toLower_of_not_ascii ascii, toLower_of_not_ascii ascii]

theorem toLower_toUpper (c : Char) : c.toUpper.toLower = c.toLower := by
  by_cases ascii : c.toNat < 128
  · exact ascii_of_codes (P := fun c => c.toUpper.toLower = c.toLower) (by decide +kernel) ascii
  · rw [toUpper_of_not_ascii ascii]

theorem isBlank_toLower (c : Char) : isBlank c.toLower = isBlank c := by
  by_cases ascii : c.toNat < 128
  · exact ascii_of_codes (P := fun c => isBlank c.toLower = isBlank c) (by decide +kernel) ascii
  · rw [toLower_of_not_ascii ascii]

theorem capital_toLower (c : Char) : UpperCase.capital c.toLower = UpperCase.capital c := by
  by_cases ascii : c.toNat < 128
  · have lowAscii : c.toLower.toNat < 128 :=
      ascii_of_codes (P := fun c => c.toLower.toNat < 128) (by decide +kernel) ascii
    rw [UpperCase.capital_ascii lowAscii, UpperCase.capital_ascii ascii]
    exact ascii_of_codes (P := fun c => [c.toLower.toUpper] = [c.toUpper]) (by decide +kernel) ascii
  · rw [toLower_of_not_ascii ascii]

theorem upper_lower (text : List Char) : upper (lower text) = upper text := by
  induction text with
  | nil => rfl
  | cons c rest ih =>
      change upper (c.toLower :: lower rest) = upper (c :: rest)
      rw [upper_cons, upper_cons, capital_toLower, ih]

theorem trim_lower (text : List Char) : trim (lower text) = lower (trim text) := by
  have blind : isBlank ∘ Char.toLower = isBlank := funext isBlank_toLower
  simp only [trim, trimLeft, trimRight, lower, List.dropWhile_map, ← List.map_reverse, blind]

theorem trim_surrounded (blankBefore : ∀ c ∈ before, isBlank c = true)
    (blankAfter : ∀ c ∈ after, isBlank c = true) :
    trim (before ++ text ++ after) = trim text := by
  rw [List.append_assoc, trim, trimLeft_append blankBefore, trim, trimLeft, List.dropWhile_append]
  split
  · next gone =>
      have empty : trimLeft text = [] := List.isEmpty_iff.mp gone
      rw [empty, List.dropWhile_eq_nil_iff.mpr blankAfter]
  · exact trimRight_append blankAfter _

theorem trim_eq_nil_iff : trim text = [] ↔ isAllBlank text = true := by
  rw [isAllBlank, List.all_eq_true, trim, trimRight, List.reverse_eq_nil_iff,
    List.dropWhile_eq_nil_iff, trimLeft]
  constructor
  · intro blank c member
    rw [← List.takeWhile_append_dropWhile (p := isBlank) (l := text)] at member
    rcases List.mem_append.mp member with skipped | kept
    · exact List.mem_takeWhile_imp skipped
    · exact blank c (List.mem_reverse.mpr kept)
  · intro blank c member
    exact blank c ((List.dropWhile_sublist isBlank).subset (List.mem_reverse.mp member))

/-- The same character, but perhaps in the other case if it is an ASCII letter. -/
def Recases (c other : Char) : Prop :=
  other = c ∨ other = c.toLower ∨ other = c.toUpper

instance (c other : Char) : Decidable (Recases c other) :=
  inferInstanceAs (Decidable (other = c ∨ other = c.toLower ∨ other = c.toUpper))

theorem Recases.toLower_eq {other : Char} (recases : Recases c other) :
    other.toLower = c.toLower := by
  rcases recases with rfl | rfl | rfl
  · rfl
  · exact toLower_idem c
  · exact toLower_toUpper c

theorem lower_of_recased (recased : List.Forall₂ Recases text other) :
    lower other = lower text := by
  induction recased with
  | nil => rfl
  | cons first _ ih => exact congrArg₂ List.cons first.toLower_eq ih

/-- The other text is this one with blanks around it and some of its ASCII letters in the other
case. -/
def Decorates (text other : String) : Prop :=
  ∃ before recased after, (∀ c ∈ before, isBlank c = true) ∧ (∀ c ∈ after, isBlank c = true) ∧
    List.Forall₂ Recases text.toList recased ∧ other = String.ofList (before ++ recased ++ after)

section Decorates

variable {text other : String}

theorem Decorates.lower_trim_eq (decorates : Decorates text other) :
    lower (trim other.toList) = lower (trim text.toList) := by
  obtain ⟨before, recased, after, blankBefore, blankAfter, same, rfl⟩ := decorates
  rw [String.toList_ofList, trim_surrounded blankBefore blankAfter, ← trim_lower,
    lower_of_recased same, trim_lower]

theorem Decorates.upper_trim_eq (decorates : Decorates text other) :
    upper (trim other.toList) = upper (trim text.toList) := by
  rw [← upper_lower, decorates.lower_trim_eq, upper_lower]

end Decorates

/-- Such a text may be what becomes of the character when letters are made small. Of a character
beyond ASCII it is not within ASCII, but for the kelvin sign, whose small form is a `k`. -/
def LowersTo (c : Char) (form : List Char) : Prop :=
  if c.toNat < 128 then form = [c.toLower]
  else (c = '\u212a' ∧ form = ['k']) ∨ ∃ other ∈ form, ¬ other.toNat < 128

/-- The text with all its letters made small, whatever becomes of those beyond ASCII. -/
inductive LowerForm : List Char → List Char → Prop
  | nil : LowerForm [] []
  | cons {c : Char} {form rest lowered : List Char} (first : LowersTo c form)
      (others : LowerForm rest lowered) : LowerForm (c :: rest) (form ++ lowered)

theorem lowersTo_toLower (c : Char) : LowersTo c [c.toLower] := by
  unfold LowersTo
  split
  · rfl
  · next beyond =>
      refine .inr ⟨c.toLower, List.mem_singleton_self _, ?_⟩
      rwa [toLower_of_not_ascii beyond]

theorem lowerForm_lower (text : List Char) : LowerForm text (lower text) := by
  induction text with
  | nil => exact .nil
  | cons c rest ih => exact .cons (lowersTo_toLower c) ih

/-- All its letters are ASCII ones and none is a `k`. -/
def IsPlain (word : List Char) : Prop :=
  ∀ c ∈ word, c.toNat < 128 ∧ c ≠ 'k'

instance : Decidable (IsPlain word) :=
  List.decidableBAll _ word

/-- A text with letters beyond ASCII spells no plain word, and of any other there is one form. -/
theorem LowerForm.eq_plain_iff (form : LowerForm text lowered) (plain : IsPlain word) :
    lowered = word ↔ lower text = word := by
  induction form generalizing word with
  | nil => rfl
  | @cons c form rest lowered first _ ih =>
      change form ++ lowered = word ↔ c.toLower :: lower rest = word
      unfold LowersTo at first
      split at first
      · subst first
        cases word with
        | nil => simp
        | cons letter letters =>
            have plainRest : IsPlain letters := fun c member => plain c (.tail _ member)
            rw [List.singleton_append, List.cons.injEq, List.cons.injEq, ih plainRest]
      · next beyond =>
          refine iff_of_false ?_ ?_
          · rintro rfl
            obtain ⟨_, rfl⟩ | ⟨other, member, outside⟩ := first
            · exact (plain 'k' (List.mem_cons_self ..)).2 rfl
            · exact outside (plain other (List.mem_append_left _ member)).1
          · rintro rfl
            rw [toLower_of_not_ascii beyond] at plain
            exact beyond (plain c (List.mem_cons_self ..)).1

end DataGate.Text

import DataGate.Proofs.Lettering
import DataGate.Settings

namespace DataGate.Settings

open Text

namespace Switch

variable {switch : Switch} {effective : Environment} {text : String} {lowered : List Char}

theorem mem_words_iff {words : List String} (plain : ∀ word ∈ words, IsPlain word.toList)
    (form : LowerForm (trim text.toList) lowered) :
    String.ofList (lower (trim text.toList)) ∈ words ↔ String.ofList lowered ∈ words := by
  constructor
  · intro member
    have spelled := plain _ member
    rw [String.toList_ofList] at spelled
    rwa [(form.eq_plain_iff spelled).mpr rfl]
  · intro member
    have spelled := plain _ member
    rw [String.toList_ofList] at spelled
    rwa [(form.eq_plain_iff spelled).mp rfl]

/-- The words are told by any small form of a text, not only by that of its ASCII letters. -/
theorem ofText?_of_lowerForm (form : LowerForm (trim text.toList) lowered) :
    ofText? text =
      if String.ofList lowered ∈ ["true", "1", "yes", "on"] then some true
      else if String.ofList lowered ∈ ["false", "0", "no", "off"] then some false
      else none := by
  have plainOn : ∀ word ∈ onWords, IsPlain word.toList := by decide
  have plainOff : ∀ word ∈ offWords, IsPlain word.toList := by decide
  simp only [ofText?, List.contains_iff_mem, mem_words_iff plainOn form,
    mem_words_iff plainOff form]
  rfl

theorem ofText?_of_blank (blank : isAllBlank text.toList = true) : ofText? text = none := by
  rw [ofText?, trim_eq_nil_iff.mpr blank]
  decide

theorem given?_of_unset (unset : effective.get? switch.source = none) :
    switch.given? effective = none := by
  rw [given?, unset, Option.filter_none]

theorem given?_of_blank (set : effective.get? switch.source = some text)
    (blank : isAllBlank text.toList = true) : switch.given? effective = none := by
  rw [given?, set, Option.filter_some_neg (by rw [blank, Bool.not_true])]

theorem given?_of_filled (set : effective.get? switch.source = some text)
    (filled : isAllBlank text.toList = false) : switch.given? effective = some text := by
  rw [given?, set, Option.filter_some_pos (by rw [filled, Bool.not_false])]

theorem value_of_unset (unset : effective.get? switch.source = none) :
    switch.value effective = switch.fallback := by
  rw [Switch.value, Switch.given?, unset]
  rfl

theorem value_of_set (set : effective.get? switch.source = some text) :
    switch.value effective = (ofText? text).getD switch.fallback := by
  cases blank : isAllBlank text.toList with
  | true => rw [value, given?_of_blank set blank, ofText?_of_blank blank, Option.bind_none]
  | false => rw [value, given?_of_filled set blank, Option.bind_some]

theorem warnings_of_not_given (absent : switch.given? effective = none) :
    switch.warnings effective = [] := by
  rw [warnings, absent]

theorem warnings_of_given (given : switch.given? effective = some text) :
    switch.warnings effective =
      if (ofText? text).isSome then [] else [switch.rejectedEntry text] := by
  rw [warnings, given]

theorem warnings_of_word {value : Bool} (set : effective.get? switch.source = some text)
    (found : ofText? text = some value) : switch.warnings effective = [] := by
  cases blank : isAllBlank text.toList with
  | true => exact warnings_of_not_given (given?_of_blank set blank)
  | false =>
      rw [warnings_of_given (given?_of_filled set blank), found]
      rfl

/-- What a switch makes of its variable, and what it warns of. A text counts as the word that it is
without the blanks around it and in small letters. -/
structure ReadAs (switch : Switch) (effective : Environment) (value : Bool)
    (warnings : List Log.Entry) : Prop where
  unset : effective.get? switch.source = none → value = switch.fallback ∧ warnings = []
  blank : ∀ text, effective.get? switch.source = some text → trim text.toList = [] →
    value = switch.fallback ∧ warnings = []
  on : ∀ text lowered, effective.get? switch.source = some text →
    LowerForm (trim text.toList) lowered → String.ofList lowered ∈ ["true", "1", "yes", "on"] →
      value = true ∧ warnings = []
  off : ∀ text lowered, effective.get? switch.source = some text →
    LowerForm (trim text.toList) lowered → String.ofList lowered ∈ ["false", "0", "no", "off"] →
      value = false ∧ warnings = []
  rejected : ∀ text lowered, effective.get? switch.source = some text →
    LowerForm (trim text.toList) lowered → trim text.toList ≠ [] →
      String.ofList lowered ∉ ["true", "1", "yes", "on"] →
      String.ofList lowered ∉ ["false", "0", "no", "off"] →
        value = switch.fallback ∧ warnings = [switch.rejectedEntry text]

theorem readAs (switch : Switch) (effective : Environment) :
    switch.ReadAs effective (switch.value effective) (switch.warnings effective) where
  unset absent := ⟨value_of_unset absent, warnings_of_not_given (given?_of_unset absent)⟩
  blank text set empty := by
    have blank := trim_eq_nil_iff.mp empty
    rw [value_of_set set, ofText?_of_blank blank]
    exact ⟨rfl, warnings_of_not_given (given?_of_blank set blank)⟩
  on text lowered set form member := by
    have found : ofText? text = some true := by
      rw [ofText?_of_lowerForm form, if_pos member]
    rw [value_of_set set, found]
    exact ⟨rfl, warnings_of_word set found⟩
  off text lowered set form member := by
    have apart : ∀ word ∈ offWords, word ∉ ["true", "1", "yes", "on"] := by decide
    have found : ofText? text = some false := by
      rw [ofText?_of_lowerForm form, if_neg (apart _ member), if_pos member]
    rw [value_of_set set, found]
    exact ⟨rfl, warnings_of_word set found⟩
  rejected text lowered set form filled notOn notOff := by
    have unfound : ofText? text = none := by
      rw [ofText?_of_lowerForm form, if_neg notOn, if_neg notOff]
    have worded := Bool.eq_false_iff.mpr (mt trim_eq_nil_iff.mpr filled)
    rw [value_of_set set, warnings_of_given (given?_of_filled set worded), unfound]
    exact ⟨rfl, rfl⟩

end Switch

/-- Settings that are read off the environment: each switch off its own variable by the words for on
and off, and the level off its variable in capitals. What is not set, or is no such word, is as it
is by default. -/
structure ReadFrom (settings : Settings) (environment : Environment) : Prop where
  displayUtc : ∃ warnings,
    Switch.ReadAs { source := "DATA_EVAL_DISPLAY_UTC", fallback := false } environment
      settings.displayUtc warnings
  metricsEnabled : ∃ warnings,
    Switch.ReadAs { source := "DATA_EVAL_METRICS_ENABLED", fallback := true } environment
      settings.metricsEnabled warnings
  auditEnabled : ∃ warnings,
    Switch.ReadAs { source := "DATA_EVAL_AUDIT_LOG_ENABLED", fallback := true } environment
      settings.auditEnabled warnings
  logLevel : settings.logLevel = String.ofList (upper (trim
    ((environment.get? "DATA_EVAL_LOG_LEVEL").getD "INFO").toList))

theorem readFrom_ofEnvironment (environment : Environment) :
    (ofEnvironment environment).ReadFrom environment where
  displayUtc := ⟨_, Switch.displayUtc.readAs environment⟩
  metricsEnabled := ⟨_, Switch.metricsEnabled.readAs environment⟩
  auditEnabled := ⟨_, Switch.auditEnabled.readAs environment⟩
  logLevel := rfl

end DataGate.Settings

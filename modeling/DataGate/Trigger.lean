import DataGate.Vocabulary

namespace DataGate

/-- Why an evaluation cycle was started. -/
inductive Trigger
  | newRequest
  | configChanged
  | simLoaded
  | profilesChanged
  | airplaneModeOff
  | radioTechnologyChanged
  | inService
  | dataEnabled
  | roamingEnabled
  | voiceCallEnded
  | restrictionLifted
  | capabilitiesChanged
  deriving DecidableEq, Repr

namespace Trigger

def all : List Trigger :=
  [newRequest, configChanged, simLoaded, profilesChanged, airplaneModeOff, radioTechnologyChanged,
    inService, dataEnabled, roamingEnabled, voiceCallEnded, restrictionLifted, capabilitiesChanged]

def name : Trigger → String
  | newRequest => "NEW_REQUEST"
  | configChanged => "DATA_CONFIG_CHANGED"
  | simLoaded => "SIM_LOADED"
  | profilesChanged => "DATA_PROFILES_CHANGED"
  | airplaneModeOff => "AIRPLANE_MODE_OFF"
  | radioTechnologyChanged => "DATA_RAT_CHANGED"
  | inService => "DATA_IN_SERVICE"
  | dataEnabled => "DATA_ENABLED"
  | roamingEnabled => "ROAMING_ENABLED"
  | voiceCallEnded => "VOICE_CALL_ENDED"
  | restrictionLifted => "DATA_RESTRICTED_LIFTED"
  | capabilitiesChanged => "DATA_NETWORK_CAPABILITIES_CHANGED"

instance : Vocabulary Trigger where
  title := "DataEvaluationReason"
  all := all
  name := name
  mem_all word := by cases word <;> decide
  name_injective {left right} same := by
    revert same
    cases left <;> cases right <;> decide

end DataGate.Trigger

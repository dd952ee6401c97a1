import DataGate.Vocabulary

namespace DataGate

/-- A soft obstacle yields to a strong enough grant, a hard one to nothing. -/
inductive Severity
  | hard
  | soft
  deriving DecidableEq, Repr

def Severity.name : Severity → String
  | hard => "HARD"
  | soft => "SOFT"

/-- A fact that stands in the way of a data connection. -/
inductive Obstacle
  | dataDisabled
  | roamingDisabled
  | defaultDataUnselected
  | notInService
  | configNotReady
  | simNotReady
  | concurrentVoiceCall
  | restrictedByNetwork
  | radioPowerOff
  | internalDataDisabled
  | disabledByCarrier
  | serviceNotReady
  deriving DecidableEq, Repr

namespace Obstacle

def all : List Obstacle :=
  [dataDisabled, roamingDisabled, defaultDataUnselected, notInService, configNotReady, simNotReady,
    concurrentVoiceCall, restrictedByNetwork, radioPowerOff, internalDataDisabled,
    disabledByCarrier, serviceNotReady]

def name : Obstacle → String
  | dataDisabled => "DATA_DISABLED"
  | roamingDisabled => "ROAMING_DISABLED"
  | defaultDataUnselected => "DEFAULT_DATA_UNSELECTED"
  | notInService => "NOT_IN_SERVICE"
  | configNotReady => "DATA_CONFIG_NOT_READY"
  | simNotReady => "SIM_NOT_READY"
  | concurrentVoiceCall => "CONCURRENT_VOICE_DATA_NOT_ALLOWED"
  | restrictedByNetwork => "DATA_RESTRICTED_BY_NETWORK"
  | radioPowerOff => "RADIO_POWER_OFF"
  | internalDataDisabled => "INTERNAL_DATA_DISABLED"
  | disabledByCarrier => "RADIO_DISABLED_BY_CARRIER"
  | serviceNotReady => "DATA_SERVICE_NOT_READY"

def severity : Obstacle → Severity
  | dataDisabled | roamingDisabled | defaultDataUnselected => .soft
  | _ => .hard

def isHard (obstacle : Obstacle) : Bool :=
  obstacle.severity == .hard

theorem mem_all (obstacle : Obstacle) : obstacle ∈ all := by
  cases obstacle <;> decide

theorem nodup_all : all.Nodup := by decide

instance : Vocabulary Obstacle where
  title := "DataDisallowedReason"
  all := all
  name := name
  mem_all := mem_all
  name_injective {left right} same := by
    revert same
    cases left <;> cases right <;> decide

end DataGate.Obstacle

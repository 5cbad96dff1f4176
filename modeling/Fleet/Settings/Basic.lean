import Fleet.Net.Address
import Fleet.Text.Ascii
import Fleet.Text.Blank

/-!
# Settings

What an operator sets, section by section, and what may be wrong with it.
-/

namespace Fleet

/-- Where nodes reach the control plane. -/
structure ListenerSettings where
  bindAddress : String := "0.0.0.0:8080"
deriving DecidableEq, Repr, Inhabited

/-- Where operators reach it, and the key they present. -/
structure AdminSettings where
  enabled : Bool := false
  apiKey : String := "CHANGE_ME_IN_PRODUCTION"
  bindAddress : String := "127.0.0.1:8081"
deriving DecidableEq, Repr, Inhabited

structure TimeoutSettings where
  requestSeconds : Nat := 30
deriving DecidableEq, Repr, Inhabited

/-- How a node is probed if its cluster does not say it. -/
structure ProbeSettings where
  port : Nat := 80
  path : String := "/"
  timeoutSeconds : Nat := 5
deriving DecidableEq, Repr, Inhabited

inductive LogFormat where
  | pretty
  | json
deriving DecidableEq, Repr, Inhabited

structure ObservabilitySettings where
  logLevel : String := "info"
  logFormat : LogFormat := .pretty
  metricsEnabled : Bool := true
  metricsAddress : String := "0.0.0.0:9090"
deriving DecidableEq, Repr, Inhabited

structure StoreSettings where
  /-- The file of the initial records. -/
  seedPath : Option String := none
deriving DecidableEq, Repr, Inhabited

structure Settings where
  listener : ListenerSettings := {}
  admin : AdminSettings := {}
  timeouts : TimeoutSettings := {}
  healthCheck : ProbeSettings := {}
  observability : ObservabilitySettings := {}
  store : StoreSettings := {}
deriving DecidableEq, Repr, Inhabited

/-! ## Problems -/

/-- A setting that cannot be accepted. -/
structure Problem where
  setting : String
  message : String
deriving DecidableEq, Repr, Inhabited

namespace Problem

def text (p : Problem) : String := p.setting ++ ": " ++ p.message

/-- The problem, unless a condition holds. -/
def expect (holds : Bool) (setting message : String) : List Problem :=
  if holds then [] else [⟨setting, message⟩]

def inAddress (setting address : String) : List Problem :=
  expect (Net.SocketAddress.ofText? address).isSome setting
    ("'" ++ address ++ "' is not a socket address")

end Problem

def logLevels : List String := ["trace", "debug", "info", "warn", "error"]

def AdminSettings.problems (s : AdminSettings) : List Problem :=
  if s.enabled then
    Problem.inAddress "admin.bind_address" s.bindAddress
      ++ Problem.expect (!Text.isBlankText s.apiKey) "admin.api_key"
        "must not be empty when admin is enabled"
  else []

def TimeoutSettings.problems (s : TimeoutSettings) : List Problem :=
  Problem.expect (0 < s.requestSeconds) "timeouts.request_secs" "must be greater than zero"

def ProbeSettings.problems (s : ProbeSettings) : List Problem :=
  Problem.expect (0 < s.timeoutSeconds) "health_check.timeout_secs" "must be greater than zero"
    ++ Problem.expect (s.path.toList.head? = some '/') "health_check.path" "must start with '/'"

def ObservabilitySettings.problems (s : ObservabilitySettings) : List Problem :=
  Problem.expect (logLevels.contains (Text.lower s.logLevel)) "observability.log_level"
      ("unknown level '" ++ s.logLevel ++ "'")
    ++ if s.metricsEnabled then Problem.inAddress "observability.metrics_address" s.metricsAddress else []

/-- All problems, section by section. Addresses of what is not enabled are not looked at. -/
def Settings.problems (s : Settings) : List Problem :=
  Problem.inAddress "listener.bind_address" s.listener.bindAddress ++ s.admin.problems
    ++ s.timeouts.problems ++ s.healthCheck.problems ++ s.observability.problems

def Settings.isAccepted (s : Settings) : Bool := s.problems.isEmpty

end Fleet

import Fleet.Json.Fields
import Fleet.Settings.Basic

/-!
# Settings as documents

The sections of a document and their settings. Every one may be missing.
-/

namespace Fleet

open Json Json.Decoder Json.Fields

namespace ListenerSettings

def fields : Fields ListenerSettings :=
  ListenerSettings.mk <$> defaulted "bind_address" string ({} : ListenerSettings).bindAddress

def toJson (s : ListenerSettings) : Json := .object [("bind_address", .string s.bindAddress)]

end ListenerSettings

namespace AdminSettings

def fields : Fields AdminSettings :=
  AdminSettings.mk <$> defaulted "enabled" bool ({} : AdminSettings).enabled
    <*> defaulted "api_key" string ({} : AdminSettings).apiKey
    <*> defaulted "bind_address" string ({} : AdminSettings).bindAddress

def toJson (s : AdminSettings) : Json :=
  .object [("enabled", .bool s.enabled), ("api_key", .string s.apiKey),
    ("bind_address", .string s.bindAddress)]

end AdminSettings

namespace TimeoutSettings

def fields : Fields TimeoutSettings :=
  TimeoutSettings.mk <$> defaulted "request_secs" nat64 ({} : TimeoutSettings).requestSeconds

def toJson (s : TimeoutSettings) : Json := .object [("request_secs", .nat s.requestSeconds)]

end TimeoutSettings

namespace ProbeSettings

def fields : Fields ProbeSettings :=
  ProbeSettings.mk <$> defaulted "port" nat16 ({} : ProbeSettings).port
    <*> defaulted "path" string ({} : ProbeSettings).path
    <*> defaulted "timeout_secs" nat64 ({} : ProbeSettings).timeoutSeconds

def toJson (s : ProbeSettings) : Json :=
  .object [("port", .nat s.port), ("path", .string s.path), ("timeout_secs", .nat s.timeoutSeconds)]

end ProbeSettings

namespace LogFormat

def name : LogFormat → String
  | .pretty => "pretty"
  | .json => "json"

def names : List (String × LogFormat) := [("pretty", .pretty), ("json", .json)]

def toJson (f : LogFormat) : Json := .string f.name

end LogFormat

namespace ObservabilitySettings

def fields : Fields ObservabilitySettings :=
  ObservabilitySettings.mk <$> defaulted "log_level" string ({} : ObservabilitySettings).logLevel
    <*> defaulted "log_format" (oneOf LogFormat.names) ({} : ObservabilitySettings).logFormat
    <*> defaulted "metrics_enabled" bool ({} : ObservabilitySettings).metricsEnabled
    <*> defaulted "metrics_address" string ({} : ObservabilitySettings).metricsAddress

def toJson (s : ObservabilitySettings) : Json :=
  .object [("log_level", .string s.logLevel), ("log_format", s.logFormat.toJson),
    ("metrics_enabled", .bool s.metricsEnabled), ("metrics_address", .string s.metricsAddress)]

end ObservabilitySettings

namespace StoreSettings

def fields : Fields StoreSettings := StoreSettings.mk <$> defaulted "seed_path" (option string) none

def toJson (s : StoreSettings) : Json := .object [("seed_path", .ofOption .string s.seedPath)]

end StoreSettings

namespace Settings

def fields : Fields Settings :=
  Settings.mk <$> defaulted "listener" ListenerSettings.fields.decoder {}
    <*> defaulted "admin" AdminSettings.fields.decoder {}
    <*> defaulted "timeouts" TimeoutSettings.fields.decoder {}
    <*> defaulted "health_check" ProbeSettings.fields.decoder {}
    <*> defaulted "observability" ObservabilitySettings.fields.decoder {}
    <*> defaulted "store" StoreSettings.fields.decoder {}

def decoder : Json.Decoder Settings := fields.decoder

def toJson (s : Settings) : Json :=
  .object [("listener", s.listener.toJson), ("admin", s.admin.toJson),
    ("timeouts", s.timeouts.toJson), ("health_check", s.healthCheck.toJson),
    ("observability", s.observability.toJson), ("store", s.store.toJson)]

end Settings

end Fleet

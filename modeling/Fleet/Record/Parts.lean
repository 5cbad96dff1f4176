import Fleet.Entity
import Fleet.Failure
import Fleet.Json.Basic

/-!
# Parts of records

The values inside records and inside the references they keep.
-/

namespace Fleet

/-! ## Durations -/

inductive TimeUnit where
  | ms
  | second
  | minute
  | hour
deriving DecidableEq, Repr, Inhabited

structure TimeDuration where
  count : Nat
  unit : TimeUnit
deriving DecidableEq, Repr, Inhabited

namespace TimeDuration

def seconds (count : Nat) : TimeDuration := ⟨count, .second⟩

/-- The length in milliseconds; minutes and hours go no further than 64 bits of seconds. -/
def milliseconds (d : TimeDuration) : Nat :=
  match d.unit with
  | .ms => d.count
  | .second => d.count * 1000
  | .minute => min (d.count * 60) Text.maxNat64 * 1000
  | .hour => min (d.count * 3600) Text.maxNat64 * 1000

end TimeDuration

/-! ## Addresses, scheduling, health checks -/

structure NetworkAddress where
  protocol : String
  host : String
  portRange : String
deriving DecidableEq, Repr, Inhabited

/-- How requests are spread over the origins of a proxy. -/
structure Scheduling where
  code : String
  /-- Free settings, their keys ascending. -/
  options : List (String × Json)
deriving DecidableEq, Repr, Inhabited

/-- How the nodes of a cluster are probed; what is left out falls back to the settings. -/
structure HealthPolicy where
  isOn : Bool
  port : Nat
  urlPath : String
  timeout : Option TimeDuration
deriving DecidableEq, Repr, Inhabited

/-! ## References -/

/-- The protocols of a server, each with a slot for a reverse proxy. -/
inductive Protocol where
  | http
  | tcp
  | udp
deriving DecidableEq, Repr, Inhabited

namespace Protocol

def all : List Protocol := [.http, .tcp, .udp]

def name : Protocol → String
  | .http => "http"
  | .tcp => "tcp"
  | .udp => "udp"

/-- The record field of the slot. -/
def field : Protocol → String
  | .http => "http_reverse_proxy"
  | .tcp => "tcp_reverse_proxy"
  | .udp => "udp_reverse_proxy"

def names : List (String × Protocol) := all.map fun p => (p.name, p)

/-- The protocol that a request means, in letters of either case. -/
def ofText (text : String) : Except UnknownWord Protocol :=
  (names.lookup (Text.lower text)).elim (.error (.protocol text)) .ok

end Protocol

structure ReverseProxyRef where
  reverseProxyId : Int
  isOn : Bool := true
  isPrior : Bool := false
deriving DecidableEq, Repr, Inhabited

def ReverseProxyRef.target (r : ReverseProxyRef) : EntityRef := ⟨.reverseProxy, r.reverseProxyId⟩

structure OriginRef where
  originId : Int
  isOn : Bool := true
deriving DecidableEq, Repr, Inhabited

def OriginRef.target (r : OriginRef) : EntityRef := ⟨.origin, r.originId⟩

end Fleet

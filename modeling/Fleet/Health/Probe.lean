import Fleet.Net.AccessAddress
import Fleet.Net.RequestTarget
import Fleet.Record.Codec
import Fleet.Settings.Basic

/-!
# Probes

How one node is probed: the policy of its cluster decides on port, path and timeout where it says
anything, and the node's first access address on where the request goes.
-/

namespace Fleet

/-- How the nodes of a cluster are probed. -/
structure Probe where
  port : Nat
  path : String
  /-- In milliseconds. -/
  timeout : Nat
deriving DecidableEq, Repr, Inhabited

/-- The policy before the settings. A port or a timeout of zero and an empty path say nothing. -/
def Probe.ofPolicy (s : ProbeSettings) (policy : Option HealthPolicy) : Probe where
  port := ((policy.map (·.port)).filter (0 < ·)).getD s.port
  path := ((policy.map (·.urlPath)).filter (· ≠ "")).getD s.path
  timeout :=
    (((policy.bind (·.timeout)).map TimeDuration.milliseconds).filter (0 < ·)).getD
      (s.timeoutSeconds * 1000)

/-! ## Requests -/

/-- What comes back from a request. -/
inductive Reply where
  | status (code : Nat)
  /-- The connection fails, or what comes back is no response. -/
  | lost
  /-- Nothing comes back in time. -/
  | late
deriving DecidableEq, Repr, Inhabited

/-- Why a node does not pass. -/
inductive ProbeFault where
  | addressesMalformed
  | noAddress
  | address (fault : Net.AccessAddress.Fault)
  /-- The address and the path make no URL. -/
  | noUrl (text : String)
  /-- No request can be made to the URL. -/
  | noRequest (url : List Char)
  | status (code : Nat)
  | lost
  | late (timeout : Nat)
deriving DecidableEq, Repr, Inhabited

/-- The standard reasons of status codes. -/
def statusReasons : List (Nat × String) :=
  [(100, "Continue"), (101, "Switching Protocols"), (102, "Processing"), (103, "Early Hints"),
    (200, "OK"), (201, "Created"), (202, "Accepted"), (203, "Non Authoritative Information"),
    (204, "No Content"), (205, "Reset Content"), (206, "Partial Content"), (207, "Multi-Status"),
    (208, "Already Reported"), (226, "IM Used"), (300, "Multiple Choices"),
    (301, "Moved Permanently"), (302, "Found"), (303, "See Other"), (304, "Not Modified"),
    (305, "Use Proxy"), (307, "Temporary Redirect"), (308, "Permanent Redirect"),
    (400, "Bad Request"), (401, "Unauthorized"), (402, "Payment Required"), (403, "Forbidden"),
    (404, "Not Found"), (405, "Method Not Allowed"), (406, "Not Acceptable"),
    (407, "Proxy Authentication Required"), (408, "Request Timeout"), (409, "Conflict"),
    (410, "Gone"), (411, "Length Required"), (412, "Precondition Failed"),
    (413, "Payload Too Large"), (414, "URI Too Long"), (415, "Unsupported Media Type"),
    (416, "Range Not Satisfiable"), (417, "Expectation Failed"), (418, "I'm a teapot"),
    (421, "Misdirected Request"), (422, "Unprocessable Entity"), (423, "Locked"),
    (424, "Failed Dependency"), (425, "Too Early"), (426, "Upgrade Required"),
    (428, "Precondition Required"), (429, "Too Many Requests"),
    (431, "Request Header Fields Too Large"), (451, "Unavailable For Legal Reasons"),
    (500, "Internal Server Error"), (501, "Not Implemented"), (502, "Bad Gateway"),
    (503, "Service Unavailable"), (504, "Gateway Timeout"), (505, "HTTP Version Not Supported"),
    (506, "Variant Also Negotiates"), (507, "Insufficient Storage"), (508, "Loop Detected"),
    (510, "Not Extended"), (511, "Network Authentication Required")]

def statusText (code : Nat) : String :=
  Text.natText code ++ " " ++ (statusReasons.lookup code).getD "<unknown status code>"

def ProbeFault.message : ProbeFault → String
  | .addressesMalformed => "invalid access addresses"
  | .noAddress => "node has no access address"
  | .address fault => fault.message
  | .noUrl text => "invalid probe url for '" ++ text ++ "'"
  | .noRequest url => "invalid probe url '" ++ String.ofList url ++ "'"
  | .status code => "unexpected status " ++ statusText code
  | .lost => "connection error"
  | .late limit => "timed out after " ++ Text.natText limit ++ "ms"

/-! ## Targets -/

def urlHost (host : List Char) : List Char :=
  if host.contains ':' then '[' :: host ++ [']'] else host

/-- The URL of the node itself. -/
def baseUrl? (address : Net.AccessAddress) (probe : Probe) : Option Net.Url :=
  Net.Location.ofText? ("http://".toList ++ urlHost address.host ++ ':' ::
    Text.natDigits (address.port.getD probe.port))

/-- Where the probe of an access address goes. -/
def probeTarget (address : String) (probe : Probe) : Except ProbeFault Net.Location := do
  let split ← (Net.AccessAddress.ofText address.toList).mapError .address
  match (baseUrl? split probe).bind fun base => Net.Location.join? base probe.path.toList with
  | none => throw (.noUrl address)
  | some target =>
    if Net.RequestTarget.isTarget target.text then return target else throw (.noRequest target.text)

end Fleet

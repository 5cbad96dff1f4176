import Fleet.Json.Fields

/-!
# Messages

Messages to the operators, numbered from one in the order in which they are recorded.
-/

namespace Fleet

open Json Json.Decoder Json.Fields

/-- Whom a message is about. -/
structure MessageTarget where
  clusterId : Int
  nodeId : Int
  serverId : Int
deriving DecidableEq, Repr, Inhabited

inductive MessageType where
  | firewallEvent
deriving DecidableEq, Repr, Inhabited

structure MessageDraft where
  target : MessageTarget
  messageType : MessageType
  subject : String
  body : String
deriving DecidableEq, Repr, Inhabited

structure Message extends MessageDraft where
  id : Int
deriving DecidableEq, Repr, Inhabited

/-- A message as it is delivered, with the time of its recording. -/
structure MessageTask extends Message where
  createdAt : Int
deriving DecidableEq, Repr, Inhabited

/-! ## The outbox -/

/-- The recorded messages, oldest first. -/
structure Outbox where
  messages : List Message := []
  nextId : Int := 1
deriving DecidableEq, Repr, Inhabited

/-- Records a message under the next number. -/
def Outbox.record (o : Outbox) (draft : MessageDraft) : Int × Outbox :=
  (o.nextId, ⟨o.messages ++ [{ draft with id := o.nextId }], o.nextId + 1⟩)

/-! ## Documents -/

namespace MessageTarget

def fields : Fields MessageTarget :=
  MessageTarget.mk <$> required "clusterId" int64 <*> required "nodeId" int64
    <*> required "serverId" int64

def toJson (t : MessageTarget) : Json :=
  .object [("clusterId", .int t.clusterId), ("nodeId", .int t.nodeId), ("serverId", .int t.serverId)]

end MessageTarget

namespace MessageType

def name : MessageType → String
  | .firewallEvent => "FirewallEvent"

def decoder : Json.Decoder MessageType := oneOf [(name .firewallEvent, .firewallEvent)]

def toJson (t : MessageType) : Json := .string t.name

end MessageType

namespace Message

def members (m : Message) : List (String × Json) :=
  [("id", .int m.id), ("target", m.target.toJson), ("messageType", m.messageType.toJson),
    ("subject", .string m.subject), ("body", .string m.body)]

def toJson (m : Message) : Json := .object m.members

end Message

namespace MessageTask

def fields : Fields MessageTask :=
  (fun id target messageType subject body createdAt =>
      { target, messageType, subject, body, id, createdAt })
    <$> required "id" int64 <*> required "target" MessageTarget.fields.decoder
    <*> required "messageType" MessageType.decoder <*> required "subject" string
    <*> required "body" string <*> required "createdAt" int64

def decoder : Json.Decoder MessageTask := fields.decoder

def toJson (t : MessageTask) : Json :=
  .object (t.toMessage.members ++ [("createdAt", .int t.createdAt)])

end MessageTask

end Fleet

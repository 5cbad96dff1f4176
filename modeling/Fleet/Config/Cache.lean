import Fleet.Config.Codec
import Fleet.Failure
import Fleet.Json.Printer

/-!
# The cache of a composition

What was composed so far, by reference. While a config is being composed its place is held, so that a
cycle of references would end as absent; what is handed out is a copy that went through the wire
form.
-/

namespace Fleet

/-- What the cache knows of an entity. -/
inductive CacheSlot where
  /-- It is being composed. -/
  | resolving
  | absent
  | ready (config : Config)
deriving DecidableEq, Repr, Inhabited

structure Cache where
  slots : OrdMap EntityRef CacheSlot := .empty
  /-- How many copies were handed out. -/
  hits : Nat := 0
  /-- How many lookups came to an entity that was being composed. -/
  cycles : Nat := 0
deriving Inhabited

inductive Lookup where
  | miss
  | absent
  | hit (config : Config)
deriving DecidableEq, Repr, Inhabited

/-- The config that its own wire form reads as. -/
def Config.copy (c : Config) : Except Json.Refusal Config :=
  Json.decode Config.decoder c.toJson.render

namespace Cache

def empty : Cache := {}

def size (c : Cache) : Nat := c.slots.size

def isEmpty (c : Cache) : Bool := c.slots.isEmpty

def put (c : Cache) (key : EntityRef) (slot : CacheSlot) : Cache :=
  { c with slots := c.slots.insert key slot }

/-- Holds the place of an entity that is about to be composed. -/
def begin (c : Cache) (key : EntityRef) : Cache := c.put key .resolving

/-- Keeps what the entity was composed to. -/
def settle (c : Cache) (key : EntityRef) : Option Config → Cache
  | some config => c.put key (.ready config)
  | none => c.put key .absent

/-- Gives up the place of an entity that failed to compose. -/
def abandon (c : Cache) (key : EntityRef) : Cache := { c with slots := c.slots.erase key }

/-- What the cache knows; a hit is counted. A config too deep for its wire form fails. -/
def lookup (c : Cache) (key : EntityRef) : Except Failure (Lookup × Cache) :=
  match c.slots.find? key with
  | none => .ok (.miss, c)
  | some .absent => .ok (.absent, c)
  | some .resolving => .ok (.absent, { c with cycles := c.cycles + 1 })
  | some (.ready config) =>
    match config.copy with
    | .ok config => .ok (.hit config, { c with hits := c.hits + 1 })
    | .error _ => .error (.undecodable key "cached config")

end Cache

end Fleet

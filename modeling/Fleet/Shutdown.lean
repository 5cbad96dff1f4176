/-!
# Shutdown

A signal to everyone who waits for the end. Whoever subscribes later does not see it.
-/

namespace Fleet

/-- For each receiver, from the oldest on, whether it has seen the signal. -/
structure Shutdown where
  receivers : List Bool := []
deriving DecidableEq, Repr, Inhabited

namespace Shutdown

def subscribe (s : Shutdown) : Shutdown := ⟨s.receivers ++ [false]⟩

def trigger (s : Shutdown) : Shutdown := ⟨s.receivers.map fun _ => true⟩

def drop (s : Shutdown) : Shutdown := ⟨s.receivers.drop 1⟩

def fired? (s : Shutdown) : Option Bool := s.receivers.head?

end Shutdown

end Fleet

import EventFlow.Change
import EventFlow.Store.Documents
import EventFlow.Log.Hub
import EventFlow.Web.Network

/-!
# Surroundings

What a process has around it and may change: documents, logs in memory, message
servers, the network, the wish that it stops, and a journal for whatever its parts
want to leave behind.
-/

namespace EventFlow

/-- The surroundings of a process. -/
structure Surroundings where
  documents : Documents := []
  hub : Hub := []
  servers : Servers := .offline
  network : Web.Network := .unreachable
  cancelled : Bool := false
  journal : List Json := []

/-- Something that is done in the surroundings and may fail. -/
abbrev Effect (α : Type) := Change Surroundings α

end EventFlow

import EventFlow.Workflow.Level

/-!
# Links between states

Every state of a level is entered from one place: from outside, or from one
other state. The links of a level say from where, on which condition a choice
enters a state, and which states end the level. The order of a level puts each
state behind the one it is entered from.
-/

namespace EventFlow

/-- Where a state is entered from. -/
inductive Entrance where
  | entry
  | state (name : String)
deriving DecidableEq, Repr

/-- What the transitions of a level say about its states. -/
structure Links where
  /-- Where each state is entered from. -/
  entrances : Dict Entrance
  /-- The condition on which a choice enters a state. -/
  routes : Dict Json
  /-- The states that end the level, in the order of their declaration. -/
  terminals : List String

/-! ## Conditions as JSON rules -/
namespace Route

/-- The rule that holds when none of the rules does. -/
def noneOf (rules : List Json) : Json :=
  .object [("Not", .object [("Or", .array rules)])]

/-- The negation of a rule. -/
def negation (rule : Json) : Json :=
  .object [("Not", rule)]

/-- The rule that holds when all rules do. -/
def allOf (rules : List Json) : Json :=
  .object [("And", .array rules)]

/-- The rule that holds when one of the rules does. -/
def anyOf (rules : List Json) : Json :=
  .object [("Or", .array rules)]

/-- The rule that holds when this rule does and none of the earlier ones. -/
def firstMatch (earlier : List Json) (rule : Json) : Json :=
  match earlier with
  | [] => rule
  | _ :: _ => allOf (earlier.map negation ++ [rule])

/-- The condition under both an outer and an inner one, each of which may be
absent. -/
def both : Option Json → Option Json → Option Json
  | some outer, some inner => some (allOf [outer, inner])
  | some outer, none => some outer
  | none, inner => inner

end Route

namespace Links

/-- The links of a level before its transitions are looked at. -/
def start (level : Level) : Links where
  entrances := [(level.startAt, .entry)]
  routes := []
  terminals := []

/-- Record that a target is entered from a state. -/
def link (level : Level) (source : String) (links : Links) (target : String) :
    Except Failure Links :=
  match level.state? target with
  | none => .error (.definition (.unknownTarget source target))
  | some _ =>
    match Dict.get? links.entrances target with
    | none => .ok { links with entrances := Dict.insert links.entrances target (.state source) }
    | some .entry => .error (.definition (.intoStart source target))
    | some (.state existing) =>
      if existing = source then .ok links
      else .error (.definition (.twoPredecessors target existing source))

/-- Add a condition on which a state is entered, beside those already there. -/
def route (links : Links) (target : String) (rule : Json) : Links :=
  let rule :=
    match Dict.get? links.routes target with
    | some existing => Route.anyOf [existing, rule]
    | none => rule
  { links with routes := Dict.insert links.routes target rule }

/-- The transitions of the rules of a choice, given the rules before them. A
rule leads to its target when no earlier rule holds. -/
def ofRules (level : Level) (source : String) (links : Links) (earlier : List Json) :
    List ChoiceRule → Except Failure Links
  | [] => .ok links
  | rule :: rest => do
    let links ← link level source links rule.next
    let predicate := Json.object rule.predicate
    let links := links.route rule.next (Route.firstMatch earlier predicate)
    ofRules level source links (earlier ++ [predicate]) rest

/-- The transitions of a choice: its rules, then its default, which is entered
when no rule holds. -/
def ofChoice (level : Level) (source : String) (state : State) (links : Links) :
    Except Failure Links := do
  let links ← ofRules level source links [] state.choices
  match state.default with
  | none => .ok links
  | some target => do
    let links ← link level source links target
    .ok (links.route target
      (Route.noneOf (state.choices.map fun rule => .object rule.predicate)))

/-- The transitions of one state. -/
def ofState (level : Level) (links : Links) (entry : String × State) : Except Failure Links := do
  let (name, state) := entry
  if state.kind = .succeed ∨ state.kind = .fail then
    .error (.unsupported (.state state.kind.name name state.toJson))
  else do
    let links ←
      if state.ends then
        match state.next with
        | some _ => Except.error (.definition (.endAndNext name state.toJson))
        | none => .ok { links with terminals := links.terminals ++ [name] }
      else .ok links
    let links ←
      match state.next with
      | some target => link level name links target
      | none => .ok links
    if state.kind = .choice then ofChoice level name state links else .ok links

/-- The links of a level. -/
def ofLevel (level : Level) : Except Failure Links :=
  match level.state? level.startAt with
  | none => .error (.definition (.unknownStart level.startAt))
  | some _ => do
    let links ← level.states.foldlM (ofState level) (start level)
    if links.terminals.isEmpty then .error (.definition (.noEnd level.startAt)) else .ok links

/-- Walk from a state to where it is entered from, until a state is met that is
already placed. The result lists the new states, each behind its predecessor;
`chain` holds those found so far. Every state is met at most once, so a fuel
above their number is enough. -/
def chainTo (entrances : Dict Entrance) (placed : List String) :
    Nat → List String → String → Except Failure (List String)
  | 0, _, current => .error (.definition (.cycle current))
  | fuel + 1, chain, current =>
    if placed.contains current then .ok chain
    else if chain.contains current then .error (.definition (.cycle current))
    else
      match Dict.get? entrances current with
      | some .entry => .ok (current :: chain)
      | some (.state previous) => chainTo entrances placed fuel (current :: chain) previous
      | none => .error (.definition (.unreachable current))

/-- The states of a level, each behind the one that it is entered from. -/
def order (names : List String) (entrances : Dict Entrance) : Except Failure (List String) :=
  names.foldlM (fun placed name => do
    let chain ← chainTo entrances placed (names.length + 1) [] name
    .ok (placed ++ chain)) []

end Links

end EventFlow

import EventFlow.Failure
import EventFlow.Json.Path

/-!
# Choice predicates

A predicate is a JSON object. It combines rules with `And`, `Or` and `Not`, or
it names a variable and compares what stands there. Of several operators in one
object only one counts: the connectives in the order just given, and otherwise
the first comparison in the order of the fields.
-/

namespace EventFlow

namespace Predicate

/-- The distance below which two doubles count as equal: the gap between one and
the next double. -/
def epsilon : Float := Float.ofBits 0x3CB0000000000000

/-- Compare two values as doubles; whatever is no number compares false. -/
def compareNumbers (actual : Option Json) (expected : Json) (test : Float → Float → Bool) : Bool :=
  match actual.bind Json.asDouble?, expected.asDouble? with
  | some a, some b => test a b
  | _, _ => false

/-- The comparison of a name: what it says of an actual and an expected value. -/
def comparison? (operator : String) : Option (Option Json → Json → Bool) :=
  match operator with
  | "StringEquals" | "BooleanEquals" => some fun actual expected =>
    match actual with
    | some value => value.same expected
    | none => false
  | "NumericEquals" => some fun actual expected =>
    compareNumbers actual expected fun a b => (a - b).abs < epsilon
  | "NumericGreaterThan" => some fun actual expected =>
    compareNumbers actual expected fun a b => a > b
  | "NumericGreaterThanEquals" => some fun actual expected =>
    compareNumbers actual expected fun a b => a ≥ b
  | "NumericLessThan" => some fun actual expected =>
    compareNumbers actual expected fun a b => a < b
  | "NumericLessThanEquals" => some fun actual expected =>
    compareNumbers actual expected fun a b => a ≤ b
  | _ => none

/-- Apply the first comparison of a rule. The variable and the target of the
rule are no comparisons. -/
def compareFirst (rule : Dict Json) (actual : Option Json) : Dict Json → Except Failure Bool
  | [] => .error (.definition (.noComparison (.object rule)))
  | (operator, expected) :: rest =>
    if operator = "Variable" ∨ operator = "Next" then compareFirst rule actual rest
    else
      match comparison? operator with
      | some test => .ok (test actual expected)
      | none => .error (.unsupported (.comparison operator (.object rule)))

/-- Evaluate a rule without connectives. -/
def compare (rule : Dict Json) (input : Json) : Except Failure Bool :=
  match (Dict.get? rule "Variable").bind Json.asString? with
  | none => .error (.definition (.noVariable (.object rule)))
  | some path => compareFirst rule (input.lookup path) rule

mutual

/-- Evaluate a rule; only objects are rules. -/
def holds (input : Json) : Json → Except Failure Bool
  | .object rule =>
    match conjunction? input rule with
    | some result => result
    | none =>
      match disjunction? input rule with
      | some result => result
      | none =>
        match negation? input rule with
        | some result => result
        | none => compare rule input
  | other => .error (.definition (.notRule other))

/-- The `And` of a rule, evaluated, if it has one. -/
def conjunction? (input : Json) : Dict Json → Option (Except Failure Bool)
  | [] => none
  | (name, value) :: rest =>
    if name = "And" then
      some (match value with
        | .array rules => allHold input rules
        | other => .error (.definition (.notRuleList other)))
    else conjunction? input rest

/-- The `Or` of a rule, evaluated, if it has one. -/
def disjunction? (input : Json) : Dict Json → Option (Except Failure Bool)
  | [] => none
  | (name, value) :: rest =>
    if name = "Or" then
      some (match value with
        | .array rules => anyHolds input rules
        | other => .error (.definition (.notRuleList other)))
    else disjunction? input rest

/-- The `Not` of a rule, evaluated, if it has one. -/
def negation? (input : Json) : Dict Json → Option (Except Failure Bool)
  | [] => none
  | (name, value) :: rest =>
    if name = "Not" then some ((holds input value).map fun result => !result)
    else negation? input rest

/-- Whether all rules of a list hold. The first one that does not, or fails,
decides; what is no object is passed over. -/
def allHold (input : Json) : List Json → Except Failure Bool
  | [] => .ok true
  | .object rule :: rest =>
    match holds input (.object rule) with
    | .ok true => allHold input rest
    | other => other
  | _ :: rest => allHold input rest

/-- Whether one rule of a list holds. The first one that does, or fails, decides;
what is no object is passed over. -/
def anyHolds (input : Json) : List Json → Except Failure Bool
  | [] => .ok false
  | .object rule :: rest =>
    match holds input (.object rule) with
    | .ok false => anyHolds input rest
    | other => other
  | _ :: rest => anyHolds input rest

end

/-- Evaluate a predicate on an input. -/
def evaluate (predicate : Dict Json) (input : Json) : Except Failure Bool :=
  holds input (.object predicate)

end Predicate

end EventFlow

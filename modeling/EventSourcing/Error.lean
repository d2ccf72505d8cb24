import EventSourcing.Text.Quoted
import EventSourcing.Word

/-!
# Failures

What can go wrong while a command or an event is handled. A fan-out over several subscribers that
loses more than one of them fails with all their failures together.
-/

namespace EventSourcing

inductive DomainError where
  /-- An input has not the form that is asked of it. -/
  | validation (message : String)
  | notFound (kind : String) (id : Int64)
  | ruleViolation (message : String)
  | store (message : String)
  | dispatch (failures : List DomainError)

namespace DomainError

mutual

def message : DomainError → String
  | .validation text => s!"validation error: {text}"
  | .notFound kind id => s!"{kind} {Word.text id} not found"
  | .ruleViolation text => s!"rule violation: {text}"
  | .store text => s!"store error: {text}"
  | .dispatch failures =>
    s!"{failures.length} subscribers failed: " ++ "; ".intercalate (messages failures)

def messages : List DomainError → List String
  | [] => []
  | failure :: failures => message failure :: messages failures

end

mutual

/-- Some rule of the domain is among the causes of a failure. -/
def isRuleViolation : DomainError → Bool
  | .ruleViolation _ => true
  | .dispatch failures => anyRuleViolation failures
  | _ => false

/-- Some rule of the domain is among the causes of some failures. -/
def anyRuleViolation : List DomainError → Bool
  | [] => false
  | failure :: failures => isRuleViolation failure || anyRuleViolation failures

end

mutual

/-- The single failures of which a failure is made, from left to right. -/
def leaves : DomainError → List DomainError
  | .dispatch failures => leavesOf failures
  | failure => [failure]

def leavesOf : List DomainError → List DomainError
  | [] => []
  | failure :: failures => leaves failure ++ leavesOf failures

end

mutual

/-- The name of the cause with what belongs to it in brackets. -/
def inspect : DomainError → String
  | .validation text => s!"Validation({Text.quoted text})"
  | .notFound kind id =>
    s!"NotFound \x7b kind: {Text.quoted kind}, id: {Word.text id} \x7d"
  | .ruleViolation text => s!"RuleViolation({Text.quoted text})"
  | .store text => s!"Store({Text.quoted text})"
  | .dispatch failures => "Dispatch([" ++ ", ".intercalate (inspections failures) ++ "])"

def inspections : List DomainError → List String
  | [] => []
  | failure :: failures => inspect failure :: inspections failures

end

/-- The failure that stands for a list of failures: none for none, a single one for itself. -/
def ofFailures? : List DomainError → Option DomainError
  | [] => none
  | [failure] => some failure
  | failures => some (.dispatch failures)

mutual

def decEq : (a b : DomainError) → Decidable (a = b)
  | .validation a, .validation b => decidable_of_iff (a = b) (by simp)
  | .notFound k a, .notFound l b => decidable_of_iff (k = l ∧ a = b) (by simp)
  | .ruleViolation a, .ruleViolation b => decidable_of_iff (a = b) (by simp)
  | .store a, .store b => decidable_of_iff (a = b) (by simp)
  | .dispatch a, .dispatch b =>
    have := decEqAll a b
    decidable_of_iff (a = b) (by simp)
  | .validation _, .notFound _ _ | .validation _, .ruleViolation _ | .validation _, .store _
  | .validation _, .dispatch _ | .notFound _ _, .validation _ | .notFound _ _, .ruleViolation _
  | .notFound _ _, .store _ | .notFound _ _, .dispatch _ | .ruleViolation _, .validation _
  | .ruleViolation _, .notFound _ _ | .ruleViolation _, .store _ | .ruleViolation _, .dispatch _
  | .store _, .validation _ | .store _, .notFound _ _ | .store _, .ruleViolation _
  | .store _, .dispatch _ | .dispatch _, .validation _ | .dispatch _, .notFound _ _
  | .dispatch _, .ruleViolation _ | .dispatch _, .store _ => isFalse (by simp)

def decEqAll : (a b : List DomainError) → Decidable (a = b)
  | [], [] => isTrue rfl
  | [], _ :: _ | _ :: _, [] => isFalse (by simp)
  | x :: xs, y :: ys =>
    have := decEq x y
    have := decEqAll xs ys
    decidable_of_iff (x = y ∧ xs = ys) (by simp)

end

instance : DecidableEq DomainError := decEq

end DomainError

end EventSourcing

import ChainRpc.Malformed

/-!
# Issues

Checking a value against a shape finds all that is wrong with it. Each issue has a cause and the path
from the checked value to the place it is about.
-/

namespace ChainRpc

/-- A step of a path: to the value under a name or at a position. -/
inductive Step
  | name (t : Text)
  | index (n : Nat)
  deriving DecidableEq, Repr

/-- What is wrong at a place. -/
inductive Cause
  | missing
  | notRecord (className : Text)
  | notBool
  | notText
  | notUnicode
  | notNull
  | notList
  | notOption (options : List Text)
  | notInt
  | notIntText
  | fraction
  | notFinite
  | tooLargeForInt
  | notJson
  | tooDeep
  | loop
  | frozen
  | refused (refusal : Refusal)
  | notResponseObject
  | notOneOutcome

/-- The words of a list of options: the last two are joined by "or". -/
def Cause.options : List Text → Text
  | []     => []
  | [t]    => t.quoted
  | [t, u] => Text.concat [t.quoted, " or ", u.quoted]
  | t :: rest => Text.concat [t.quoted, ", ", options rest]

def Cause.code : Cause → Text
  | .missing        => "missing"
  | .notRecord _    => "model_type"
  | .notBool        => "bool_type"
  | .notText        => "string_type"
  | .notUnicode     => "string_unicode"
  | .notNull        => "none_required"
  | .notList        => "list_type"
  | .notOption _    => "literal_error"
  | .notInt         => "int_type"
  | .notIntText     => "int_parsing"
  | .fraction       => "int_from_float"
  | .notFinite      => "finite_number"
  | .tooLargeForInt => "int_parsing_size"
  | .notJson        => "invalid-json-value"
  | .tooDeep        => "recursion_depth_exceeded"
  | .loop           => "recursion_loop"
  | .frozen         => "frozen_instance"
  | .refused _ | .notResponseObject | .notOneOutcome => "value_error"

def Cause.message : Cause → Text
  | .missing        => "Field required"
  | .notRecord name => "Input should be a valid dictionary or instance of " ++ name
  | .notBool        => "Input should be a valid boolean"
  | .notText        => "Input should be a valid string"
  | .notUnicode     => "Input should be a valid string, unable to parse raw data as a unicode string"
  | .notNull        => "Input should be None"
  | .notList        => "Input should be a valid list"
  | .notOption ts   => "Input should be " ++ options ts
  | .notInt         => "Input should be a valid integer"
  | .notIntText     => "Input should be a valid integer, unable to parse string as an integer"
  | .fraction       => "Input should be a valid integer, got a number with a fractional part"
  | .notFinite      => "Input should be a finite number"
  | .tooLargeForInt => "Unable to parse input string as an integer, exceeded maximum size"
  | .notJson        => "input was not a valid JSON value"
  | .tooDeep        => "Recursion error - maximum validation depth exceeded"
  | .loop           => "Recursion error - cyclic reference detected"
  | .frozen         => "Instance is frozen"
  | .refused r      => "Value error, " ++ r.message
  | .notResponseObject => "Value error, response must be a JSON object"
  | .notOneOutcome =>
    "Value error, response must carry exactly one of 'result' or 'error'"

/-- Something wrong at a place of a checked value. -/
structure Issue where
  path : List Step
  cause : Cause

namespace Issue

def here (cause : Cause) : List Issue :=
  [⟨[], cause⟩]

/-- Issues of a value as issues of the container that holds it after a step. -/
def under (step : Step) (issues : List Issue) : List Issue :=
  issues.map fun issue => { issue with path := step :: issue.path }

@[simp] theorem under_nil (step : Step) : under step [] = [] := rfl

def headline (issues : List Issue) (className : Text) : Text :=
  Text.concat [Text.ofNat issues.length, " ", Text.plural issues.length "validation error", " for ",
    className]

end Issue

/-- A checked value, or all that is wrong with it. -/
abbrev Checked (α : Type) := Except (List Issue) α

namespace Checked

variable {α β γ : Type}

/-- The results of two checks: the issues of both count. -/
def both : Checked α → Checked β → Checked (α × β)
  | .ok a,    .ok b    => .ok (a, b)
  | .ok _,    .error j => .error j
  | .error i, .ok _    => .error i
  | .error i, .error j => .error (i ++ j)

def under (step : Step) (c : Checked α) : Checked α :=
  c.mapError (Issue.under step)

@[simp] theorem both_ok (a : α) (b : β) : both (.ok a) (.ok b) = .ok (a, b) := rfl

theorem both_eq_ok_iff {x : Checked α} {y : Checked β} {a : α} {b : β} :
    both x y = .ok (a, b) ↔ x = .ok a ∧ y = .ok b := by
  cases x <;> cases y <;> simp [both]

end Checked

end ChainRpc

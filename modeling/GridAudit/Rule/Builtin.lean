import GridAudit.Factory.Formal
import GridAudit.Rule.Param

/-!
# Built-in rules

The rules that need no other rule to be written: for each its name, what it does, the formals of its
factory, and how its body is built from arguments. Building can fail, because a factory of another
author may bind a built-in body to formals of its own.
-/

namespace GridAudit

/-- Why the body of a rule cannot be built. -/
inductive BuildError where
  | missingArgument (slot : String)
  /-- An argument has to be a matcher and is none. -/
  | notMatcher (slot : String) (cause : EvalError)
  /-- A constant bound to the slot `pattern` is no pattern. -/
  | badPattern

/-- The wording of a failure to build a body. -/
def BuildError.message : BuildError → String
  | .missingArgument slot => s!"missing argument '{slot}'"
  | .notMatcher slot cause => s!"invalid argument '{slot}': {cause.message}"
  | .badPattern => "invalid argument 'pattern'"

/-- The body of a rule of either kind. -/
inductive RuleBody where
  | test (t : Test)
  | action (a : Action Param)

/-- The kind of rule a body makes. -/
def RuleBody.kind : RuleBody → RuleKind
  | .test _ => .matcher
  | .action _ => .replacer

/-- The rule of a body. -/
def RuleBody.toInstance (name : String) (arguments : List Argument) : RuleBody → Instance
  | .test t => .matcher ⟨name, arguments, collectReferences [] arguments, t⟩
  | .action a => .replacer ⟨name, arguments, collectReferences [] arguments, a⟩

/-- The built-in rules. -/
inductive Builtin where
  | exact
  | stringEquals
  | regex
  | intRange
  | realRange
  | length
  | isInt
  | isReal
  | empty
  | not
  | all
  | any
  | oneOf
  | literal
  | trim
  | upper
  | lower
  | concat
  | regexReplace
  | clampInt
  deriving DecidableEq, Inhabited

namespace Builtin

/-- Every built-in rule, in the order in which their factories are registered. -/
def list : List Builtin :=
  [.exact, .stringEquals, .regex, .intRange, .realRange, .length, .isInt, .isReal, .empty, .not,
    .all, .any, .oneOf, .literal, .trim, .upper, .lower, .concat, .regexReplace, .clampInt]

/-- The name of the factory of a built-in rule. -/
def name : Builtin → String
  | .exact => "Exact"
  | .stringEquals => "String="
  | .regex => "Regex"
  | .intRange => "IntRange"
  | .realRange => "RealRange"
  | .length => "Length"
  | .isInt => "IsInt"
  | .isReal => "IsReal"
  | .empty => "Empty"
  | .not => "Not"
  | .all => "All"
  | .any => "Any"
  | .oneOf => "OneOf"
  | .literal => "Literal"
  | .trim => "Trim"
  | .upper => "Upper"
  | .lower => "Lower"
  | .concat => "Concat"
  | .regexReplace => "RegexReplace"
  | .clampInt => "ClampInt"

/-- What a built-in rule does, in words. -/
def description : Builtin → String
  | .exact => "Input equals the expected text exactly"
  | .stringEquals => "Input equals the expected text, ignoring surrounding whitespace"
  | .regex => "The whole input matches a regular expression"
  | .intRange => "Input is an integer within the inclusive bounds"
  | .realRange => "Input is a number within the inclusive bounds"
  | .length => "Input length in characters is within the inclusive bounds"
  | .isInt => "Input parses as an integer"
  | .isReal => "Input parses as a number"
  | .empty => "Input is blank"
  | .not => "Negates a matcher"
  | .all => "Every matcher matches"
  | .any => "At least one matcher matches"
  | .oneOf => "Input equals one of the options"
  | .literal => "Replaces with a fixed value"
  | .trim => "Strips surrounding whitespace"
  | .upper => "Converts to upper case"
  | .lower => "Converts to lower case"
  | .concat => "Joins the parts in order"
  | .regexReplace => "Replaces every match of a regular expression"
  | .clampInt => "Clamps an integer into the inclusive bounds"

/-- The identifier under which definitions refer to the body of a built-in rule. -/
def id (b : Builtin) : String :=
  "builtin." ++ String.ofList (b.name.toList.flatMap fun c =>
    if c = '=' then ['_', 'e', 'q'] else [c.toLower])

/-- The kind of a built-in rule. -/
def kind : Builtin → RuleKind
  | .literal | .trim | .upper | .lower | .concat | .regexReplace | .clampInt => .replacer
  | _ => .matcher

/-- The formals of the factory of a built-in rule. -/
def formals : Builtin → List Formal
  | .exact | .stringEquals => [.single "input" .string, .single "against" .string]
  | .regex => [.single "input" .string, .single "pattern" .string]
  | .intRange | .clampInt => bounded .int .int
  | .realRange => bounded .real .real
  | .length => bounded .string .int
  | .isInt | .isReal | .empty | .trim | .upper | .lower => [.single "input" .string]
  | .not => [.single "matcher" .matcher]
  | .all | .any => [(Formal.single "matchers" .matcher).array]
  | .oneOf => [.single "input" .string, (Formal.single "options" .string).array]
  | .literal => [.single "value" .string]
  | .concat => [(Formal.single "parts" .string).array]
  | .regexReplace =>
    [.single "input" .string, .single "pattern" .string, .single "replacement" .string]
where
  /-- An input with optional bounds. -/
  bounded (input bound : ValueType) : List Formal :=
    [.single "input" input, (Formal.single "min" bound).optional,
      (Formal.single "max" bound).optional]

/-- The first argument bound to a slot, as an operand. -/
def optionalOperand (arguments : List Argument) (slot : String) : Option Operand :=
  (arguments.find? (·.slot = slot)).map (·.value.operand)

/-- The first argument bound to a slot that must be bound. -/
def operandOf (arguments : List Argument) (slot : String) : Except BuildError Operand :=
  match optionalOperand arguments slot with
  | some o => .ok o
  | none => .error (.missingArgument slot)

/-- Every argument bound to a slot. -/
def operandsOf (arguments : List Argument) (slot : String) : List Operand :=
  (Bound.valuesOf slot arguments).map Param.operand

/-- The bounds among the arguments. -/
def boundsOf (arguments : List Argument) : Bounds :=
  ⟨optionalOperand arguments "min", optionalOperand arguments "max"⟩

/-- The pattern among the arguments. -/
def patternOf (whole : Bool) (arguments : List Argument) : Except BuildError PatternSource := do
  let source ← operandOf arguments "pattern"
  match PatternSource.ofOperand? whole source with
  | some pattern => .ok pattern
  | none => .error .badPattern

/-- The tests of the matchers bound to a slot. -/
def testsOf (arguments : List Argument) (slot : String) : Except BuildError (List Test) :=
  (Bound.valuesOf slot arguments).mapM fun p =>
    match p.asMatcher with
    | .ok m => .ok m.body
    | .error cause => .error (.notMatcher slot cause)

/-- A test of the argument `input`. -/
def inputTest (make : Operand → Test) (arguments : List Argument) : Except BuildError RuleBody := do
  let input ← operandOf arguments "input"
  return .test (make input)

/-- An action on the argument `input`. -/
def inputAction (make : Operand → Action Param) (arguments : List Argument) :
    Except BuildError RuleBody := do
  let input ← operandOf arguments "input"
  return .action (make input)

/-- The body of a built-in rule, built from arguments. -/
def build (arguments : List Argument) : Builtin → Except BuildError RuleBody
  | .exact => do
    let input ← operandOf arguments "input"
    let against ← operandOf arguments "against"
    return .test (.equal input against)
  | .stringEquals => do
    let input ← operandOf arguments "input"
    let against ← operandOf arguments "against"
    return .test (.equalTrimmed input against)
  | .regex => do
    let pattern ← patternOf true arguments
    let input ← operandOf arguments "input"
    return .test (.pattern input pattern)
  | .intRange => inputTest (.intRange · (boundsOf arguments)) arguments
  | .realRange => inputTest (.realRange · (boundsOf arguments)) arguments
  | .length => inputTest (.length · (boundsOf arguments)) arguments
  | .isInt => inputTest .isInt arguments
  | .isReal => inputTest .isReal arguments
  | .empty => inputTest .blank arguments
  | .not => do
    let tests ← testsOf arguments "matcher"
    match tests with
    | inner :: _ => return .test (.not inner)
    | [] => .error (.missingArgument "matcher")
  | .all => do
    let tests ← testsOf arguments "matchers"
    return .test (.all tests)
  | .any => do
    let tests ← testsOf arguments "matchers"
    return .test (.any tests)
  | .oneOf => inputTest (.oneOf · (operandsOf arguments "options")) arguments
  | .literal => do
    let value ← operandOf arguments "value"
    return .action (.literal value)
  | .trim => inputAction .trim arguments
  | .upper => inputAction .upper arguments
  | .lower => inputAction .lower arguments
  | .concat => return .action (.concat (operandsOf arguments "parts"))
  | .regexReplace => do
    let input ← operandOf arguments "input"
    let pattern ← patternOf false arguments
    let replacement ← operandOf arguments "replacement"
    return .action (.replaceAll input pattern replacement)
  | .clampInt => inputAction (.clamp · (boundsOf arguments)) arguments

end Builtin

end GridAudit

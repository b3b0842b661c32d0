import FigureScript.Process.Tool.Lines
import FigureScript.Process.Tool.Regular

/-!
# Calculating with arguments

## Main Definitions

* `Tool.applyOperator` — the value of an operator
* `Tool.calculate` — writes the value of an expression whose elements are arguments

## Design Notes

A value is a text.  Operators that take numbers insist on them, and those that compare take
them for numbers where both are.  The status tells whether the value is something else than
zero or nothing.
-/

namespace FigureScript.Tool

/-- The value of an element that counts as nothing. -/
def isNothing (value : List Char) : Bool :=
  value.isEmpty || integer? value = some 0

/-- Why an expression has no value. -/
inductive CalculationError where
  | missing
  | unexpected (element : List Char)
  | missingBehind (element : List Char)
  | unclosed (element : List Char)
  | noNumber
  | divisionByZero

/-- The wording of a problem with an expression. -/
def CalculationError.message : CalculationError → String
  | missing => "syntax error: missing argument"
  | unexpected element => "syntax error: unexpected argument " ++ quoted element
  | missingBehind element => "syntax error: missing argument after " ++ quoted element
  | unclosed element => "syntax error: expecting ')' after " ++ quoted element
  | noNumber => "non-integer argument"
  | divisionByZero => "division by zero"

/-- Applies an operator. -/
def applyOperator (operator : String) (a b : List Char) : Except CalculationError (List Char) := do
  let truth (holds : Bool) : Except CalculationError (List Char) :=
    return if holds then ['1'] else ['0']
  let compare (ofNumbers : Int → Int → Bool) (ofTexts : String → String → Bool) :=
    match integer? a, integer? b with
    | some m, some n => truth (ofNumbers m n)
    | _, _ => truth (ofTexts (String.ofList a) (String.ofList b))
  let calculate (f : Int → Int → Except CalculationError Int) := do
    match integer? a, integer? b with
    | some m, some n => return (toString (← f m n)).toList
    | _, _ => throw .noNumber
  match operator with
  | "|" => return if isNothing a then (if isNothing b then ['0'] else b) else a
  | "&" => return if isNothing a || isNothing b then ['0'] else a
  | "<" => compare (· < ·) (· < ·)
  | "<=" => compare (· ≤ ·) (· ≤ ·)
  | "=" | "==" => compare (· = ·) (· = ·)
  | "!=" => compare (· ≠ ·) (· ≠ ·)
  | ">=" => compare (· ≥ ·) (· ≥ ·)
  | ">" => compare (· > ·) (· > ·)
  | "+" => calculate fun m n => return m + n
  | "-" => calculate fun m n => return m - n
  | "*" => calculate fun m n => return m * n
  | "/" => calculate fun m n => if n = 0 then throw .divisionByZero else return Int.tdiv m n
  | "%" => calculate fun m n => if n = 0 then throw .divisionByZero else return Int.tmod m n
  | _ =>
    match Regular.ofText false b with
    | .error _ => throw .missing
    | .ok r =>
      match (Regular.follow (.edge .lineStart) r).find? none a with
      | none => return if b.contains '(' then [] else ['0']
      | some found =>
        if !found.skipped.isEmpty then return if b.contains '(' then [] else ['0']
        else match found.behind.groups.lookup 1 with
          | some text => return text
          | none => return (toString found.text.length).toList

/-- The operators, those that bind less first. -/
def operatorLevels : List (List String) :=
  [["|"], ["&"], ["<", "<=", "=", "==", "!=", ">=", ">"], ["+", "-"], ["*", "/", "%"], [":"]]

mutual

/-- The value of an expression with operators of some levels. -/
def evaluateLevels : (fuel : Nat) → List (List String) → (last : Option (List Char)) →
    List (List Char) → Except CalculationError (List Char × List (List Char))
  | 0, _, _, _ => .error .missing
  | fuel + 1, [], last, elements => evaluateElement fuel last elements
  | fuel + 1, operators :: levels, last, elements => do
    let (value, rest) ← evaluateLevels fuel levels last elements
    evaluateChain fuel operators levels value rest

/-- The value of a chain of operators of one level, of which the first value is known. -/
def evaluateChain : (fuel : Nat) → (operators : List String) → List (List String) →
    (value : List Char) → List (List Char) → Except CalculationError (List Char × List (List Char))
  | 0, _, _, _, _ => .error .missing
  | _, _, _, value, [] => .ok (value, [])
  | fuel + 1, operators, levels, value, operator :: rest =>
    if operators.contains (String.ofList operator) then do
      let (other, rest) ← evaluateLevels fuel levels (some operator) rest
      let value ← applyOperator (String.ofList operator) value other
      evaluateChain fuel operators levels value rest
    else .ok (value, operator :: rest)

/-- The value of one element. -/
def evaluateElement : (fuel : Nat) → (last : Option (List Char)) → List (List Char) →
    Except CalculationError (List Char × List (List Char))
  | 0, _, _ => .error .missing
  | _, none, [] => .error .missing
  | _, some last, [] => .error (.missingBehind last)
  | fuel + 1, _, element :: rest =>
    match String.ofList element with
    | "(" => do
      let (value, rest) ← evaluateLevels fuel operatorLevels (some element) rest
      match rest with
      | [')'] :: rest => return (value, rest)
      | _ => throw (.unclosed value)
    | ")" => .error (.unexpected element)
    | "length" =>
      match rest with
      | text :: rest => .ok ((toString text.length).toList, rest)
      | [] => .error (.missingBehind element)
    | _ => .ok (element, rest)

end

/-- **Writes the value of an expression** whose elements are arguments. -/
def calculate (arguments : List (List Char)) : Tool Unit := do
  if arguments.isEmpty then misused 2 "missing operand"
  else match evaluateLevels (8 * arguments.length + 8) operatorLevels none arguments with
    | .error problem => complain 2 problem.message
    | .ok (_, extra :: _) => complain 2 (CalculationError.unexpected extra).message
    | .ok (value, []) => do
      sayLine value
      setStatus (if isNothing value then 1 else 0)

end FigureScript.Tool

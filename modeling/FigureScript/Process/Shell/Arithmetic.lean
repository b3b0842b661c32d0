/-!
# Arithmetic of the shell

Expressions over whole numbers of 64 bits and the variables of a script.

## Main Definitions

* `Arithmetic.value` — the value of an expression
* `Arithmetic.ofText?` — the number that a text is
* `ArithmeticFlaw` — why an expression has no value

## Design Notes

A part that does not count, such as the second one of `0 && x`, is read but not evaluated.
Numbers wrap around.
-/

namespace FigureScript

/-- **Why an expression has no value.** -/
inductive ArithmeticFlaw where
  | noPrimary
  | noEnd
  | noClosing
  | noColon
  | divisionByZero
  /-- A variable holds something else. -/
  | notNumber (text : String)
  deriving DecidableEq

/-- The wording of a flaw of an expression. -/
def ArithmeticFlaw.message (expression : String) : ArithmeticFlaw → String
  | noPrimary => "arithmetic expression: expecting primary: \"" ++ expression ++ "\""
  | noEnd => "arithmetic expression: expecting EOF: \"" ++ expression ++ "\""
  | noClosing => "arithmetic expression: expecting ')': \"" ++ expression ++ "\""
  | noColon => "arithmetic expression: expecting ':': \"" ++ expression ++ "\""
  | divisionByZero => "arithmetic expression: division by zero: \"" ++ expression ++ "\""
  | notNumber text => "Illegal number: " ++ text

/-- One element of an expression. -/
inductive ArithmeticToken where
  | number (value : Int)
  | name (name : String)
  | operator (text : String)
  deriving DecidableEq

namespace Arithmetic

/-- The number in the range of 64 bits that has the same bits. -/
def wrap (n : Int) : Int :=
  Int.bmod n (Nat.pow 2 64)

/-- The largest number. -/
def largest : Int := Int.pow 2 63 - 1

/-- The value of a digit. -/
def digitValue (c : Char) : Nat :=
  if c.isDigit then c.toNat - '0'.toNat else c.toLower.toNat - 'a'.toNat + 10

/-- A digit of a base. -/
def isDigitOf (base : Nat) (c : Char) : Bool :=
  (c.isDigit || c.isAlpha) && digitValue c < base

/-- The number at the front of a text and the text behind it.  A zero in front makes it
octal, and `0x` hexadecimal. -/
def readNumber (text : List Char) : Int × List Char :=
  let digits (base : Nat) (text : List Char) : Int × List Char :=
    let digits := text.takeWhile (isDigitOf base)
    let value := digits.foldl (fun n d => base * n + digitValue d) 0
    (min value largest, text.drop digits.length)
  match text with
  | '0' :: x :: d :: rest =>
    if (x = 'x' || x = 'X') && isDigitOf 16 d then digits 16 (d :: rest) else digits 8 text
  | '0' :: _ => digits 8 text
  | _ => digits 10 text

/-- White space. -/
def isSpace (c : Char) : Bool :=
  c = ' ' || 9 ≤ c.toNat && c.toNat ≤ 13

/-- **The number that a text is**, if it is one.  An empty text is zero. -/
def ofText? (text : List Char) : Option Int :=
  let text := text.dropWhile isSpace
  let (negative, body) := match text with
    | '-' :: rest => (true, rest)
    | '+' :: rest => (false, rest)
    | rest => (false, rest)
  let (value, rest) := readNumber body
  if (body.head?.any Char.isDigit || text.isEmpty) && rest.all isSpace then
    some (if negative then -value else value)
  else none

/-- The operators, longer ones first. -/
def operators : List String :=
  ["<<=", ">>=", "<<", ">>", "<=", ">=", "==", "!=", "&&", "||", "*=", "/=", "%=", "+=", "-=", "&=",
    "^=", "|=", "<", ">", "=", "!", "~", "*", "/", "%", "+", "-", "&", "^", "|", "?", ":", "(", ")"]

/-- The elements of an expression; a character that means nothing is an operator that fits
nowhere. -/
def tokens : (fuel : Nat) → List Char → List ArithmeticToken
  | 0, _ => []
  | _, [] => []
  | fuel + 1, c :: rest =>
    if c = ' ' || c = '\t' || c = '\n' then tokens fuel rest
    else if c.isDigit then
      let (value, behind) := readNumber (c :: rest)
      .number value :: tokens fuel behind
    else if c.isAlpha || c = '_' then
      let name := (c :: rest).takeWhile fun c => c.isAlphanum || c = '_'
      .name (String.ofList name) :: tokens fuel ((c :: rest).drop name.length)
    else match operators.find? fun op => op.toList.isPrefixOf (c :: rest) with
      | some op => .operator op :: tokens fuel ((c :: rest).drop op.length)
      | none => .operator "" :: tokens fuel rest

/-- The elements still to be read, and the variables that were set, the last one first. -/
structure State where
  tokens : List ArithmeticToken
  assigned : List (String × Int) := []

/-- Evaluates a part of an expression. -/
abbrev Evaluation := StateT State (Except ArithmeticFlaw)

/-- The next element. -/
def peek : Evaluation (Option ArithmeticToken) := do
  return (← get).tokens.head?

/-- Passes over an element. -/
def skip : Evaluation Unit :=
  modify fun s => { s with tokens := s.tokens.tail }

/-- Passes over an operator, if it is next. -/
def skipOperator (op : String) : Evaluation Bool := do
  if (← peek) = some (.operator op) then
    skip
    return true
  else return false

/-- The value of a variable. -/
def valueOf (lookup : String → Option (List Char)) (name : String) : Evaluation Int := do
  match (← get).assigned.lookup name with
  | some value => return value
  | none =>
    let text := (lookup name).getD []
    match ofText? text with
    | some value => return value
    | none => throw (.notNumber (String.ofList text))

/-- How tightly an operator binds its operands; a lower number binds tighter. -/
def level? : String → Option Nat
  | "*" | "/" | "%" => some 0
  | "+" | "-" => some 1
  | "<<" | ">>" => some 2
  | "<" | "<=" | ">" | ">=" => some 3
  | "==" | "!=" => some 4
  | "&" => some 5
  | "^" => some 6
  | "|" => some 7
  | _ => none

/-- The number of a truth value. -/
def ofBool (b : Bool) : Int :=
  if b then 1 else 0

/-- An operation on the bits of two numbers. -/
def bitwise (operation : Nat → Nat → Nat) (a b : Int) : Int :=
  wrap (operation (a % Int.pow 2 64).toNat (b % Int.pow 2 64).toNat)

/-- The value of an operation. -/
def operate (op : String) (a b : Int) : Except ArithmeticFlaw Int :=
  match op with
  | "*" => .ok (wrap (a * b))
  | "/" => if b = 0 then .error .divisionByZero else .ok (wrap (Int.tdiv a b))
  | "%" => if b = 0 then .error .divisionByZero else .ok (wrap (Int.tmod a b))
  | "+" => .ok (wrap (a + b))
  | "-" => .ok (wrap (a - b))
  | "<<" => .ok (wrap (a * Int.pow 2 (b % 64).toNat))
  | ">>" => .ok (a / Int.pow 2 (b % 64).toNat)
  | "<" => .ok (ofBool (a < b))
  | "<=" => .ok (ofBool (a ≤ b))
  | ">" => .ok (ofBool (a > b))
  | ">=" => .ok (ofBool (a ≥ b))
  | "==" => .ok (ofBool (a = b))
  | "!=" => .ok (ofBool (a ≠ b))
  | "&" => .ok (bitwise Nat.land a b)
  | "^" => .ok (bitwise Nat.xor a b)
  | "|" => .ok (bitwise Nat.lor a b)
  | _ => .ok b

/-- The operation of an assignment such as `+=`. -/
def assignment? : ArithmeticToken → Option String
  | .operator op =>
    if ["=", "*=", "/=", "%=", "+=", "-=", "<<=", ">>=", "&=", "^=", "|="].contains op then
      some (String.ofList op.toList.dropLast)
    else none
  | _ => none

variable (lookup : String → Option (List Char))

mutual

/-- A number, a variable, or an expression in parentheses, with signs in front. -/
def primary : (fuel : Nat) → (counts : Bool) → Evaluation Int
  | 0, _ => throw .noPrimary
  | fuel + 1, counts => do
    match ← peek with
    | some (.number value) =>
      skip
      return value
    | some (.name name) =>
      skip
      if counts then valueOf lookup name else return 0
    | some (.operator "(") =>
      skip
      let value ← expression fuel counts
      if ← skipOperator ")" then return value else throw .noClosing
    | some (.operator "+") =>
      skip
      primary fuel counts
    | some (.operator "-") =>
      skip
      return wrap (-(← primary fuel counts))
    | some (.operator "!") =>
      skip
      return ofBool ((← primary fuel counts) = 0)
    | some (.operator "~") =>
      skip
      return -(← primary fuel counts) - 1
    | _ => throw .noPrimary

/-- Operations that bind at least as tightly as a level. -/
def operations : (fuel : Nat) → (counts : Bool) → (level : Nat) → Evaluation Int
  | 0, _, _ => throw .noPrimary
  | fuel + 1, counts, level => do
    let first ← primary fuel counts
    moreOperations fuel counts level first

/-- Goes on with operations behind their first operand. -/
def moreOperations : (fuel : Nat) → (counts : Bool) → (level : Nat) → Int → Evaluation Int
  | 0, _, _, value => return value
  | fuel + 1, counts, level, value => do
    match ← peek with
    | some (.operator op) =>
      match level? op with
      | none => return value
      | some own =>
        if level < own then return value
        else
          skip
          let other ← if own = 0 then primary fuel counts else operations fuel counts (own - 1)
          let result ← if counts then operate op value other else pure 0
          moreOperations fuel counts level result
    | _ => return value

/-- Operands of `&&`. -/
def conjunction : (fuel : Nat) → (counts : Bool) → Evaluation Int
  | 0, _ => throw .noPrimary
  | fuel + 1, counts => do
    let first ← operations fuel counts 7
    if ← skipOperator "&&" then
      let second ← conjunction fuel (counts && first ≠ 0)
      return ofBool (first ≠ 0 && second ≠ 0)
    else return first

/-- Operands of `||`. -/
def disjunction : (fuel : Nat) → (counts : Bool) → Evaluation Int
  | 0, _ => throw .noPrimary
  | fuel + 1, counts => do
    let first ← conjunction fuel counts
    if ← skipOperator "||" then
      let second ← disjunction fuel (counts && first = 0)
      return ofBool (first ≠ 0 || second ≠ 0)
    else return first

/-- A choice `a ? b : c`. -/
def choice : (fuel : Nat) → (counts : Bool) → Evaluation Int
  | 0, _ => throw .noPrimary
  | fuel + 1, counts => do
    let first ← disjunction fuel counts
    if ← skipOperator "?" then
      let second ← expression fuel (counts && first ≠ 0)
      if ← skipOperator ":" then
        let third ← choice fuel (counts && first = 0)
        return if first ≠ 0 then second else third
      else throw .noColon
    else return first

/-- An expression, which may be an assignment. -/
def expression : (fuel : Nat) → (counts : Bool) → Evaluation Int
  | 0, _ => throw .noPrimary
  | fuel + 1, counts => do
    match (← get).tokens with
    | .name name :: next :: _ =>
      match assignment? next with
      | some op =>
        skip
        skip
        let value ← expression fuel counts
        if !counts then return value
        else
          let result ← if op = "" then pure value
            else operate op (← valueOf lookup name) value
          modify fun s => { s with assigned := (name, result) :: s.assigned }
          return result
      | none => choice fuel counts
    | _ => choice fuel counts

end

/-- **The value of an expression**, and the variables that it sets, the last one first. -/
def value (text : List Char) : Except ArithmeticFlaw (Int × List (String × Int)) := do
  let tokens := tokens text.length text
  let (value, state) ← (expression lookup (16 * tokens.length + 16) true).run { tokens }
  if state.tokens.isEmpty then return (value, state.assigned) else throw .noEnd

end Arithmetic

end FigureScript

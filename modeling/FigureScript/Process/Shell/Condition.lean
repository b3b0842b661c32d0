import FigureScript.Process.Shell.Arithmetic

/-!
# Conditions

The conditions that `test` decides: texts, numbers and files compared, and combined.

## Main Definitions

* `Condition.holds` — the truth of a condition
* `PathKind` — what a path names

## Design Notes

A word is an operator only if its neighbours allow that: an operator on one word needs a
word behind it which is not an operator on two words with another word behind that.
-/

namespace FigureScript

/-- **What a path names.** -/
inductive PathKind where
  | directory
  | file (size : Nat) (executable : Bool)
  | device
  deriving DecidableEq

namespace Condition

/-- The role of a word. -/
inductive Role where
  | missing
  | operand
  /-- An operator on one word. -/
  | single
  /-- An operator on two words. -/
  | double
  | negation
  | both
  | either
  | opening
  | closing
  deriving DecidableEq

/-- The operators on one word. -/
def singles : List String :=
  ["-r", "-w", "-x", "-e", "-f", "-d", "-c", "-b", "-p", "-u", "-g", "-k", "-s", "-t", "-z", "-n",
    "-h", "-O", "-G", "-L", "-S"]

/-- The operators on two words. -/
def doubles : List String :=
  ["=", "!=", "<", ">", "-eq", "-ne", "-ge", "-gt", "-le", "-lt", "-nt", "-ot", "-ef"]

/-- The role that a word has by itself. -/
def ownRole (word : List Char) : Role :=
  let word := String.ofList word
  if singles.contains word then .single
  else if doubles.contains word then .double
  else match word with
    | "!" => .negation
    | "-a" => .both
    | "-o" => .either
    | "(" => .opening
    | ")" => .closing
    | _ => .operand

/-- The role of the first of some words. -/
def role : List (List Char) → Role
  | [] => .missing
  | word :: rest =>
    match ownRole word, rest with
    | .single, [] => .operand
    | .single, next :: _ :: _ => if ownRole next = .double then .operand else .single
    | .opening, [] => .operand
    | own, _ => own

/-- The number that a word is. -/
def number (word : List Char) : Except String Int :=
  let text := (word.dropWhile Arithmetic.isSpace).reverse.dropWhile Arithmetic.isSpace |>.reverse
  let (negative, digits) := match text with
    | '-' :: rest => (true, rest)
    | '+' :: rest => (false, rest)
    | rest => (false, rest)
  let value := digits.foldl (fun n d => 10 * n + (d.toNat - '0'.toNat)) 0
  if digits.isEmpty || !digits.all Char.isDigit || Arithmetic.largest.toNat < value then
    .error ("Illegal number: " ++ String.ofList word)
  else .ok (if negative then -(value : Int) else value)

/-- Two words compared. -/
def compare (op : String) (a b : List Char) : Except String Bool :=
  let numbers (holds : Int → Int → Bool) := do
    let first ← number a
    let second ← number b
    Except.ok (holds first second)
  match op with
  | "=" => .ok (a = b)
  | "!=" => .ok (a ≠ b)
  | "<" => .ok (String.ofList a < String.ofList b)
  | ">" => .ok (String.ofList b < String.ofList a)
  | "-eq" => numbers (· = ·)
  | "-ne" => numbers (· ≠ ·)
  | "-ge" => numbers (· ≥ ·)
  | "-gt" => numbers (· > ·)
  | "-le" => numbers (· ≤ ·)
  | "-lt" => numbers (· < ·)
  | _ => .ok false

variable (look : List Char → Option PathKind)

/-- A question about one word. -/
def ask (op : String) (word : List Char) : Except String Bool :=
  match op with
  | "-z" => .ok word.isEmpty
  | "-n" => .ok (!word.isEmpty)
  | "-t" => do
    let _ ← number word
    return false
  | "-e" | "-r" | "-w" | "-O" | "-G" => .ok (look word).isSome
  | "-d" => .ok (look word = some .directory)
  | "-c" => .ok (look word = some .device)
  | "-f" => .ok <| match look word with
    | some (.file _ _) => true
    | _ => false
  | "-s" => .ok <| match look word with
    | some (.file size _) => size ≠ 0
    | some .directory => true
    | _ => false
  | "-x" => .ok <| match look word with
    | some (.file _ executable) => executable
    | some .directory => true
    | _ => false
  | _ => .ok false

mutual

/-- Alternatives; the answer comes with the last word that was read and those behind it. -/
def alternatives : (fuel : Nat) → List (List Char) → Except String (Bool × List (List Char))
  | 0, words => .ok (false, words)
  | fuel + 1, words => do
    let (first, words) ← conjunction fuel words
    if role words.tail = .either then
      let (second, words) ← alternatives fuel (words.drop 2)
      return (first || second, words)
    else return (first, words)

/-- Conditions that must all hold. -/
def conjunction : (fuel : Nat) → List (List Char) → Except String (Bool × List (List Char))
  | 0, words => .ok (false, words)
  | fuel + 1, words => do
    let (first, words) ← negated fuel words
    if role words.tail = .both then
      let (second, words) ← conjunction fuel (words.drop 2)
      return (first && second, words)
    else return (first, words)

/-- A condition with or without a negation. -/
def negated : (fuel : Nat) → List (List Char) → Except String (Bool × List (List Char))
  | 0, words => .ok (false, words)
  | fuel + 1, words => do
    if role words = .negation then
      match words.tail with
      | [] => return (true, words)
      | rest =>
        let (holds, words) ← negated fuel rest
        return (!holds, words)
    else primary fuel words

/-- A single condition, or one in parentheses. -/
def primary : (fuel : Nat) → List (List Char) → Except String (Bool × List (List Char))
  | 0, words => .ok (false, words)
  | fuel + 1, words => do
    match role words, words with
    | .missing, _ | _, [] => return (false, words)
    | .opening, _ :: rest =>
      if role rest = .closing then return (false, rest)
      else
        let (holds, words) ← alternatives fuel rest
        if role words.tail = .closing then return (holds, words.tail)
        else throw "closing paren expected"
    | .single, op :: rest =>
      match rest with
      | [] => throw (String.ofList op ++ ": argument expected")
      | word :: _ => return (← ask look (String.ofList op) word, rest)
    | _, word :: rest =>
      if role rest = .double then
        match rest with
        | op :: other :: behind =>
          return (← compare (String.ofList op) word other, other :: behind)
        | _ => throw (String.ofList (rest.headD []) ++ ": argument expected")
      else return (!word.isEmpty, words)

end

/-- The truth of a condition of some words. -/
def decideWords (words : List (List Char)) : Except String Bool := do
  let fuel := 8 * words.length + 8
  let (holds, left) ← match words with
    | [a, op, b] =>
      if ownRole op = .double then do
        let holds ← compare (String.ofList op) a b
        pure (holds, [b])
      else alternatives look fuel words
    | _ => alternatives look fuel words
  match left with
  | word :: _ :: _ => throw (String.ofList word ++ ": unexpected operator")
  | _ => return holds

/-- **The truth of a condition.**  One of few words may be in parentheses or negated as a
whole. -/
def holds : (fuel : Nat) → List (List Char) → Except String Bool
  | 0, _ => .ok false
  | fuel + 1, words =>
    let isComparison := match words with
      | [_, op, _] => ownRole op = .double
      | _ => false
    if words.isEmpty then .ok false
    else if !isComparison && (words.length = 3 || words.length = 4) then
      if words.head? = some ['('] && words.getLast? = some [')'] then
        decideWords look (words.drop 1).dropLast
      else if words.head? = some ['!'] then (!·) <$> holds fuel words.tail
      else decideWords look words
    else decideWords look words

end Condition

end FigureScript

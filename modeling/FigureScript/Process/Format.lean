import FigureScript.Number.Nearest
import FigureScript.Number.Precision
import FigureScript.Process.Shell.Arithmetic

/-!
# Formatted output

The texts that `echo` and `printf` write.

## Main Definitions

* `Format.echoed` — a text with its escapes replaced
* `Format.output` — a format filled with arguments

## Design Notes

A format is used again as long as arguments are left over.  An argument that is no number
counts as far as it is one, and is reported.
-/

namespace FigureScript.Format

/-- An octal digit. -/
def isOctal (c : Char) : Bool :=
  '0' ≤ c && c ≤ '7'

/-- The character with a code, of which only the lowest byte counts. -/
def byte (code : Nat) : Char :=
  Char.ofNat (code % 256)

/-- What an escape stands for, behind its backslash, and the text behind it. -/
def escape (text : List Char) : Char × List Char :=
  match text with
  | 'n' :: rest => ('\n', rest)
  | 't' :: rest => ('\t', rest)
  | 'r' :: rest => ('\r', rest)
  | 'a' :: rest => (byte 7, rest)
  | 'b' :: rest => (byte 8, rest)
  | 'f' :: rest => (byte 12, rest)
  | 'v' :: rest => (byte 11, rest)
  | 'e' :: rest => (byte 27, rest)
  | '\\' :: rest => ('\\', rest)
  | text =>
    let digits := (text.takeWhile isOctal).take 3
    if digits.isEmpty then ('\\', text)
    else (byte (digits.foldl (fun n d => 8 * n + (d.toNat - '0'.toNat)) 0), text.drop digits.length)

/-- **A text with its escapes replaced.**  In front of octal digits there may be a zero more.
`\c` ends the output, which the answer tells. -/
def echoed : (fuel : Nat) → List Char → List Char × Bool
  | 0, _ => ([], false)
  | _, [] => ([], false)
  | fuel + 1, '\\' :: rest =>
    match rest with
    | 'c' :: _ => ([], true)
    | '0' :: d :: _ =>
      let (c, behind) := escape (if isOctal d then rest.tail else rest)
      let (text, stopped) := echoed fuel behind
      (c :: text, stopped)
    | rest =>
      let (c, behind) := escape rest
      let (text, stopped) := echoed fuel behind
      (c :: text, stopped)
  | fuel + 1, c :: rest =>
    let (text, stopped) := echoed fuel rest
    (c :: text, stopped)

/-- The flags, the width and the precision of a directive. -/
structure Layout where
  flags : List Char
  width : Int
  precision : Option Nat

namespace Layout

/-- The directive has a flag. -/
def has (l : Layout) (flag : Char) : Bool :=
  l.flags.contains flag

/-- A text that is filled up with blanks. -/
def padded (l : Layout) (text : List Char) : List Char :=
  let blanks := List.replicate (l.width.natAbs - text.length) ' '
  if l.has '-' || l.width < 0 then text ++ blanks else blanks ++ text

/-- The text of a number with a sign in front of it.  Zeros fill it up if that is asked for
and no precision is given. -/
def numeral (l : Layout) (sign digits : List Char) : List Char :=
  let digits := match l.precision with
    | some 0 => if digits = ['0'] then [] else digits
    | some places => List.replicate (places - digits.length) '0' ++ digits
    | none => digits
  let zeros :=
    if l.has '0' && !l.has '-' && 0 ≤ l.width && l.precision.isNone then
      List.replicate (l.width.natAbs - sign.length - digits.length) '0'
    else []
  l.padded (sign ++ zeros ++ digits)

end Layout

/-- A number that was read. -/
structure ReadFraction where
  value : Float
  /-- It is not too large to be told from an infinite one. -/
  isInRange : Bool := true

/-- The longest decimal at the front of a text, without a sign. -/
def decimalFront (text : List Char) : List Char :=
  let whole := text.takeWhile Char.isDigit
  let fraction := match text.drop whole.length with
    | '.' :: rest => '.' :: rest.takeWhile Char.isDigit
    | _ => []
  let significand := whole ++ fraction
  let exponent := match text.drop significand.length with
    | mark :: rest =>
      let sign := (rest.take 1).filter fun c => c = '-' || c = '+'
      let digits := (rest.drop sign.length).takeWhile Char.isDigit
      if (mark = 'e' || mark = 'E') && !digits.isEmpty then mark :: (sign ++ digits) else []
    | [] => []
  if significand.any Char.isDigit then significand ++ exponent else []

/-- The number at the front of a text, if there is one, and the text behind it. -/
def readFraction (text : List Char) : Option ReadFraction × List Char :=
  let (negative, body) := match text with
    | '-' :: rest => (true, rest)
    | '+' :: rest => (false, rest)
    | rest => (false, rest)
  let signed (value : Float) := if negative then -value else value
  let lower := body.map Char.toLower
  let special (name : String) : Bool := name.toList.isPrefixOf lower
  if special "infinity" then (some { value := signed (1.0 / 0.0) }, body.drop 8)
  else if special "inf" then (some { value := signed (1.0 / 0.0) }, body.drop 3)
  else if special "nan" then (some { value := signed (0.0 / 0.0) }, body.drop 3)
  else if special "0x" && (lower.drop 2).head?.any (Arithmetic.isDigitOf 16) then
    let (value, behind) := Arithmetic.readNumber body
    (some { value := signed (Float.ofInt value) }, behind)
  else
    let front := decimalFront body
    ((Number.Decimal.read? front).map fun value =>
      { value := signed value, isInRange := Number.isFinite value }, body.drop front.length)

/-- What has been written so far. -/
structure Progress where
  arguments : List (List Char)
  output : List Char := []
  /-- The reports on arguments that are no numbers. -/
  problems : List (List Char) := []
  /-- The output ends for good. -/
  stopped : Bool := false
  /-- The directive that makes no sense. -/
  refused : Option (List Char) := none

namespace Progress

/-- Adds to the output. -/
def write (p : Progress) (text : List Char) : Progress :=
  { p with output := p.output ++ text }

/-- Reports an argument. -/
def report (p : Progress) (argument : List Char) (problem : String) : Progress :=
  { p with problems := p.problems ++ [argument ++ problem.toList] }

/-- The next argument as a number. -/
def number (p : Progress) : Int × Progress :=
  match p.arguments with
  | [] => (0, p)
  | argument :: rest =>
    let p := { p with arguments := rest }
    match argument with
    | '\'' :: c :: _ | '"' :: c :: _ => (c.toNat, p)
    | _ =>
      let text := argument.dropWhile Arithmetic.isSpace
      let (negative, body) := match text with
        | '-' :: rest => (true, rest)
        | '+' :: rest => (false, rest)
        | rest => (false, rest)
      let (value, behind) := Arithmetic.readNumber body
      let value := if negative then -value else value
      if argument.isEmpty then (0, p)
      else if !body.head?.any Char.isDigit then (0, p.report argument ": expected numeric value")
      else if !behind.isEmpty then (value, p.report argument ": not completely converted")
      else if value.natAbs = Arithmetic.largest.natAbs then
        (value, p.report argument ": Numerical result out of range")
      else (value, p)

/-- The next argument as a number that need not be whole. -/
def fraction (p : Progress) : Float × Progress :=
  match p.arguments with
  | [] => (0, p)
  | argument :: rest =>
    let p := { p with arguments := rest }
    match argument with
    | [] => (0, p)
    | '\'' :: c :: _ | '"' :: c :: _ => (c.toNat.toFloat, p)
    | _ =>
      let (value, behind) := readFraction (argument.dropWhile Arithmetic.isSpace)
      match value with
      | none => (0, p.report argument ": expected numeric value")
      | some ⟨value, isInRange⟩ =>
        if !behind.isEmpty then (value, p.report argument ": not completely converted")
        else if !isInRange then (value, p.report argument ": Numerical result out of range")
        else (value, p)

/-- The next argument as a text. -/
def text (p : Progress) : List Char × Progress :=
  (p.arguments.headD [], { p with arguments := p.arguments.tail })

end Progress

/-- The digits of a number in a base. -/
def digits (base n : Nat) (capital : Bool) : List Char :=
  let digits := Nat.toDigits base n
  if capital then digits.map Char.toUpper else digits

/-- The text of a number that need not be whole, without its sign, in one of the formats. -/
def fractionText (l : Layout) (kind : Char) (value : Float) : List Char :=
  let b := Number.Binary.ofFloat value
  let places := l.precision.getD 6
  if value.isNaN then (if kind.isUpper then "NAN" else "nan").toList
  else if !Number.isFinite value then (if kind.isUpper then "INF" else "inf").toList
  else match kind with
    | 'e' | 'E' => Number.Precision.scientific kind places b
    | 'g' => Number.Precision.general 'e' (l.has '#') places b
    | 'G' => Number.Precision.general 'E' (l.has '#') places b
    | _ => Number.Precision.fixed places b

/-- Writes the next argument as a directive asks for it; there is no such directive
otherwise. -/
def directive? (p : Progress) (l : Layout) (kind : Char) : Option Progress :=
  let unsigned (base : Nat) (mark : List Char) (capital : Bool) :=
    let (value, p) := p.number
    let n := (value % Int.pow 2 64).toNat
    p.write (l.numeral (if l.has '#' && n ≠ 0 then mark else []) (digits base n capital))
  match kind with
  | 's' =>
    let (text, p) := p.text
    some (p.write (l.padded (match l.precision with
      | some places => text.take places
      | none => text)))
  | 'b' =>
    let (text, p) := p.text
    let (shown, stopped) := echoed text.length text
    some { p.write (l.padded (match l.precision with
      | some places => shown.take places
      | none => shown)) with stopped }
  | 'c' =>
    let (text, p) := p.text
    some (p.write (l.padded [text.headD (Char.ofNat 0)]))
  | 'd' | 'i' =>
    let (value, p) := p.number
    let sign := if value < 0 then ['-'] else if l.has '+' then ['+'] else if l.has ' ' then [' ']
      else []
    some (p.write (l.numeral sign (digits 10 value.natAbs false)))
  | 'f' | 'F' | 'e' | 'E' | 'g' | 'G' =>
    let (value, p) := p.fraction
    let sign :=
      if (Number.Binary.ofFloat value).negative then ['-']
      else if l.has '+' then ['+'] else if l.has ' ' then [' '] else []
    let flags := if Number.isFinite value then l.flags else l.flags.filter (· ≠ '0')
    some (p.write (Layout.numeral { l with flags, precision := none } sign
      (fractionText l kind value)))
  | 'u' => some (unsigned 10 [] false)
  | 'o' => some (unsigned 8 ['0'] false)
  | 'x' => some (unsigned 16 ['0', 'x'] false)
  | 'X' => some (unsigned 16 ['0', 'X'] true)
  | _ => none

/-- The number that digits stand for. -/
def decimal (digits : List Char) : Nat :=
  digits.foldl (fun n d => 10 * n + (d.toNat - '0'.toNat)) 0

/-- A number that is given in a format, or by the next argument. -/
def given (p : Progress) (text : List Char) : Int × Progress × List Char :=
  match text with
  | '*' :: rest =>
    let (value, p) := p.number
    (value, p, rest)
  | text =>
    let digits := text.takeWhile Char.isDigit
    (decimal digits, p, text.drop digits.length)

/-- One pass over a format. -/
def pass : (fuel : Nat) → Progress → List Char → Progress
  | 0, p, _ => p
  | _, p, [] => p
  | fuel + 1, p, '\\' :: rest =>
    let (c, behind) := escape rest
    pass fuel (p.write [c]) behind
  | fuel + 1, p, '%' :: '%' :: rest => pass fuel (p.write ['%']) rest
  | fuel + 1, p, '%' :: rest =>
    let flags := rest.takeWhile "#-+ 0".toList.contains
    let (width, p, behind) := given p (rest.drop flags.length)
    let (precision, p, behind) := match behind with
      | '.' :: behind =>
        let (places, p, behind) := given p behind
        (if places < 0 then none else some places.toNat, p, behind)
      | behind => (none, p, behind)
    match behind with
    | [] => { p with refused := some [] }
    | kind :: behind =>
      match directive? p ⟨flags, width, precision⟩ kind with
      | none =>
        { p with refused := some ('%' :: rest.take (rest.length - behind.length)) }
      | some p => if p.stopped then p else pass fuel p behind
  | fuel + 1, p, c :: rest => pass fuel (p.write [c]) rest

/-- **A format filled with arguments**, again and again until none are left. -/
def output (format : List Char) : (fuel : Nat) → Progress → Progress
  | 0, p => p
  | fuel + 1, p =>
    let filled := pass (format.length + 1) p format
    if filled.stopped || filled.refused.isSome || filled.arguments.isEmpty ||
        filled.arguments.length = p.arguments.length then filled
    else output format fuel filled

end FigureScript.Format

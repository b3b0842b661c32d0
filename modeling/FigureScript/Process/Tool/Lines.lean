import FigureScript.Process.Format
import FigureScript.Process.Tool.Files
import FigureScript.Text.Lines

/-!
# Tools for texts

Showing, counting, sorting and changing texts line by line.

## Main Definitions

* `Tool.concatenate`, `Tool.firstPart`, `Tool.lastPart`, `Tool.count` — showing and counting
* `Tool.sort`, `Tool.distinct`, `Tool.translate`, `Tool.cut` — changing
* `Tool.echo`, `Tool.print`, `Tool.sequence` — writing
* `Tool.baseName`, `Tool.directoryName`, `Tool.realPath` — parts of paths
-/

namespace FigureScript.Tool

/-- The lines of a text, without their ends. -/
def linesOf (text : List Char) : List (List Char) :=
  let lines := Text.splitLines text
  if lines.getLast? = some [] then lines.dropLast else lines

/-- The lines of a text, with their ends. -/
def wholeLines (text : List Char) : List (List Char) :=
  let lines := Text.splitLines text
  let last := lines.getLast?.getD []
  lines.dropLast.map (· ++ ['\n']) ++ if last.isEmpty then [] else [last]

/-- The number that digits stand for, if they are some. -/
def number? (text : List Char) : Option Nat :=
  if !text.isEmpty && text.all Char.isDigit then some (Format.decimal text) else none

/-- Does something with the content of each file, or complains. -/
def forFiles (operands : List (List Char)) (cannot : List Char → OsError → String)
    (run : (path content : List Char) → Tool Unit) : Tool Unit :=
  (if operands.isEmpty then [['-']] else operands).forM fun path => do
    match ← readFile path with
    | .ok content => run path content
    | .error e => complain 1 (cannot path e)

/-- A complaint that names a file and a reason. -/
def named (path : List Char) (e : OsError) : String :=
  shown path ++ ": " ++ e.reason

/-- A number that is filled up with blanks. -/
def padded (width n : Nat) : List Char :=
  let digits := (toString n).toList
  List.replicate (width - digits.length) ' ' ++ digits

/-! ### Showing and counting -/

/-- **Shows files**, one after the other. -/
def concatenate (arguments : List (List Char)) : Tool Unit :=
  options
    { flags := "AbeEnstTuv".toList, long := [("number", 'n'), ("show-ends", 'E')] }
    1 arguments fun o =>
      forFiles o.operands named fun _ content =>
        if o.has 'n' || o.has 'b' then
          (wholeLines content).zipIdx.forM fun (line, index) =>
            say (padded 6 (index + 1) ++ '\t' :: line)
        else say content

/-- The lines or bytes of a file from its start. -/
def firstPart (o : Options) (content : List Char) : List Char :=
  match o.value? 'c', o.value? 'n' with
  | some count, _ => content.take ((number? count).getD 0)
  | none, some ('-' :: count) =>
    ((wholeLines content).reverse.drop ((number? count).getD 0)).reverse.flatten
  | none, count => ((wholeLines content).take ((count.bind number?).getD 10)).flatten

/-- The lines or bytes of a file up to its end. -/
def lastPart (o : Options) (content : List Char) : List Char :=
  let count (text : List Char) := (number? (text.dropWhile (· = '-'))).getD 0
  match o.value? 'c', o.value? 'n' with
  | some ('+' :: start), _ => content.drop ((number? start).getD 0 - 1)
  | some text, _ => content.drop (content.length - count text)
  | none, some ('+' :: start) => ((wholeLines content).drop ((number? start).getD 0 - 1)).flatten
  | none, text =>
    let lines := wholeLines content
    (lines.drop (lines.length - (text.map count).getD 10)).flatten

/-- Shows a part of each file, with its name above it if there are several. -/
def showParts (part : Options → List Char → List Char) (arguments : List (List Char)) :
    Tool Unit :=
  let arguments := match arguments with
    | ('-' :: c :: digits) :: rest =>
      if c.isDigit && digits.all Char.isDigit then "-n".toList :: (c :: digits) :: rest
      else arguments
    | arguments => arguments
  let known : KnownOptions :=
    { flags := "qvz".toList
      valued := "cn".toList
      long := [("lines", 'n'), ("bytes", 'c'), ("quiet", 'q'), ("verbose", 'v')] }
  options known 1 arguments fun o => do
    let count := (o.value? 'n').getD ((o.value? 'c').getD ['0'])
    let digits := count.dropWhile fun c => c = '-' || c = '+'
    if (number? digits).isNone then
      let unit := if (o.value? 'n').isSome then "lines" else "bytes"
      complain 1 ("invalid number of " ++ unit ++ ": " ++ quoted count)
    else
      let cannot (path : List Char) (e : OsError) :=
        if e = .isDirectory then "error reading " ++ quoted path ++ ": " ++ e.reason
        else "cannot open " ++ quoted path ++ " for reading: " ++ e.reason
      let headed := (1 < o.operands.length && !o.has 'q') || o.has 'v'
      forFiles o.operands cannot fun path content => do
        if headed then
          let isFirst := (← get).written.all (·.1 ≠ 1)
          let name := if path = ['-'] then "standard input".toList else path
          say ((if isFirst then [] else ['\n']) ++ "==> ".toList ++ name ++ " <==\n".toList)
        say (part o content)

/-- The number of words in a text. -/
def wordCount (text : List Char) : Nat :=
  (text.foldl (fun (count, inside) c =>
    if Arithmetic.isSpace c then (count, false)
    else (if inside then count else count + 1, true)) (0, false)).1

/-- What is counted in a text. -/
def counts (o : Options) (text : List Char) : List Nat :=
  let all := !(o.has 'l' || o.has 'w' || o.has 'c' || o.has 'm')
  (if all || o.has 'l' then [text.count '\n'] else []) ++
    (if all || o.has 'w' then [wordCount text] else []) ++
    (if o.has 'm' then [text.length] else []) ++
    (if all || o.has 'c' then [text.length] else [])

/-- **Counts lines, words and bytes.** -/
def count (arguments : List (List Char)) : Tool Unit :=
  options
    { flags := "clLmw".toList
      long := [("lines", 'l'), ("words", 'w'), ("bytes", 'c'), ("chars", 'm')] }
    1 arguments fun o => do
      let read ← (if o.operands.isEmpty then [['-']] else o.operands).filterMapM fun path => do
        match ← readFile path with
        | .ok content => return some (path, counts o content, content.length)
        | .error e =>
          complain 1 (named path e)
          return none
      let total := (read.map fun (_, _, size) => size).foldl (· + ·) 0
      let columns := (read.head?.map fun (_, counts, _) => counts.length).getD 1
      let isFile := (← get).isFileInput
      let width :=
        if columns = 1 && o.operands.length ≤ 1 then 1
        else if !isFile && (o.operands.isEmpty || o.operands.contains ['-']) then 7
        else (toString total).length
      let row (counts : List Nat) (name : List Char) :=
        sayLine (List.intercalate [' '] (counts.map (padded width)) ++ name)
      read.forM fun (path, counts, _) =>
        row counts (if o.operands.isEmpty then [] else ' ' :: path)
      if 1 < o.operands.length then
        let sums := (List.range columns).map fun column =>
          (read.map fun (_, counts, _) => (counts[column]?).getD 0).foldl (· + ·) 0
        row sums " total".toList

/-! ### Changing -/

/-- The number at the front of a line. -/
def leadingNumber (line : List Char) : Int :=
  let text := line.dropWhile Arithmetic.isSpace
  match text with
  | '-' :: digits => -(Format.decimal (digits.takeWhile Char.isDigit) : Int)
  | digits => Format.decimal (digits.takeWhile Char.isDigit)

/-- The lines of all files together.  A file that cannot be read is complained about. -/
def allLines (status : Nat) (complaint : String) (operands : List (List Char)) :
    Tool (List (List Char)) := do
  let read ← (if operands.isEmpty then [['-']] else operands).mapM fun path => do
    match ← readFile path with
    | .ok content => return linesOf content
    | .error e =>
      complain status (complaint ++ named path e)
      return []
  return read.flatten

/-- One line is not behind another one. -/
def inOrder (o : Options) (a b : List Char) : Bool :=
  let before :=
    if o.has 'n' && leadingNumber a ≠ leadingNumber b then leadingNumber a < leadingNumber b
    else if o.has 'f' && a.map Char.toUpper ≠ b.map Char.toUpper then
      String.ofList (a.map Char.toUpper) < String.ofList (b.map Char.toUpper)
    else String.ofList a < String.ofList b
  a = b || before != o.has 'r'

/-- Lines without those that are equal to the one in front of them. -/
def withoutRepeats : List (List Char) → List (List Char)
  | a :: b :: rest => if a = b then withoutRepeats (b :: rest) else a :: withoutRepeats (b :: rest)
  | lines => lines

/-- **Sorts lines.** -/
def sort (arguments : List (List Char)) : Tool Unit :=
  options
    { flags := "bcCdfghiMmnRrsuVz".toList
      valued := "koSTt".toList
      long := [("reverse", 'r'), ("numeric-sort", 'n'), ("unique", 'u')] }
    2 arguments fun o => do
      let store := (← get).store
      let unreadable := (o.operands.filter (· ≠ ['-'])).filterMap fun path =>
        match contentAt store path with
        | .ok _ => none
        | .error e => some (path, e)
      if let (path, e) :: _ := unreadable then complain 2 ("cannot read: " ++ named path e)
      else
        let lines := (← allLines 2 "cannot read: " o.operands).mergeSort (inOrder o)
        let shown := if o.has 'u' then withoutRepeats lines else lines
        match o.value? 'o' with
        | some path =>
          match ← writeFile path (shown.flatMap (· ++ ['\n'])) with
          | .ok () => return
          | .error e => complain 2 ("open failed: " ++ named path e)
        | none => shown.forM sayLine

/-- Runs of equal lines, with their lengths. -/
def runs : List (List Char) → List (List Char × Nat)
  | [] => []
  | line :: rest =>
    match runs rest with
    | (other, n) :: others =>
      if line = other then (line, n + 1) :: others else (line, 1) :: (other, n) :: others
    | [] => [(line, 1)]

/-- **Shows one of several equal lines in a row.** -/
def distinct (arguments : List (List Char)) : Tool Unit :=
  options { flags := "cdDiuz".toList, valued := "fsw".toList } 1 arguments fun o => do
    if let extra :: _ := o.operands.drop 2 then misused 1 ("extra operand " ++ quoted extra)
    else (runs (← allLines 1 "" (o.operands.take 1))).forM fun (line, n) =>
      if (o.has 'd' && n = 1) || (o.has 'u' && 1 < n) then return
      else sayLine (if o.has 'c' then padded 7 n ++ ' ' :: line else line)

/-- The characters of a set that is translated.  `[c*n]` stands for `n` times a character, or for
as many as are needed without a number. -/
def setChars (needed : Nat) : (fuel : Nat) → List Char → Except String (List Char)
  | 0, _ => .ok []
  | _, [] => .ok []
  | fuel + 1, text => do
    let more (front rest : List Char) := return front ++ (← setChars needed fuel rest)
    match text with
    | [] => return []
    | '[' :: ':' :: rest =>
      let name := rest.takeWhile Char.isAlpha
      match rest.drop name.length with
      | ':' :: ']' :: behind =>
        let name := String.ofList name
        let chars := ((List.range 256).map Char.ofNat).filter (WildcardItem.isNamed name)
        if chars.isEmpty then throw ("invalid character class " ++ quoted name.toList)
        else more chars behind
      | _ => more ['['] (':' :: rest)
    | '[' :: c :: '*' :: rest =>
      let digits := rest.takeWhile Char.isDigit
      match rest.drop digits.length with
      | ']' :: behind =>
        more (List.replicate (if digits.isEmpty then needed else Format.decimal digits) c) behind
      | _ => more ['['] (c :: '*' :: rest)
    | '\\' :: c :: rest =>
      let (escaped, behind) := Format.escape (c :: rest)
      if behind.length = rest.length + 1 then more [c] rest else more [escaped] behind
    | first :: '-' :: last :: rest =>
      if first ≤ last then
        more ((List.range' first.toNat (last.toNat + 1 - first.toNat)).map Char.ofNat) rest
      else
        throw ("range-endpoints of '" ++ String.ofList [first, '-', last] ++
          "' are in reverse collating sequence order")
    | c :: rest => more [c] rest

/-- Characters without those of a set that are equal to the one in front of them. -/
def squeezed (set : List Char) : List Char → List Char
  | a :: b :: rest =>
    if a = b && set.contains a then squeezed set (b :: rest) else a :: squeezed set (b :: rest)
  | text => text

/-- The characters of all bytes. -/
def allChars : List Char :=
  (List.range 256).map Char.ofNat

/-- Changes the input by two sets, of which the second one may be missing. -/
def translateBy (o : Options) (first : List Char) (second : Option (List Char)) : Tool Unit := do
  let inverted := o.has 'c' || o.has 'C'
  let among (c : Char) := first.contains c != inverted
  let text ← readInput
  let removed := if o.has 'd' then text.filter (!among ·) else text
  match second with
  | none => say (if o.has 's' then squeezed (allChars.filter among) removed else removed)
  | some second =>
    let sources := if inverted then allChars.filter among else first
    let sources := if o.has 't' then sources.take second.length else sources
    let mapped (c : Char) : Char :=
      if o.has 'd' then c
      else match (sources.zipIdx.filter (·.1 = c)).getLast? with
        | some (_, index) => (second[index]? <|> second.getLast?).getD c
        | none => c
    let changed := removed.map mapped
    say (if o.has 's' then squeezed second changed else changed)

/-- What is wrong with the number of sets that are given for translating, if anything is. -/
def setsProblem? (o : Options) : Option String :=
  let deletes := o.has 'd'
  let squeezes := o.has 's'
  let most := if deletes && !squeezes then 1 else 2
  let least := if deletes != squeezes then 1 else 2
  match o.operands with
  | [] => some "missing operand"
  | operands =>
    if operands.length < least then
      some ("missing operand after " ++ quoted (operands.headD []) ++ "\n" ++
        (if deletes then "Two strings must be given when both deleting and squeezing repeats."
          else "Two strings must be given when translating."))
    else match operands.drop most with
      | extra :: others =>
        some ("extra operand " ++ quoted extra ++ if most = 1 && others.isEmpty then
          "\nOnly one string may be given when deleting without squeezing repeats." else "")
      | [] => none

/-- **Translates or removes characters of its input.** -/
def translate (arguments : List (List Char)) : Tool Unit :=
  options
    { flags := "cCdst".toList
      long := [("delete", 'd'), ("squeeze-repeats", 's'), ("complement", 'c'),
        ("truncate-set1", 't')] }
    1 arguments fun o =>
      match setsProblem? o with
      | some problem => misused 1 problem
      | none =>
        let sets : Except String (List Char × Option (List Char)) := do
          let first ← setChars 0 (o.operands.headD []).length (o.operands.headD [])
          let needed := if o.has 'c' || o.has 'C' then 256 else first.length
          match o.operands.tail.head? with
          | none => return (first, none)
          | some text =>
            let second ← setChars needed text.length text
            if second.isEmpty && !o.has 't' && !first.isEmpty then
              throw "when not truncating set1, string2 must be non-empty"
            else return (first, some second)
        match sets with
        | .error problem => complain 1 problem
        | .ok (first, second) => translateBy o first second

/-- A range of numbers; it may have no end. -/
abbrev NumberRange := Nat × Option Nat

/-- The range that a text such as `3-5` is. -/
def range? (isField : Bool) (text : List Char) : Except String NumberRange := do
  let unit := if isField then "field" else "byte/character position"
  let number (digits : List Char) : Except String Nat :=
    if !digits.all Char.isDigit then
      .error ((if isField then "invalid field value " else "invalid byte/character position ") ++
        quoted digits)
    else if Format.decimal digits = 0 then
      .error ((if isField then "fields" else unit ++ "s") ++ " are numbered from 1")
    else .ok (Format.decimal digits)
  let first := text.takeWhile (· ≠ '-')
  match text.drop first.length with
  | [] =>
    let only ← number first
    return (only, some only)
  | _ :: [] =>
    if first.isEmpty then throw "invalid range with no endpoint: -"
    else return (← number first, none)
  | _ :: last =>
    let first ← if first.isEmpty then pure 1 else number first
    let last ← number last
    if last < first then throw "invalid decreasing range" else return (first, some last)

/-- The ranges of a list such as `1,3-5`. -/
def ranges (isField : Bool) (text : List Char) : Except String (List NumberRange) :=
  ((String.ofList text).splitOn ",").mapM fun part => range? isField part.toList

/-- A number, counted from one, is in one of some ranges. -/
def inRanges (ranges : List NumberRange) (n : Nat) : Bool :=
  ranges.any fun (first, last) => first ≤ n && last.all (n ≤ ·)

/-- A text cut at a character. -/
def splitAtChar (c : Char) : List Char → List (List Char)
  | [] => [[]]
  | d :: rest =>
    if d = c then [] :: splitAtChar c rest
    else match splitAtChar c rest with
      | [] => [[d]]
      | part :: parts => (d :: part) :: parts

/-- The parts of a line at some places between delimiters. -/
def cutFields (o : Options) (ranges : List NumberRange) (line : List Char) : Tool Unit := do
  let delimiter := ((o.value? 'd').bind (·.head?)).getD '\t'
  if !line.contains delimiter then if o.has 's' then return else sayLine line
  else
    let kept := (splitAtChar delimiter line).zipIdx.filter fun (_, i) => inRanges ranges (i + 1)
    sayLine (List.intercalate ((o.value? 'O').getD [delimiter]) (kept.map (·.1)))

/-- **Cuts parts out of lines.** -/
def cut (arguments : List (List Char)) : Tool Unit :=
  options
    { flags := "nsz".toList
      valued := "bcdfO".toList
      long := [("fields", 'f'), ("delimiter", 'd'), ("characters", 'c'), ("bytes", 'b'),
        ("only-delimited", 's'), ("output-delimiter", 'O')] }
    1 arguments fun o => do
      if (o.value? 'd').any (1 < ·.length) then
        misused 1 "the delimiter must be a single character"
      else match o.given.filter fun (option, _) => "bcf".toList.contains option with
        | [] => misused 1 "you must specify a list of bytes, characters, or fields"
        | _ :: _ :: _ => misused 1 "only one list may be specified"
        | [(option, list)] =>
          match ranges (option = 'f') list with
          | .error problem => misused 1 problem
          | .ok ranges =>
            (← allLines 1 "" o.operands).forM fun line =>
              if option = 'f' then cutFields o ranges line
              else sayLine ((line.zipIdx.filter fun (_, i) => inRanges ranges (i + 1)).map (·.1))

/-- **Writes its input to its output and to files.** -/
def tee (arguments : List (List Char)) : Tool Unit :=
  options { flags := "aip".toList, long := [("append", 'a')] } 1 arguments fun o => do
    let text ← readInput
    say text
    o.operands.forM fun path => do
      let before := match (← get).store.read (pathOf path) with
        | .ok content => if o.has 'a' then content.octets else []
        | .error _ => []
      match ← writeFile path (before ++ text) with
      | .ok () => return
      | .error e => complain 1 (named path e)

/-! ### Writing -/

/-- **Writes its arguments.**  Escapes are only replaced if that is asked for. -/
def echo (arguments : List (List Char)) : Tool Unit := do
  let isOption (argument : List Char) : Bool :=
    match argument with
    | '-' :: c :: rest => (c :: rest).all "neE".toList.contains
    | _ => false
  let letters := (arguments.takeWhile isOption).flatten
  let text := List.intercalate [' '] (arguments.dropWhile isOption)
  let escapes := (letters.reverse.find? fun c => c = 'e' || c = 'E') = some 'e'
  let (shown, stopped) := if escapes then Format.echoed text.length text else (text, false)
  say (shown ++ if letters.contains 'n' || stopped then [] else ['\n'])

/-- **Writes its arguments as a format asks for it.** -/
def print (arguments : List (List Char)) : Tool Unit := do
  match if arguments.head? = some "--".toList then arguments.tail else arguments with
  | [] => misused 1 "missing operand"
  | format :: arguments =>
    let filled := Format.output format (arguments.length + 1) { arguments }
    say filled.output
    filled.problems.forM fun problem =>
      let reason := problem.reverse.takeWhile (· ≠ ':')
      let argument := problem.take (problem.length - reason.length - 1)
      complain 1 (quoted argument ++ ": expected a numeric value")
    match filled.refused with
    | some directive => complain 1 (String.ofList directive ++ ": invalid conversion specification")
    | none => return

/-- A whole number. -/
def integer? (text : List Char) : Option Int :=
  match text with
  | '-' :: digits => (number? digits).map fun n => -(n : Int)
  | '+' :: digits => (number? digits).map fun n => (n : Int)
  | digits => (number? digits).map fun n => (n : Int)

/-- A number with some places behind the point, as a whole number of units of the last one. -/
structure Fixed where
  units : Int
  places : Nat

namespace Fixed

/-- The number that a text is. -/
def ofText? (text : List Char) : Option Fixed :=
  let whole := text.takeWhile (· ≠ '.')
  let behind := text.drop (whole.length + 1)
  let digits := whole ++ behind
  (integer? digits).map fun units => ⟨units, behind.length⟩

/-- The units of a number with more places. -/
def scaled (n : Fixed) (places : Nat) : Int :=
  n.units * Int.pow 10 (places - n.places)

/-- The text of a number, filled up with zeros. -/
def text (width : Nat) (n : Fixed) : List Char :=
  let digits := (toString n.units.natAbs).toList
  let digits := List.replicate (n.places + 1 - digits.length) '0' ++ digits
  let shown :=
    if n.places = 0 then digits
    else digits.take (digits.length - n.places) ++ '.' :: digits.drop (digits.length - n.places)
  let sign := if n.units < 0 then ['-'] else []
  sign ++ List.replicate (width - sign.length - shown.length) '0' ++ shown

end Fixed

/-- The numbers from one to another. -/
def numbersBetween (first step last : Fixed) : List Fixed :=
  let places := max first.places step.places
  let most := max places last.places
  let start := first.scaled most
  let distance := if 0 < step.units then last.scaled most - start else start - last.scaled most
  let stride : Int := (step.scaled most).natAbs
  (List.range ((distance + stride) / stride).toNat).map fun (i : Nat) =>
    ⟨first.scaled places + step.scaled places * (i : Int), places⟩

/-- **Writes the numbers from one to another.** -/
def sequence (arguments : List (List Char)) : Tool Unit := do
  let isNegative (argument : List Char) : Bool :=
    match argument with
    | '-' :: c :: _ => c.isDigit || c = '.'
    | _ => false
  let front := arguments.takeWhile fun text => text.head? = some '-' && !isNegative text
  let behind := arguments.drop front.length
  let (front, behind) :=
    if front.getLast? = some "-s".toList then (front ++ behind.take 1, behind.drop 1)
    else (front, behind)
  options { flags := ['w'], valued := "fs".toList, long := [("separator", 's')] } 1 front
    fun o => do
      let run (first step last : List Char) : Tool Unit := do
        match [first, step, last].find? fun text => (Fixed.ofText? text).isNone with
        | some text => misused 1 ("invalid floating point argument: " ++ quoted text)
        | none =>
          let read (text : List Char) := (Fixed.ofText? text).getD ⟨0, 0⟩
          if (read step).units = 0 then misused 1 ("invalid Zero increment value: " ++ quoted step)
          else
            let numbers := numbersBetween (read first) (read step) (read last)
            let width :=
              if o.has 'w' then (numbers.map fun n => (n.text 0).length).foldl max 0 else 0
            let shown := numbers.map (Fixed.text width)
            if !shown.isEmpty then
              sayLine (List.intercalate ((o.value? 's').getD ['\n']) shown)
      match behind with
      | [] => misused 1 "missing operand"
      | [last] => run ['1'] ['1'] last
      | [first, last] => run first ['1'] last
      | [first, step, last] => run first step last
      | _ :: _ :: _ :: extra :: _ => misused 1 ("extra operand " ++ quoted extra)

/-! ### Parts of paths -/

/-- A name without a part at its end, unless that is all of it. -/
def withoutEnding (name ending : List Char) : List Char :=
  if ending.isSuffixOf name && ending.length < name.length then
    name.take (name.length - ending.length)
  else name

/-- **Writes the last names of paths.** -/
def baseName (arguments : List (List Char)) : Tool Unit :=
  options { flags := "az".toList, valued := ['s'] } 1 arguments fun o => do
    let name (path : List Char) : List Char :=
      let last := lastName path
      if last.isEmpty then path.take 1 else last
    let several := o.has 'a' || (o.value? 's').isSome
    match o.operands with
    | [] => misused 1 "missing operand"
    | operands =>
      if several then
        operands.forM fun path => sayLine (withoutEnding (name path) ((o.value? 's').getD []))
      else match operands with
        | [path] => sayLine (name path)
        | [path, ending] => sayLine (withoutEnding (name path) ending)
        | _ => misused 1 ("extra operand " ++ quoted (operands[2]?.getD []))

/-- A path without its last name. -/
def directoryOf (path : List Char) : List Char :=
  let text := withoutSlashes path
  let up := (text.reverse.dropWhile (· ≠ '/')).reverse
  if up.isEmpty then (if text = ['/'] then ['/'] else ['.']) else withoutSlashes up

/-- **Writes paths without their last names.** -/
def directoryName (arguments : List (List Char)) : Tool Unit :=
  options { flags := ['z'] } 1 arguments fun o => do
    if o.operands.isEmpty then misused 1 "missing operand"
    else o.operands.forM fun path => sayLine (directoryOf path)

/-- **Writes the places that paths name.** -/
def realPath (arguments : List (List Char)) : Tool Unit :=
  options { flags := "emfnqsz".toList } 1 arguments fun o => do
    if o.operands.isEmpty then misused 1 "missing operand"
    else o.operands.forM fun path => do
      match ← place path with
      | .ok there => sayLine (Octets.ofText ("/" ++ "/".intercalate there))
      | .error e => complain 1 (named path e)

end FigureScript.Tool

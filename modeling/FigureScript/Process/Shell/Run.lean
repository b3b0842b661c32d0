import FigureScript.Process.Shell.Builtin

/-!
# Running shell scripts

## Main Definitions

* `Shell.run` — a command of a script
* `Shell.runText` — a script, line by line
* `Shell.become` — a tool or a shell takes the place of the one that runs

## Design Notes

Commands are nested to a depth that is given.  A part of a script that has a shell of its own
starts from a copy of the state; of what it does, only files, outputs and time remain.
-/

namespace FigureScript.Shell

/-! ### Redirections -/

/-- Opens a file for a stream. -/
def openFile (kind : RedirectKind) (path : List Char) : Shell (Except String Channel) := do
  let s ← get
  let text := Tool.pathOf path
  let opened (store : Store) (place : Place) : Shell (Except String Channel) := do
    let file : OpenFile :=
      { place, position := 0, appends := kind = .append
        readable := kind = .input || kind = .both, writable := kind ≠ .input }
    set { s with store, files := s.files ++ [file] }
    return .ok (.file s.files.length)
  let refused (verb : String) (missing : String) (e : OsError) : Except String Channel :=
    let reason := if e = .notFound || e = .notDirectory then missing else e.reason
    .error ("cannot " ++ verb ++ " " ++ String.ofList path ++ ": " ++ reason)
  match text with
  | "/dev/null" | "/dev/zero" => return .ok .nothing
  | "/dev/full" => return .ok .full
  | "/dev/stdin" => return .ok ((← channel? 0).getD .nothing)
  | "/dev/stdout" => return .ok ((← channel? 1).getD .nothing)
  | "/dev/stderr" => return .ok ((← channel? 2).getD .nothing)
  | _ =>
    if kind = .input then
      match s.store.resolve text, s.store.lookup text with
      | .ok place, .ok _ => opened s.store place
      | .error e, _ | _, .error e => return refused "open" "No such file" e
    else match s.store.resolve text with
      | .error e => return refused "create" "Directory nonexistent" e
      | .ok place =>
        match s.store.get? place with
        | some .directory => return refused "create" "" .isDirectory
        | some (.file content executable) =>
          let content := if kind = .output then .text "" else content
          opened (s.store.put place (.file content executable)) place
        | none => opened (s.store.put place (.file (.text "") false)) place

/-- Leads a stream to where a redirection says, whose target is known. -/
def redirectTo (kind : RedirectKind) (stream : Nat) (target : List Char) :
    Shell (Option String) := do
  match kind with
  | .document =>
    let buffer ← newBuffer target
    setChannel stream (some (.reader buffer))
    return none
  | .duplicate =>
    if target = ['-'] then
      setChannel stream none
      return none
    else match target with
      | [c] =>
        match ← channel? (c.toNat - '0'.toNat) with
        | some channel =>
          setChannel stream (some channel)
          return none
        | none => return some (String.ofList target ++ ": Bad file descriptor")
      | _ => return some (String.ofList target ++ ": Bad file descriptor")
  | kind =>
    match ← openFile kind target with
    | .ok channel =>
      setChannel stream (some channel)
      return none
    | .error problem => return some problem

/-- The target of a redirection cannot be a stream. -/
def isBadStream (r : Redirect) (target : List Char) : Bool :=
  r.kind = .duplicate && target ≠ ['-'] && !(target.length = 1 && target.all Char.isDigit)

/-- **Leads streams to where redirections say.**  The answer is whether that was possible;
otherwise there has been a report. -/
def redirect (script : InnerScript) (redirects : List Redirect) : Shell Bool := do
  let targets ← redirects.mapM fun r => do
    let target ← expandText script r.target
    if isBadStream r target && (← isRunning) then
      modify fun s => { s with line := s.reached }
      fail "Syntax error: Bad fd number"
    return (r, target)
  if !(← isRunning) then return false
  let step (good : Bool) (next : Redirect × List Char) : Shell Bool := do
    if !good then return false
    match ← redirectTo next.1.kind next.1.stream next.2 with
    | none => return true
    | some problem =>
      report problem
      return false
  targets.foldlM step true

/-- Runs something with streams of its own, if these can be had. -/
def withStreams (script : InnerScript) (redirects : List Redirect) (onFailure : Shell Unit)
    (action : Shell Unit) : Shell Unit := do
  if redirects.isEmpty then action
  else
    let streams := (← get).streams
    let good ← redirect script redirects
    if good then action
    else if ← isRunning then
      setStatus 2
      onFailure
    modify fun s => { s with streams }

/-! ### Shells of their own -/

/-- The state after something was run in a shell of its own. -/
def backFrom (outer inner : ShellState) : ShellState :=
  { outer with
    store := { inner.store with cwd := outer.store.cwd }
    files := inner.files
    buffers := inner.buffers
    elapsed := inner.elapsed
    held := inner.heldByAll
    lastProcess := inner.lastProcess
    status := inner.status
    flow := match inner.flow with
      | .timedOut => .timedOut
      | .killed process signal => .killed process signal
      | _ => outer.flow }

/-- Runs something in a copy of the shell. -/
def inSubshell (action : Shell Unit) : Shell Unit := do
  let outer ← get
  set { outer with traps := outer.traps.filter (·.2.isEmpty), arrived := [], jobs := [] }
  action
  set (backFrom outer (← get))

/-- Runs something in a process of its own; a signal that ends it is told of. -/
def inProcess (action : Shell Unit) : Shell Unit := do
  let outer ← get
  let process ← newProcess
  modify fun s => { s with process, ancestors := outer.process :: outer.ancestors, jobs := [] }
  action
  let inner ← get
  set (backFrom outer inner)
  if let .killed ended signal := inner.flow then
    if ended = process then
      modify fun s => { s with flow := .running, status := 128 + signal }
      tellSignal signal

/-- Runs something in the background.  `holds` tells whether it holds the error output. -/
def inBackground (redirects : List Redirect) (script : InnerScript) (action : Shell Unit) :
    Shell Unit := do
  let outer ← get
  let process ← newProcess
  set { (← get) with
    traps := outer.traps.filter (·.2.isEmpty), arrived := [], jobs := [], inBackground := true }
  setChannel 0 (some .nothing)
  let good ← redirect script redirects
  if good then action else setStatus 2
  let inner ← get
  let held := if outer.held < inner.heldByAll then inner.heldByAll else 0
  let job : Job := { process, status := inner.status, ends := inner.elapsed, held }
  set { backFrom outer inner with
    elapsed := outer.elapsed
    held := outer.held
    status := 0
    jobs := outer.jobs ++ [job]
    lastJob := some process
    flow := match inner.flow with
      | .killed ended signal => .killed ended signal
      | _ => outer.flow }

/-! ### Programs -/

/-- The directories in which programs are looked for. -/
def searchPath : Shell (List (List Char)) := do
  match ← lookup "PATH" with
  | some path => return Tool.splitAtChar ':' path
  | none => return []

/-- The path of the program of a name. -/
def findProgram? (name : List Char) : Shell (Option (List Char)) := do
  if name.contains '/' then return some name
  let store := (← get).store
  let paths := (← searchPath).map fun directory =>
    if directory.isEmpty then name else Tool.joined directory name
  return paths.find? fun path =>
    match Tool.look store path with
    | some (.file _ executable) => executable
    | _ => false

/-- The statuses of tools that cannot write their output. -/
def lossStatus (tool : String) : Nat :=
  ([("ls", 2), ("grep", 2), ("sort", 2), ("expr", 3), ("sed", 4)].lookup tool).getD 1

/-- Tells that the output of a tool could not be written. -/
def tellLoss (calledAs : String) : Shell Unit := do
  let reason := if (← channel? 1) = some .full then "No space left on device"
    else "Bad file descriptor"
  let _ ← write 2 (calledAs ++ ": write error: " ++ reason ++ "\n").toList
  setStatus (lossStatus calledAs)

/-- Runs a tool. -/
def runTool (calledAs : String) (tool : Tool Unit) : Shell Unit := do
  let text ← readAll 0
  let s ← get
  let isFileInput := match s.streams.lookup 0 with
    | some (.file _) => true
    | _ => false
  let ((), done) := tool.run { name := calledAs, store := s.store, input := text, isFileInput }
  set { s with store := done.store }
  unread 0 (if done.usedInput then done.input else text)
  let step (isWhole : Bool) (piece : Nat × List Char) : Shell Bool := do
    let good ← write piece.1 piece.2
    return isWhole && (good || piece.1 ≠ 1)
  let isWhole ← done.written.reverse.foldlM step true
  pass done.duration
  setStatus done.status
  if !isWhole then tellLoss calledAs

/-- The options and the arguments of a shell that is started. -/
structure Invocation where
  options : List Char := []
  /-- The script is the first of the arguments. -/
  isText : Bool := false
  /-- The script is read from the input. -/
  isInput : Bool := false
  arguments : List (List Char)

/-- Reads the options of a shell that is started. -/
def readInvocation : (fuel : Nat) → Invocation → Except String Invocation
  | 0, read => .ok read
  | fuel + 1, read =>
    match read.arguments with
    | ['-', '-'] :: rest => .ok { read with arguments := rest }
    | ['-'] :: rest => .ok { read with arguments := rest }
    | ('-' :: letters) :: rest =>
      let known := "cefmnsxvVECabuIip".toList
      match letters.find? (!known.contains ·) with
      | some letter => .error ("Illegal option -" ++ String.ofList [letter])
      | none =>
        readInvocation fuel
          { options := read.options ++ letters.filter fun c => c ≠ 'c' && c ≠ 's'
            isText := read.isText || letters.contains 'c'
            isInput := read.isInput || letters.contains 's'
            arguments := rest }
    | _ => .ok read

/-- The assignments in front of the arguments of `env`. -/
def environmentOf (arguments : List (List Char)) : List (List Char) × List (List Char) :=
  let assignments := arguments.takeWhile (·.contains '=')
  (assignments, arguments.drop assignments.length)

/-- Writes what the shell is about to do, if that is asked for. -/
def trace (assignments : List (String × List Char)) (fields : List (List Char)) :
    Shell Unit := do
  if ← hasOption 'x' then
    let shown := assignments.map (fun (name, value) => name.toList ++ '=' :: value) ++ fields
    let _ ← write 2 ('+' :: ' ' :: List.intercalate [' '] shown ++ ['\n'])

/-- Ends the script if a command has failed whose failure is not asked about. -/
def checkExit (tested : Bool) : Shell Unit := do
  if !tested && (← get).status ≠ 0 && (← isRunning) && (← hasOption 'e') then
    modify fun s => { s with flow := .exiting }

/-- Runs a command of the shell. -/
def runBuiltin (name : String) (isSpecial : Bool) (action : Builtin Unit) : Shell Unit := do
  let activity := (← get).activity
  modify fun s =>
    { s with activity := some name, previous := s.status, status := 0, isCut := false }
  match ← action.run with
  | .ok () => pure ()
  | .error problem =>
    report problem
    modify fun s =>
      { s with status := 2, flow := if isSpecial && s.flow = .running then .exiting else s.flow }
  if (← get).isCut then
    report (name ++ ": I/O error")
    modify fun s => { s with status := s.status ||| 1, isCut := false }
  modify fun s => { s with activity }

/-- Leaves a round of a loop.  The answer is whether the loop goes on. -/
def endRound : Shell Bool := do
  let s ← get
  match s.flow with
  | .running => return true
  | .breaking loops =>
    set { s with flow := if loops ≤ 1 then .running else .breaking (loops - 1) }
    return false
  | .continuing loops =>
    set { s with flow := if loops ≤ 1 then .running else .continuing (loops - 1) }
    return loops ≤ 1
  | _ => return false

/-- Runs a loop, of which the state counts the depth. -/
def inLoop (action : Shell Unit) : Shell Unit := do
  modify fun s => { s with loops := s.loops + 1 }
  action
  modify fun s => { s with loops := s.loops - 1 }

/-- Functions call each other to this depth. -/
def maxCalls : Nat := 1000

/-- Runs the body of a function with its arguments. -/
def callFunction (arguments : List (List Char)) (body : Shell Unit) : Shell Unit := do
  let s ← get
  if maxCalls ≤ s.calls then
    fail s!"Maximum function recursion depth ({maxCalls}) reached"
  else
    set { s with arguments, loops := 0, calls := s.calls + 1, locals := [] :: s.locals }
    body
    restoreLocals
    modify fun after =>
      { after with
        arguments := s.arguments
        loops := s.loops
        calls := s.calls
        flow := if after.flow = .returning then .running else after.flow }

/-- What a name stands for, for the commands that tell it. -/
def describe (name : List Char) (short : Bool) : Shell (Option (List Char)) := do
  let text := String.ofList name
  let said (kind : String) : List Char := if short then name else name ++ (" is " ++ kind).toList
  if TokenReader.keywords.contains text then return some (said "a shell keyword")
  else if ((← get).functions.lookup text).isSome then return some (said "a shell function")
  else if Builtin.isKnown text then
    return some (said (if TokenReader.reservedNames.contains text then "a special shell builtin"
      else "a shell builtin"))
  else match ← findProgram? name with
    | none => return none
    | some path =>
      let isThere := match Tool.look (← get).store path with
        | some (.file _ executable) => executable
        | _ => false
      if !isThere then return none
      else return some (if short then path else name ++ " is ".toList ++ path)

/-- Tells what names stand for. -/
def describeAll (names : List (List Char)) (short : Bool) : Shell Unit := do
  setStatus 0
  (if short then names.take 1 else names).forM fun name => do
    match ← describe name short with
    | some text =>
      let _ ← write 1 (text ++ ['\n'])
    | none =>
      if !short then
        let _ ← write 1 (name ++ ": not found\n".toList)
      setStatus 127

/-! ### Scripts -/

/-- Ends a script that cannot be read. -/
def failAt (fault : ScriptFault) : Shell Unit := do
  modify fun s => { s with line := fault.line }
  fail ("Syntax error: " ++ fault.flaw.message)

/-- Runs the lines of a script, where `run` runs a command. -/
def runLines (run : ShellCommand → Shell Unit) : (fuel : Nat) → List ShellToken → Shell Unit
  | 0, _ => return
  | fuel + 1, tokens => do
    match ShellCommand.next tokens with
    | .error fault => failAt fault
    | .ok none => return
    | .ok (some (command, rest)) =>
      let last := tokens[tokens.length - rest.length - 1]?
      modify fun s => { s with reached := (last.map (·.line)).getD s.line }
      run command
      if ← isRunning then runLines run fuel rest

mutual

/-- **Runs a command**; `tested` is set if its failure is asked about. -/
def run : (depth : Nat) → (tested : Bool) → ShellCommand → Shell Unit
  | 0, _, _ => giveUp
  | depth + 1, tested, command => do
    if !(← isRunning) || (← hasOption 'n') then return
    match command with
    | .simple line assignments words redirects =>
      runSimple depth tested line assignments words redirects
      checkExit tested
    | .pipeline commands =>
      runPipeline depth tested commands
      checkExit tested
    | .negate command =>
      run depth true command
      if ← isRunning then modify fun s => { s with status := if s.status = 0 then 1 else 0 }
    | .both first second =>
      run depth true first
      if (← get).status = 0 then run depth tested second
    | .either first second =>
      run depth true first
      if (← get).status ≠ 0 then run depth tested second
    | .background command => runBackground depth command
    | .sequence commands => commands.forM (run depth tested)
    | .redirected line command redirects =>
      modify fun s => { s with line }
      withStreams (runInner depth) redirects (checkExit tested) (run depth tested command)
    | .subshell command =>
      inSubshell do
        run depth tested command
        finish depth
      checkExit tested
    | .branch condition body otherwise =>
      run depth true condition
      if ← isRunning then
        if (← get).status = 0 then run depth tested body
        else match otherwise with
          | some other => run depth tested other
          | none => setStatus 0
    | .loop inverted condition body =>
      inLoop do
        let status ← repeatWhile (fun status => do
          run depth true condition
          if !(← endRound) then return ((← get).status, false)
          else if ((← get).status = 0) = inverted then return (status, false)
          else
            run depth tested body
            let again ← endRound
            return ((← get).status, again)) 0
        if ← isRunning then setStatus status
    | .each line name words body =>
      modify fun s => { s with line }
      let fields ← match words with
        | some words => List.flatten <$> words.mapM (expandFields (runInner depth))
        | none => pure (← get).arguments
      setStatus 0
      inLoop do
        let _ ← repeatWhile (fun fields => do
          match fields with
          | [] => return ([], false)
          | field :: rest =>
            assign name field false
            run depth tested body
            return (rest, ← endRound)) fields
    | .choose line subject arms =>
      modify fun s => { s with line }
      let text ← expandText (runInner depth) subject
      let fitting ← arms.findM? fun (patterns, _) =>
        patterns.anyM fun pattern => do
          return Wildcard.fits (← expandPattern (runInner depth) pattern) text
      if ← isRunning then
        setStatus 0
        if let some (_, some body) := fitting then run depth tested body
    | .define name body =>
      modify fun s =>
        { s with status := 0, functions := (name, body) :: s.functions.filter (·.1 ≠ name) }
    runArrived depth

/-- Runs what has been set for the signals that have arrived. -/
def runArrived : (depth : Nat) → Shell Unit
  | 0 => giveUp
  | depth + 1 => do
    if ← isRunning then
      let s ← get
      if !s.arrived.isEmpty then
        set { s with arrived := [] }
        s.arrived.forM fun signal => do
          if let some action := s.traps.lookup signal then
            let status := (← get).status
            runText depth false 1 action
            if ← isRunning then setStatus status

/-- Runs the commands of a pipeline, each of which reads what the one before it writes. -/
def runPipeline : (depth : Nat) → (tested : Bool) → List ShellCommand → Shell Unit
  | 0, _, _ => giveUp
  | depth + 1, tested, commands => do
    let start := (← get).elapsed
    let status := (← get).status
    let streams := (← get).streams
    let last := commands.length - 1
    let step (state : Option Nat × Nat) (next : ShellCommand × Nat) : Shell (Option Nat × Nat) := do
      let (input, ends) := state
      let (command, index) := next
      if let some buffer := input then setChannel 0 (some (.reader buffer))
      let output ← if index = last then pure none else some <$> newBuffer []
      if let some buffer := output then setChannel 1 (some (.writer buffer))
      modify fun s => { s with elapsed := start, status }
      inSubshell do
        run depth tested command
        finish depth
      modify fun s => { s with streams }
      return (output, max ends (← get).elapsed)
    let (_, ends) ← commands.zipIdx.foldlM step (none, start)
    modify fun s => { s with elapsed := ends }

/-- Runs a command in the background. -/
def runBackground : (depth : Nat) → ShellCommand → Shell Unit
  | 0, _ => giveUp
  | depth + 1, command => do
    match command with
    | .redirected _ inner redirects =>
      inBackground redirects (runInner depth) do
        run depth false inner
        finish depth
    | .simple line assignments words redirects =>
      inBackground redirects (runInner depth) do
        run depth false (.simple line assignments words [])
        finish depth
    | command =>
      inBackground [] (runInner depth) do
        run depth false command
        finish depth

/-- The output of a script within the words of a command. -/
def runInner : (depth : Nat) → InnerScript
  | 0, _, _ => do
    giveUp
    return []
  | depth + 1, text, line => do
    let buffer ← newBuffer []
    let outer ← get
    inSubshell do
      setChannel 1 (some (.writer buffer))
      match ShellCommand.ofInner line text with
      | .error fault => failAt fault
      | .ok commands => commands.forM (run depth false)
      finish depth
    let output ← bufferContent buffer
    setBuffer buffer []
    modify fun s => { s with innerStatus := s.status, status := outer.status, line := outer.line }
    return output

/-- **Runs a script** that starts on a line. -/
def runText : (depth : Nat) → (tested : Bool) → (line : Nat) → List Char → Shell Unit
  | 0, _, _, _ => giveUp
  | depth + 1, tested, line, text => do
    let tokens := ShellCommand.tokens line text
    let reached := (← get).reached
    runLines (run depth tested) (tokens.length + 1) tokens
    modify fun s => { s with reached }

/-- Ends a shell: what has been set for its end is run. -/
def finish : (depth : Nat) → Shell Unit
  | 0 => giveUp
  | depth + 1 => do
    let s ← get
    match s.flow with
    | .killed _ _ | .timedOut => return
    | _ =>
      match s.traps.lookup 0 with
      | none => return
      | some action =>
        set { s with traps := s.traps.filter (·.1 ≠ 0), flow := .running }
        runText depth false 1 action
        modify fun after =>
          { after with status := if after.flow = .running then s.status else after.status }

/-- Runs a simple command. -/
def runSimple : (depth : Nat) → (tested : Bool) → (line : Nat) → List Assignment → List Word →
    List Redirect → Shell Unit
  | 0, _, _, _, _, _ => giveUp
  | depth + 1, tested, line, assignments, words, redirects => do
    modify fun s => { s with line, innerStatus := 0 }
    let script := runInner depth
    let values : Shell (List (String × List Char)) :=
      assignments.mapM fun a => return (a.name, ← expandText script a.value)
    let first ← match words with
      | [] => pure []
      | word :: _ => expandFields script word
    let name := String.ofList (first.headD [])
    let isAssigning := Builtin.takesAssignments name
    let others ← words.tail.mapM fun word => do
      if isAssigning && (TokenReader.assignment? word).isSome then
        return [← expandText script word]
      else expandFields script word
    let fields := first ++ others.flatten
    if !(← isRunning) then return
    match fields with
    | [] =>
      withStreams script redirects (pure ()) do
        let values ← values
        if ← isRunning then
          trace values []
          setStatus (← get).innerStatus
          values.forM fun (name, value) => do
            if ← isRunning then assign name value false
    | word :: arguments =>
      let isFunction := ((← get).functions.lookup name).isSome
      let isSpecial := !isFunction && Builtin.isSpecial name
      let onFailure : Shell Unit := do
        if isSpecial then modify fun s => { s with flow := .exiting }
      let action : Shell Unit := do
        let values ← values
        if !(← isRunning) then return
        let saved ← values.mapM fun (name, _) => return (name, ← entry? name)
        values.forM fun (name, value) => do
          if ← isRunning then assign name value (!isSpecial)
        if ← isRunning then
          trace values fields
          runNamed depth tested isSpecial word arguments
        if !isSpecial then saved.reverse.forM fun (name, entry) => setVariable name entry
      if name = "exec" && !isFunction then
        let good ← redirect script redirects
        if good then
          action
          modify fun s => { s with holds := s.streams.any (·.2 = .writer errorBuffer) }
        else if ← isRunning then
          setStatus 2
          onFailure
      else withStreams script redirects onFailure action

/-- Runs a command by its name: a function, a command of the shell or a program. -/
def runNamed : (depth : Nat) → (tested isSpecial : Bool) → (name : List Char) →
    List (List Char) → Shell Unit
  | 0, _, _, _, _ => giveUp
  | depth + 1, tested, isSpecial, name, arguments => do
    let text := String.ofList name
    match (← get).functions.lookup text with
    | some body => callFunction arguments (run depth tested body)
    | none => runKnown depth tested isSpecial name arguments

/-- Runs a command of the shell or a program. -/
def runKnown : (depth : Nat) → (tested isSpecial : Bool) → (name : List Char) →
    List (List Char) → Shell Unit
  | 0, _, _, _, _ => giveUp
  | depth + 1, tested, isSpecial, name, arguments => do
    let text := String.ofList name
    match Builtin.find? text with
    | some action => runBuiltin text isSpecial (action arguments)
    | none =>
      match text with
      | "eval" =>
        if arguments.isEmpty then setStatus 0
        else runBuiltin text isSpecial do
          runText depth tested 1 (List.intercalate [' '] arguments)
      | "." => runBuiltin text isSpecial (runSourced depth tested arguments)
      | "command" => runBuiltin text isSpecial (runCommand depth tested arguments)
      | "type" => describeAll arguments false
      | "exec" =>
        match if arguments.head? = some "--".toList then arguments.tail else arguments with
        | [] => setStatus 0
        | program :: rest =>
          modify fun s => { s with activity := some "exec" }
          startProgram depth program rest true
      | _ => startProgram depth name arguments false

/-- Runs the script of a file in the shell itself. -/
def runSourced : (depth : Nat) → (tested : Bool) → List (List Char) → Builtin Unit
  | 0, _, _ => giveUp
  | depth + 1, tested, arguments => do
    match arguments with
    | [] => return
    | path :: _ =>
      match ← (if path.contains '/' then pure (some path) else findProgram? path) with
      | none => throw (String.ofList path ++ ": not found")
      | some found =>
        match Tool.contentAt (← get).store found with
        | .error .isDirectory => return
        | .error e =>
          let reason := if e = .notFound || e = .notDirectory then "No such file" else e.reason
          throw ("cannot open " ++ String.ofList found ++ ": " ++ reason)
        | .ok content =>
          modify fun s => { s with activity := some (String.ofList found), status := s.previous }
          let status := (← get).status
          runText depth tested 1 content
          modify fun s =>
            { s with
              flow := if s.flow = .returning then .running else s.flow
              status := if content.isEmpty then status else s.status }

/-- Runs a command that is no function, or tells what names stand for. -/
def runCommand : (depth : Nat) → (tested : Bool) → List (List Char) → Builtin Unit
  | 0, _, _ => giveUp
  | depth + 1, tested, arguments => do
    let (given, rest) ← Builtin.readOptions "pvV" "" arguments
    if given.any (·.1 = 'v') then describeAll rest true
    else if given.any (·.1 = 'V') then describeAll rest false
    else match rest with
      | [] => return
      | name :: arguments =>
        modify fun s => { s with activity := none }
        runKnown depth tested false name arguments

/-- Starts a program, in the place of the shell if `replaces` is set. -/
def startProgram : (depth : Nat) → (program : List Char) → List (List Char) →
    (replaces : Bool) → Shell Unit
  | 0, _, _, _ => giveUp
  | depth + 1, program, arguments, replaces => do
    let failed (status : Nat) (reason : String) : Shell Unit := do
      report (String.ofList program ++ ": " ++ reason)
      modify fun s => { s with status, flow := if replaces then .exiting else s.flow }
    match ← findProgram? program with
    | none =>
      if program.isEmpty || program = ['.', '.'] then
        failed 127 OsError.permissionDenied.reason
      else failed 127 "not found"
    | some path =>
      let start (launch : Launch) : Shell Unit := do
        let launch := if program.contains '/' || launch.calledAs ≠ String.ofList path then launch
          else { launch with calledAs := String.ofList program }
        if replaces then
          modify fun s => { s with traps := s.traps.filter (·.2.isEmpty) }
          become depth launch
          modify fun s => { s with flow := if s.flow = .running then .exiting else s.flow }
        else inProcess (become depth launch)
      match Program.launch (← get).store 5 path arguments with
      | .ok launch => start launch
      | .error .notExecutable => start ⟨"sh", "/bin/sh", path :: arguments⟩
      | .error .notFound | .error .notDirectory => failed 127 "not found"
      | .error .nameTooLong => failed 127 OsError.nameTooLong.reason
      | .error e => failed 126 e.reason

/-- **A tool or a shell takes the place of the one that runs**, of which it keeps the streams
and the variables that are exported. -/
def become : (depth : Nat) → Launch → Shell Unit
  | 0, _ => giveUp
  | depth + 1, launch => do
    if launch.tool = "env" then becomeWith depth launch
    else if Tool.shellNames.contains launch.tool then becomeShell depth launch
    else match Tool.find? launch.tool with
      | some tool => runTool launch.calledAs (tool launch.arguments)
      | none => setStatus 127

/-- A program with other variables takes the place of the shell that runs. -/
def becomeWith : (depth : Nat) → Launch → Shell Unit
  | 0, _ => giveUp
  | depth + 1, launch => do
    let known : Tool.KnownOptions :=
      { flags := "i0v".toList, valued := "uCS".toList, long := [("ignore-environment", 'i')] }
    let isOption (argument : List Char) : Bool :=
      argument.head? = some '-' && argument ≠ ['-', '-']
    let front := launch.arguments.takeWhile isOption
    let behind := launch.arguments.drop front.length
    match Tool.readOptions known (front.length + 1) {} front with
    | .error problem => runTool launch.calledAs (Tool.misused 125 problem)
    | .ok options =>
      let (assignments, command) := environmentOf behind
      if options.has 'i' then
        modify fun s => { s with bindings := [] }
      assignments.forM fun text => do
        let (name, value) := Builtin.splitAssignment text
        assign (String.ofList name) (value.getD []) true
      match command with
      | [] => setStatus 0
      | program :: arguments =>
        let failed (e : OsError) : Shell Unit :=
          runTool launch.calledAs
            (Tool.complain (if e = .notFound then 127 else 126)
              (Tool.quoted program ++ ": " ++ e.reason))
        match ← findProgram? program with
        | none => failed .notFound
        | some path =>
          match Program.launch (← get).store 5 path arguments with
          | .ok inner => become depth inner
          | .error .notExecutable => become depth ⟨"sh", "/bin/sh", path :: arguments⟩
          | .error e => failed e

/-- Another shell takes the place of the one that runs. -/
def becomeShell : (depth : Nat) → Launch → Shell Unit
  | 0, _ => giveUp
  | depth + 1, launch => do
    let s ← get
    set { s with
      name := launch.calledAs
      arguments := []
      bindings := s.bindings.filter (·.2.exported)
      functions := []
      locals := []
      options := []
      traps := s.traps.filter (·.2.isEmpty)
      arrived := []
      status := 0
      line := 0
      activity := none
      flow := .running
      loops := 0
      calls := 0
      jobs := []
      optionOffset := 0 }
    if (s.bindings.lookup "PATH").isNone then
      assign "PATH" "/usr/local/sbin:/usr/local/bin:/usr/sbin:/usr/bin:/sbin:/bin".toList false
    assign "PWD" (Octets.ofText ("/" ++ "/".intercalate s.store.cwd)) false
    match readInvocation (launch.arguments.length + 1) { arguments := launch.arguments } with
    | .error problem => fail problem
    | .ok invocation =>
      modify fun s => { s with options := invocation.options }
      let runAs (name : String) (arguments : List (List Char)) (text : List Char) : Shell Unit := do
        modify fun s => { s with name, arguments, line := 1 }
        runText depth false 1 text
        finish depth
      match invocation.isText, invocation.isInput, invocation.arguments with
      | true, _, [] => fail "-c requires an argument"
      | true, _, text :: rest =>
        runAs (String.ofList (rest.headD launch.calledAs.toList)) rest.tail text
      | false, false, path :: rest =>
        match Tool.contentAt (← get).store path with
        | .ok content => runAs (String.ofList path) rest content
        | .error .isDirectory => setStatus 0
        | .error e =>
          let reason := if e = .notFound || e = .notDirectory then "No such file" else e.reason
          fail ("cannot open " ++ String.ofList path ++ ": " ++ reason)
      | false, _, arguments => runAs launch.calledAs arguments (← readAll 0)

end

end FigureScript.Shell

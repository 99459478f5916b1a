import PackageCensus.Host.Script.Builtin
import PackageCensus.Host.Script.Copying
import PackageCensus.Host.Script.Grammar

/-! # Runs of scripts

What a script does, statement by statement.  A statement changes the state of the process, or
interrupts what is being done; `conclude` is the end of a process in any case.  Processes do not run
side by side: the writers of a pipe are done before its readers begin, and what a script does not
wait for is done before the script goes on.

The functions count down a number that bounds how deep statements can lie within each other; where
it ends a process has no room left. -/

namespace PackageCensus.Script

/-- What is known where a statement is run. -/
structure Flow where
  /-- Whether nothing follows, so that a program can take the place of the process. -/
  exits : Bool := false
  /-- Whether a failure is asked for, so that it does not end a script that ends at failures. -/
  tested : Bool := false

/-- How deep statements can lie within each other. -/
def depthLimit : Nat := 30000

/-- The most rounds of a loop. -/
def roundLimit : Nat := 1000000

namespace Shell

/-- What becomes of a process without room. -/
def noRoom {α : Type} : Shell α := throw (.ended (.signal 11))

/-! ### Words of commands -/

/-- Puts the words of a command together.  Where the first one is a command that gives values to
names, words that do so stay words. -/
def commandWords (run : Substitution) : List Word → Shell (List Octets)
  | [] => return []
  | w :: rest => do
    let first ← expandWord run w
    if first.isEmpty then commandWords run rest
    else
      let naming := namingCommands.contains (String.ofList (first.headD []))
      let more ← rest.mapM fun w =>
        if naming && Word.isAssignment w then do
          return [← expandText run { inValue := true } w]
        else expandWord run w
      return first ++ more.flatten

/-! ### Ends -/

/-- Has a process behind that has been waited for: its status. -/
def waited (status : ExitStatus) : Shell Nat := do
  receiveAll
  return statusNumber status

/-- Brings the process back to where nothing is being run. -/
def comeBack (exits : Bool) : Shell Unit := update fun p =>
  let status := match p.savedStatus with
    | some status => if exits || p.skip = .definition then status else p.status
    | none => p.status
  { p with status, savedStatus := none, skip := .none, loops := 0 }

/-- What is left of going out of loops where one ends, and whether this one goes on. -/
def skipLoop : Shell Skip := do
  let skip ← read (·.skip)
  match skip with
  | .stopLoops n =>
    update ({ · with skip := if n ≤ 1 then .none else .stopLoops (n - 1) })
    return .stopLoops n
  | .nextRound n =>
    update ({ · with skip := if n ≤ 1 then .none else .nextRound (n - 1) })
    return if n ≤ 1 then .nextRound n else .stopLoops n
  | skip => return skip

/-- Whether a loop goes on behind what has been skipped. -/
def goesOn : Skip → Bool
  | .none | .nextRound _ => true
  | _ => false

/-- The way out of a function or a file ends with it. -/
def endDefinition : Shell Unit := update fun p =>
  { p with skip := if p.skip = .function || p.skip = .definition then .none else p.skip }

/-! ### Scripts in files -/

/-- The variables of a script at its start, given those of the process around it. -/
def firstValues (parent : Nat) (environment : List (Octets × Octets)) :
    List (Octets × Variable) :=
  let plain (name : String) (value : Octets) : Octets × Variable :=
    (name.toList, { value? := some value })
  let imported := (environment.filter fun (name, _) => isName name).map fun (name, value) =>
    (name, ({ value? := some value, exported := true } : Variable))
  let fixed := [plain "IFS" " \t\n".toList, plain "PPID" (toString parent).toList]
  fixed ++ imported.filter (fun v => fixed.all (·.1 != v.1)) ++ [plain "PATH" standardPath]

/-- Makes the process one in which a script begins. -/
def startScript (name : Octets) : Shell Unit := do
  update fun p => {
    id := p.id, root := p.id, parent := p.parent, ancestors := p.ancestors, name,
    directory := p.directory, values := firstValues p.parent p.environment,
    descriptors := p.descriptors, mask := p.mask, line := 0 }
  assign "PWD".toList (some (← currentPath)) true false

/-- A failure to start a program, which ends the process. -/
def refuseProgram {α : Type} (name : Octets) (e : AccessError) : Shell α := do
  let status := match e with
    | .notFound | .notADirectory | .nameTooLong => 127
    | _ => 126
  setStatus status
  warn (name ++ (": " ++ programComplaint e).toList)
  throw .done

/-- The octets that can be read from what goes by a number. -/
def contents (n : Nat) : Shell (List UInt8) := do
  let w := (← get).world
  return ((w.opened? n).bind fun o => (o.unread w.tree).toOption).getD []

/-- The text of a script from octets. -/
def scriptText (octets : List UInt8) : Octets := (Text.ofOctets octets).filter (· != '\x00')

/-- The text of the script at a path. -/
def openScript (path : Octets) : Shell Octets := do
  match ← openToRead path with
  | .ok n => return scriptText (← contents n)
  | .error e => fail ("cannot open ".toList ++ path ++ (": " ++ e.reason).toList)

/-- The path of a script that is looked for on the path for programs. -/
def scriptPath (name : Octets) : Shell Octets := do
  let places ← placesOf name
  let s ← get
  match places.find? fun path => (s.world.tree.locate s.process.directory path).isOk with
  | some path => return path
  | none => fail (name ++ ": not found".toList)

/-- A process that reads from one thing and writes to another. -/
def connected (input? output? : Option Nat) (p : Process) : Process :=
  let sent := (input?.map (0, ·)).toList ++ (output?.map (1, ·)).toList
  { p with descriptors := sent ++ p.descriptors.filter fun d => sent.all (·.1 != d.1) }

/-! ### Statements -/

mutual

/-- Runs a statement, and what is to be done about signals that came: its status. -/
def run (n : Nat) (u : Flow) (statement : Statement) : Shell Nat :=
  match n with
  | 0 => noRoom
  | n + 1 => do
    let silent ← read (·.has 'n')
    let checked ← if silent then pure false else runStatement n u statement
    settle n
    let p ← read id
    if (checked && p.has 'e' && p.status ≠ 0) || u.exits then throw .done
    return p.status

/-- Runs a statement, whatever signals come: whether its failure can end the script. -/
def runStatement (n : Nat) (u : Flow) (statement : Statement) : Shell Bool :=
  match n with
  | 0 => noRoom
  | n + 1 =>
    let inner : Flow := { tested := u.tested }
    let test : Flow := { tested := true }
    match statement with
    | .command line assignments words redirects => do
      update ({ · with line })
      let status ← runCommand n u assignments words redirects
      setStatus status
      return ! u.tested
    | .redirected line body redirects => do
      update ({ · with line })
      let failed : Shell (Bool × Nat) := return (true, 2)
      let (checked, status) ← whileSent (substitute n) redirects failed do
        return (false, ← run n inner body)
      setStatus status
      return checked && ! u.tested
    | .both first second => do
      let _ ← run n inner first
      let skip ← read (·.skip)
      if skip ≠ .none then return false
      setStatus (← run n u second)
      return false
    | .andThen first second => do
      let status ← run n test first
      let skip ← read (·.skip)
      if status ≠ 0 || skip ≠ .none then return false
      setStatus (← run n u second)
      return false
    | .orElse first second => do
      let status ← run n test first
      let skip ← read (·.skip)
      if status = 0 || skip ≠ .none then return false
      setStatus (← run n u second)
      return false
    | .negated body => do
      let status ← run n test body
      let skip ← read (·.skip)
      setStatus (if skip ≠ .none then status else if status = 0 then 1 else 0)
      return false
    | .pipeline stages => do
      setStatus (← waited (← runStages n u none stages))
      return ! u.tested
    | .apart line body => do
      update ({ · with line })
      let traps ← read (·.hasTraps)
      let flow := { u with exits := true }
      if u.exits && ! traps then
        let _ ← run n flow body
      else
        let status ← inProcess id (conclude n do let _ ← run n flow body)
        setStatus (← waited status)
      return ! u.tested
    | .background line body => do
      update ({ · with line })
      let nothing ← enter { medium := .device .null, reads := true }
      let process := (← get).world.nextProcess
      let status ← inProcess (connected (some nothing) none) (conclude n do
        let _ ← run n { exits := true } body)
      update fun p => { p with jobs := (process, status) :: p.jobs }
      let _ ← waited status
      setStatus 0
      return ! u.tested
    | .choice condition yes no => do
      let status ← run n test condition
      let skip ← read (·.skip)
      if skip ≠ .none then return false
      match status, no with
      | 0, _ => setStatus (← run n u yes)
      | _, some no => setStatus (← run n u no)
      | _, none => setStatus 0
      return false
    | .loop stopsOn condition body => do
      update fun p => { p with loops := p.loops + 1 }
      let status ← iterate (fun (last : Nat) => do
        let status ← run n test condition
        let skip ← skipLoop
        if skip ≠ .none then
          let last := if skip = .function then status else last
          return if goesOn skip then .inl last else .inr last
        if (status == 0) == stopsOn then return .inr last
        let status ← run n inner body
        return if goesOn (← skipLoop) then .inl status else .inr status) roundLimit 0
      update fun p => { p with loops := p.loops - 1 }
      setStatus status
      return false
    | .each line name words body => do
      update ({ · with line })
      let values := (← words.mapM (expandWord (substitute n))).flatten
      update fun p => { p with loops := p.loops + 1 }
      let status ← iterate (fun (values, (last : Nat)) => do
        match values with
        | [] => return .inr last
        | value :: values =>
          give name value
          let status ← run n inner body
          return if goesOn (← skipLoop) then .inl (values, status) else .inr status)
        (values.length + 1) (values, 0)
      update fun p => { p with loops := p.loops - 1 }
      setStatus status
      return false
    | .select line word clauses => do
      update ({ · with line })
      let text ← expandText (substitute n) { tilde := true } word
      setStatus (← runClauses n u text clauses)
      return false
    | .define line name body => do
      update fun p => { p with
        line, functions := (name, body) :: p.functions.filter (·.1 != name) }
      setStatus 0
      return false

/-- Runs the first clause with a pattern that fits a text. -/
def runClauses (n : Nat) (u : Flow) (text : Octets) :
    List (List Word × Option Statement) → Shell Nat
  | [] => return 0
  | (patterns, body) :: clauses => match n with
    | 0 => noRoom
    | n + 1 => do
      let fits ← patterns.anyM fun w => do
        return (← expandPattern (substitute n) w).fits text
      if ! fits then runClauses n u text clauses
      else match body with
        | some body => run n u body
        | none => return 0

/-- Runs the stages of a pipeline, each reading what the one before it has written: how the last one
ended. -/
def runStages (n : Nat) (u : Flow) (input? : Option Nat) : List Statement → Shell ExitStatus
  | [] => return .code 0
  | stage :: stages => match n with
    | 0 => noRoom
    | n + 1 => do
      let output? ← if stages.isEmpty then pure none
        else some <$> enter { medium := .pipe, reads := true, writes := true }
      let status ← inProcess (connected input? output?) (conclude n do
        let _ ← run n { u with exits := true } stage)
      if stages.isEmpty then return status else runStages n u output? stages

/-- Runs a command: its status.  A failure to send its descriptors elsewhere ends the script if the
command is a special one. -/
def runCommand (n : Nat) (u : Flow) (assignments words : List Word) (redirects : List Redirect) :
    Shell Nat :=
  match n with
  | 0 => noRoom
  | n + 1 => do
    update ({ · with outputStatus := 0 })
    let words ← commandWords (substitute n) words
    let found? ← if words.isEmpty then pure none else some <$> meaningOf (words.headD []) true
    let special := match found? with
      | some (.own name) => specialCommands.contains name
      | _ => false
    let failed : Shell Nat := do
      setStatus 2
      if special then throw .error else return 2
    let perform : Shell Nat := do
      assignments.forM fun w => do
        let text ← expandText (substitute n) { inValue := true } w
        if special || words.isEmpty then
          let (name, value?) := nameAndValue text
          assign name value? false false
        else makeOwn text true
      match found? with
      | some found => runFound n u found words
      | none => read (·.outputStatus)
    if words.head? = some "exec".toList then
      redirect (substitute n) redirects
      perform
    else whileSent (substitute n) redirects failed (if special then perform else inFrame perform)

/-- Runs what the first of some words stands for: its status. -/
def runFound (n : Nat) (u : Flow) (found : Found) (words : List Octets) : Shell Nat :=
  match n with
  | 0 => noRoom
  | n + 1 => match found with
    | .own name => runBuiltin n u name (words.drop 1)
    | .function body => runFunction n u body (words.drop 1)
    | .program => do
      let traps ← read (·.hasTraps)
      if u.exits && ! traps then
        become n words
        return 0
      else
        let status ← inProcess id do
          become n words
          return .code 0
        waited status

/-- Runs a command of the language: its status.  A failure ends the script if the command is a
special one. -/
def runBuiltin (n : Nat) (u : Flow) (name : String) (arguments : List Octets) : Shell Nat :=
  match n with
  | 0 => noRoom
  | n + 1 => do
    let before ← read (·.command?)
    update ({ · with command? := some name.toList })
    let result ← attempt do
      match name with
      | "eval" =>
        if arguments.isEmpty then return 0
        else runText n { tested := u.tested } ([' '].intercalate arguments)
      | "." => match arguments with
        | [] => return 0
        | file :: _ =>
          let text ← openScript (← scriptPath file)
          let status ← runText n {} text
          endDefinition
          return status
      | "exec" =>
        if ! arguments.isEmpty then become n arguments
        return 0
      | "command" => match ← optionsOf "pv" arguments with
        | (_, []) => return 0
        | (options, word :: words) =>
          if options.contains 'v' then
            let (status, text) ← describe word
            print name.toList status text
          else runFound n { tested := u.tested } (← meaningOf word false) (word :: words)
      | name => runOwn name arguments
    update ({ · with command? := before })
    match result with
    | .ok status =>
      setStatus status
      return status
    | .error .error =>
      if specialCommands.contains name then throw .error else read (·.status)
    | .error e => throw e

/-- Runs a function: its status. -/
def runFunction (n : Nat) (u : Flow) (body : Statement) (arguments : List Octets) : Shell Nat :=
  match n with
  | 0 => noRoom
  | n + 1 => do
    let before ← read id
    if 1000 ≤ before.depth then fail "Maximum function recursion depth (1000) reached".toList
    update ({ · with arguments, loops := 0, depth := before.depth + 1 })
    let putBack : Shell Unit := update ({ · with
      arguments := before.arguments, loops := before.loops, depth := before.depth })
    let _ ← try run n { tested := u.tested } body finally putBack
    endDefinition
    read (·.status)

/-- Runs the lines of a script one after the other, up to one behind which something is skipped:
the status of the last. -/
def runText (n : Nat) (u : Flow) (text : Octets) : Shell Nat :=
  match n with
  | 0 => noRoom
  | n + 1 =>
    iterate (fun ((r : Reader), (last : Nat)) => do
      let p ← read id
      let r := { r with aliases := p.aliases, documents := p.documents, next := p.nextDocument }
      match readLine r with
      | .error fault =>
        update ({ · with line := fault.line })
        fail ("Syntax error: " ++ fault.text).toList
      | .ok (.none, _) => return .inr last
      | .ok (.statement s? ends, after) =>
        update ({ · with documents := after.documents, nextDocument := after.next })
        let last ← match s? with
          | some s => run n { u with exits := u.exits && ends } s
          | none => do
            settle n
            if u.exits && ends then throw .done
            pure last
        let skip ← read (·.skip)
        return if skip ≠ .none then .inr last else .inl (after, last))
      (text.length + 2) ({ rest := text }, 0)

/-- Does what is to be done about signals that came. -/
def settle (n : Nat) : Shell Unit :=
  match n with
  | 0 => noRoom
  | n + 1 => do
    let p ← read id
    if p.pending.isEmpty then return
    let before := p.savedStatus
    let status := before.getD p.status
    update ({ · with savedStatus := some status })
    each (fun signal => do
      let p ← read id
      if p.skip ≠ .none || ! p.pending.contains signal then return
      update ({ · with pending := p.pending.filter (· != signal) })
      match p.traps.lookup signal with
      | none => return
      | some action =>
        let _ ← runText n {} action
        let skip ← read (·.skip)
        if skip ≠ .function then setStatus status) ((List.range (lastSignal + 1)).drop 1)
    update ({ · with savedStatus := before })

/-- Runs a process, and what is to be done at its end: how it ended. -/
def conclude (n : Nat) (body : Shell Unit) : Shell ExitStatus :=
  match n with
  | 0 => noRoom
  | n + 1 => do
    match ← attempt body with
    | .error .exhausted => throw .exhausted
    | .error (.ended status) => return status
    | .error e => comeBack (e = .exit)
    | .ok () => pure ()
    let p ← read id
    update ({ · with savedStatus := some p.status })
    match p.traps.lookup 0 with
    | none => return .code (p.status % 256)
    | some action =>
      update ({ · with traps := p.traps.filter (·.1 != 0), skip := .none })
      match ← attempt (runText n {} action) with
      | .error .exhausted => throw .exhausted
      | .error (.ended status) => return status
      | .error e => comeBack (e = .exit)
      | .ok _ => setStatus p.status
      return .code ((← read (·.status)) % 256)

/-- Runs a statement for what it writes. -/
def substitute (n : Nat) (body : Option Statement) : Shell Octets :=
  match n with
  | 0 => noRoom
  | n + 1 => match body with
    | none => return []
    | some s => do
      let pipe ← enter { medium := .pipe, reads := true, writes := true }
      let status ← inProcess (connected none (some pipe)) (conclude n do
        let _ ← run n { exits := true } s)
      let text := Text.ofOctets (← contents pipe)
      let status ← waited status
      update ({ · with outputStatus := status })
      return text

/-- Lets a program take the place of the process, which ends with it. -/
def become (n : Nat) (words : List Octets) : Shell Unit :=
  match n with
  | 0 => noRoom
  | n + 1 => do
    match ← findProgram (words.headD []) with
    | .error e => refuseProgram (words.headD []) e
    | .ok names =>
      let status ← runProgram n names words
      throw (.ended status)

/-- Runs the program under some names: how it ended. -/
def runProgram (n : Nat) (names : List FileName) (words : List Octets) : Shell ExitStatus :=
  match n with
  | 0 => noRoom
  | n + 1 => match String.ofList ((names.getLast?).getD []) with
    | "cat" => do return .code (← Copying.run (words.headD []) (words.drop 1))
    | "echo" => do
      match ← write 1 (echoedApart false true (words.drop 1)) with
      | none => return .code 0
      | some _ => return .code 1
    | "sh" | "dash" => do
      startScript (words.headD [])
      conclude n (runArguments n (words.drop 1))
    | "false" => return .code 1
    | _ => return .code 0

/-- Runs the script that arguments tell. -/
def runArguments (n : Nat) (arguments : List Octets) : Shell Unit :=
  match n with
  | 0 => noRoom
  | n + 1 => do
    let k ← turnAll true (arguments.length + 1) { rest := arguments }
    let p ← read id
    let runInput : Shell Unit := do
      let octets := (← unread 0).toOption.getD []
      advance 0 octets.length
      let _ ← runText n {} (scriptText octets)
    match k.inArgument, k.rest with
    | true, [] => fail "-c requires an argument".toList
    | true, script :: rest =>
      update ({ · with name := rest.headD p.name, arguments := rest.drop 1 })
      let _ ← runText n {} script
      if p.has 's' then runInput
    | false, [] => runInput
    | false, path :: rest =>
      if p.has 's' then
        update ({ · with arguments := path :: rest })
        runInput
      else
        let text ← openScript path
        update ({ · with name := path, arguments := rest })
        let _ ← runText n {} text

end
end Shell

/-! ### Programs -/

/-- What the program under some names writes on a machine, and how it ends. -/
def outcome (t : FileTree) (environment : List (String × String)) (names : List FileName)
    (words : List String) : List UInt8 × ExitStatus :=
  let opened : List (Nat × Opened) :=
    [(0, { medium := .device .null, reads := true }), (1, { medium := .pipe, writes := true }),
     (2, { medium := .device .null, writes := true })]
  let given := [("HOME", "/root"), ("PATH", String.ofList standardPath)]
  let values := (environment ++ given.filter fun v => (environment.lookup v.1).isNone).map
    fun (name, value) => (Text.spread name,
      ({ value? := some (Text.spread value), exported := true } : Variable))
  let process : Process := {
    id := 100, root := 100, parent := 1, name := [], directory := t.home, values,
    descriptors := [(0, 0), (1, 1), (2, 2)] }
  let (result, after) := Shell.runProgram depthLimit names (words.map Text.spread)
    ⟨{ tree := t, opened, next := 3, nextProcess := 101 }, process⟩
  let output := match after.world.opened? 1 with
    | some o => o.arrived.reverse.flatten
    | none => []
  (output, match result with
    | .ok status | .error (.ended status) => status
    | .error _ => .code 2)

end PackageCensus.Script

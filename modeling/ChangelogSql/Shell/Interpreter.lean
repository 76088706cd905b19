import ChangelogSql.Shell.Control
import ChangelogSql.Shell.Launch
import ChangelogSql.Shell.Redirection
import ChangelogSql.Shell.Words

/-!
Running commands. Each command is a part of what a process does: it asks the
system for what it needs, begins other processes and waits for them. Between
two commands the shell sees to signals that have come.
-/

namespace ChangelogSql.Shell

open Text (ascii)
open Files Programs Kernel

/-- How commands are run. -/
structure Setting where
  /-- Whether they fail is looked at by what they stand in. -/
  isTested : Bool
  /-- Nothing follows them in this process. -/
  isLast : Bool

namespace Setting

def plain : Setting := ⟨false, false⟩

def tested : Setting := ⟨true, false⟩

def last : Setting := ⟨false, true⟩

/-- Something follows. -/
def inner (setting : Setting) : Setting := { setting with isLast := false }

end Setting

namespace Work

/-- Puts out what is held back, and tells whether that was possible. -/
def flush : Work Bool := do
  let held := (← get).held.reverse.flatten
  modify fun state => { state with held := [] }
  if held = [] then return true
  else return (← perform (Activity.write 1 held)).isOk

/-- How many portions of what a command writes are read at most. -/
def portionLimit : Nat := 1000000

/-- Reads to the end, whatever signals come; `before` has been read, the last portion first. -/
def readAll (descriptor : Nat) : Nat → List Bytes → Work Bytes
  | 0, before => return before.reverse.flatten
  | fuel + 1, before => do
    match ← ask (Kernel.Request.read descriptor Activity.portion) with
    | .ok [] => return before.reverse.flatten
    | .ok bytes => readAll descriptor fuel (bytes :: before)
    | .error .interrupted =>
      collectSignals
      readAll descriptor fuel before
    | .error _ => return before.reverse.flatten

/-- The shell will do something when a signal comes. -/
def hasTraps : Work Bool := do
  let state ← get
  return state.traps.any fun entry => entry.2 ≠ []

/-- Does work as if it were in another place: what is told of the place is put back afterwards. -/
def elsewhere {α : Type} (command? : Option Bytes) (work : Work α) : Work α := do
  let before ← get
  modify fun state => { state with command? }
  thenAlways work <| modify fun state =>
    { state with command? := before.command?, readLine := before.readLine }

/-- Gives up because a script cannot be read on. -/
def refuse {α : Type} (complaint : Complaint) : Work α := do
  modify fun state => { state with line := complaint.line }
  fail (Bytes.ofString complaint.text)

/-- Reads the lines of a script and runs their commands; tells whether there were any. `limit`
bounds the number of lines. -/
def runLines (evaluate : Bool → Command → Work Unit) (shows : Bool) :
    Nat → Bool → Cursor → Work Bool
  | 0, hasRun, _ => return hasRun
  | limit + 1, hasRun, before => do
    let state ← get
    match Cursor.readLine { before with aliases := state.aliases, documents := [] } with
    | .error complaint => refuse complaint
    | .ok (line, cursor) =>
      if shows && state.has 'v' then
        emit 2 (before.remaining.take (before.remaining.length - cursor.remaining.length))
      modify fun state =>
        { state with
          documents := cursor.documents ++ state.documents
          nextDocument := cursor.nextDocument, readLine := cursor.line }
      match line with
      | .ended => return hasRun
      | .commands none => runLines evaluate shows limit hasRun cursor
      | .commands (some command) => do
        evaluate cursor.hasEnded command
        runLines evaluate shows limit true cursor

/-- Runs the commands in a text, with the status of the last; there is success where there are
none. -/
def runText (evaluate : Bool → Command → Work Unit) (shows : Bool) (text : Bytes) : Work Nat := do
  let state ← get
  let cursor := Cursor.start text state.aliases state.nextDocument
  let hasRun ← runLines evaluate shows (text.length + 2) false cursor
  let state ← get
  return if hasRun then state.status else 0

/-- What stands in front of the words of a command that are shown. -/
def tracePrefix (capture : Words.Capture) : Work Bytes := do
  let state ← get
  let text := state.valueOf "PS4"
  match (Cursor.start text [] state.nextDocument).readText with
  | .error _ => return text
  | .ok (word, _) => do
    set { state with isTracing := true }
    thenAlways (Words.text capture .plain word) <|
      modify fun state => { state with isTracing := false }

/-- Shows the words of a command. -/
def trace (capture : Words.Capture) (descriptor : Nat) (words : List Bytes) : Work Unit := do
  let state ← get
  if state.has 'x' && !state.isTracing then
    let lead ← tracePrefix capture
    emit descriptor (lead ++ Text.joinWith (ascii ' ') words ++ [0x0A])

/-- Gives variables values, one after the other; tells what was assigned. -/
def assignAll (capture : Words.Capture) (isLocal isGiven : Bool) :
    List (Bytes × Word) → Work (List Bytes)
  | [] => return []
  | (name, word) :: rest => do
    let value ← Words.text capture .value word
    if isLocal then
      keepLocal name
      alter name fun before => { before with value? := some value, isExported := true }
    else
      alter name fun before =>
        { before with value? := some value, isExported := before.isExported || isGiven }
    let others ← assignAll capture isLocal isGiven rest
    return (name ++ ascii '=' :: value) :: others

end Work

namespace Interpreter

/-- How deep commands and calls of functions can be nested. -/
def depthLimit : Nat := 100000

/-- What a name is taken for, as the words of the shell say it. -/
def describe (isVerbose : Bool) (places? : Option Bytes) (name : Bytes) : Work Nat := do
  let state ← get
  let tell (brief : Bytes) (verbose : String) : Work Nat := do
    Work.put ((if isVerbose then name ++ Bytes.ofString verbose else brief) ++ [0x0A])
    return 0
  if reservedWords.any fun word => Bytes.ofString word = name then
    tell name " is a shell keyword"
  else
    match state.aliases.lookup name with
    | some value =>
      if isVerbose then
        Work.put (name ++ Bytes.ofString " is an alias for " ++ value ++ [0x0A])
      else Work.put (Bytes.ofString "alias " ++ listed name value ++ [0x0A])
      return 0
    | none =>
      if state.functions.any (·.1 = name) then tell name " is a shell function"
      else
        match Builtin.find? name with
        | some entry =>
          tell name (if entry.isSpecial then " is a special shell builtin"
            else " is a shell builtin")
        | none =>
          let wasFound := state.found.any (·.1 = name)
          let found (path : Bytes) : Work Nat := do
            let verbose :=
              (if wasFound then Bytes.ofString " is a tracked alias for "
                else Bytes.ofString " is ") ++ path
            Work.put ((if isVerbose then name ++ verbose else path) ++ [0x0A])
            return 0
          let missing : Work Nat := do
            if isVerbose then
              Work.put (name ++ Bytes.ofString ": not found\n")
            return 127
          match ← findProgram name places? with
          | .here =>
            let view ← Work.ask Kernel.Request.view
            if (view.stat ⟨name⟩).isOk then found name else missing
          | .place index =>
            found ((candidates (places?.getD state.places) name)[index]?.getD name)
          | .nowhere _ => missing

/-- Tells what names mean. -/
def describeAll : Nat → List Bytes → Work Nat
  | status, [] => return status
  | status, name :: rest => do
    let here ← describe true none name
    describeAll (status ||| here) rest

/-- Tells what the name behind `command` means, as the options say. -/
def describeOne (arguments : List Bytes) : Work Nat := do
  let (given, operands) ← optionsOf "pvV" "" arguments
  let isVerbose := given.any (·.1 = 'V')
  let isAsked := isVerbose || given.any (·.1 = 'v')
  let places? :=
    if given.any (·.1 = 'p') then some (Bytes.ofString usualPlaces) else none
  match operands with
  | name :: _ => if isAsked then describe isVerbose places? name else return 0
  | [] => return 0

/-- The path of the file whose commands are to be run. -/
def sourceFile (name : Bytes) : Work Bytes := do
  if name.contains separator then return name
  else
    let view ← Work.ask Kernel.Request.view
    let found := (candidates (← get).places name).find? fun path => view.isFile ⟨path⟩
    match found with
    | some path => return path
    | none => Work.fail (name ++ Bytes.ofString ": not found")

/-- The text of a file whose commands are to be run. -/
def readFile (path : Bytes) : Work Bytes := do
  let number ← Diversion.openFile path Purpose.reading "cannot open" "No such file"
  let text ← Work.readAll number Work.portionLimit []
  let _ ← Work.ask (Kernel.Request.close number)
  return text

mutual

/-- Runs a command. -/
def evaluate (loader : Loader) : Nat → Setting → Command → Work Unit
  | 0, _, _ => Expansion.raise 11
  | fuel + 1, setting, command => do
    unless (← get).has 'n' do
      attend loader fuel
      let isChecked ← evaluateCore loader fuel setting command
      attend loader fuel
      let state ← get
      if isChecked && state.has 'e' && !setting.isTested && state.status ≠ 0 then
        throw .exited
    if setting.isLast then
      throw .exited

/-- Runs a command, and tells whether its failure by itself can end the shell. -/
def evaluateCore (loader : Loader) : Nat → Setting → Command → Work Bool
  | 0, _, _ => do
    Expansion.raise 11
    return false
  | fuel + 1, setting, command => do
    match command with
    | .simple line assignments words redirections =>
      modify fun state => { state with line, substituted := 0 }
      runSimple loader fuel setting assignments words redirections
      return true
    | .redirected line command redirections =>
      modify fun state => { state with line }
      let diversions ← divertAll loader fuel redirections
      let (saved, isDone) ← Diversion.performSaving (documentText loader fuel) diversions []
      if isDone then
        Work.thenAlways (evaluate loader fuel setting.inner command) (Diversion.restore saved)
      else
        Diversion.restore saved
        Work.setStatus 2
      return false
    | .pipeline commands isBackground =>
      let job ← Work.newJob
      runPiped loader fuel setting job isBackground none commands
      Work.setStatus (← if isBackground then pure 0 else Work.await job)
      return true
    | .background line command redirections =>
      modify fun state => { state with line }
      let diversions ← divertAll loader fuel redirections
      let job ← Work.newJob
      Work.forkFor job true <| asProcess loader fuel do
        Diversion.performAll (documentText loader fuel) diversions
        evaluate loader fuel .last command
      Work.setStatus 0
      return true
    | .subshell line command redirections =>
      modify fun state => { state with line }
      let diversions ← divertAll loader fuel redirections
      let body : Work Unit := do
        Diversion.performAll (documentText loader fuel) diversions
        evaluate loader fuel { setting with isLast := true } command
      if setting.isLast && !(← Work.hasTraps) then body
      else
        let job ← Work.newJob
        Work.forkFor job false (asProcess loader fuel body)
        Work.setStatus (← Work.await job)
      return true
    | .negated command =>
      evaluate loader fuel .tested command
      modify fun state => { state with status := if state.status = 0 then 1 else 0 }
      return false
    | .both first second =>
      evaluate loader fuel .tested first
      if (← get).status = 0 then
        evaluate loader fuel setting second
      return false
    | .either first second =>
      evaluate loader fuel .tested first
      if (← get).status ≠ 0 then
        evaluate loader fuel setting second
      return false
    | .sequence first second =>
      evaluate loader fuel setting.inner first
      evaluate loader fuel setting second
      return false
    | .choice condition consequence otherwise? =>
      evaluate loader fuel .tested condition
      if (← get).status = 0 then
        evaluate loader fuel setting consequence
      else
        match otherwise? with
        | some otherwise => evaluate loader fuel setting otherwise
        | none => Work.setStatus 0
      return false
    | .loop untilSuccess condition body =>
      Work.looping <| Work.goRound untilSuccess (evaluate loader fuel .tested condition)
        (evaluate loader fuel setting.inner body) Work.roundLimit 0
      return false
    | .iterate line name words body =>
      modify fun state => { state with line }
      let values ← Words.allFields (capture loader fuel) words
      Work.looping <| Work.iterate name (evaluate loader fuel setting.inner body) values
      if values.isEmpty then
        Work.setStatus 0
      return false
    | .select line word branches =>
      modify fun state => { state with line }
      let subject ← Words.text (capture loader fuel) .text word
      selectBranch loader fuel setting subject branches
      return false
    | .define _ name body =>
      modify fun state =>
        { state with
          functions := (name, body) :: state.functions.filter fun entry => entry.1 ≠ name
          status := 0 }
      return false

/-- Sees to signals that have come. What is done about them leaves the status as it was. -/
def attend (loader : Loader) : Nat → Work Unit
  | 0 => return ()
  | fuel + 1 => do
    Work.collectSignals
    match (← get).signals.mergeSort with
    | [] => return ()
    | signal :: rest =>
      modify fun state => { state with signals := rest }
      match (← get).traps.lookup signal with
      | none => attend loader fuel
      | some action =>
        let before ← get
        let status := before.ending?.getD before.status
        modify fun state => { state with ending? := some status }
        let restore : Work Unit :=
          modify fun state => { state with ending? := before.ending? }
        tryCatch
          (do
            let _ ← evaluateText loader fuel false action
            restore)
          fun stop => do
            restore
            match stop with
            | .returned false | .leave _ | .again _ => Work.setStatus status
            | _ => pure ()
            throw stop
        Work.setStatus status
        attend loader fuel

/-- Runs the commands in a text, and gives the status of the last. -/
def evaluateText (loader : Loader) : Nat → Bool → Bytes → Work Nat
  | 0, _, _ => return 0
  | fuel + 1, isTested, text =>
    Work.runText (fun _ => evaluate loader fuel ⟨isTested, false⟩) false text

/-- Does work as a process of its own, which ends afterwards. -/
def asProcess (loader : Loader) : Nat → Work Unit → Work Unit
  | 0, _ => return ()
  | fuel + 1, work => do
    tryCatch work fun _ => return ()
    finish loader fuel

/-- Ends the process, after what is to be done at its end. -/
def finish (loader : Loader) : Nat → Work Unit
  | 0 => return ()
  | fuel + 1 => do
    let state ← get
    let status := state.status
    match state.traps.lookup 0 with
    | none => pure ()
    | some action =>
      set { state with ending? := some status, traps := state.traps.filter (·.1 ≠ 0) }
      tryCatch
        (do
          let _ ← evaluateText loader fuel false action
          Work.setStatus status)
        fun stop =>
          match stop with
          | .exited | .failed => return ()
          | _ => Work.setStatus status
    let _ ← Work.flush
    Work.quit (← get).status

/-- Runs commands in a shell of their own and gives what they write. -/
def capture (loader : Loader) : Nat → Command → Work Bytes
  | 0, _ => return []
  | fuel + 1, command => do
    let job ← Work.newJob
    let (source, target) ← Work.ask Kernel.Request.pipe
    Work.forkFor job false <| asProcess loader fuel do
      let _ ← Work.ask (Kernel.Request.close source)
      if target ≠ 1 then
        let _ ← Work.ask (Kernel.Request.duplicate target 1)
        let _ ← Work.ask (Kernel.Request.close target)
      evaluate loader fuel .last command
    let _ ← Work.ask (Kernel.Request.close target)
    let bytes ← Work.readAll source Work.portionLimit []
    let _ ← Work.ask (Kernel.Request.close source)
    let status ← Work.await job
    modify fun state => { state with substituted := status }
    return bytes

/-- What redirections lead to. -/
def divertAll (loader : Loader) : Nat → List Redirection → Work (List Diversion)
  | 0, _ => return []
  | fuel + 1, redirections =>
    redirections.mapM (Diversion.ofRedirection (Words.text (capture loader fuel) .text))

/-- The text of a document. -/
def documentText (loader : Loader) : Nat → Word → Work Bytes
  | 0, _ => return []
  | fuel + 1, word => Words.text (capture loader fuel) .plain word

/-- Begins the processes of a pipeline, each of which reads what the one before it writes. -/
def runPiped (loader : Loader) :
    Nat → Setting → Nat → Bool → Option Nat → List Command → Work Unit
  | 0, _, _, _, _, _ => return ()
  | _, _, _, _, _, [] => return ()
  | fuel + 1, setting, job, isBackground, input?, command :: rest => do
    let pipe? ← if rest.isEmpty then pure none else some <$> Work.ask Kernel.Request.pipe
    let move (descriptor target : Nat) : Work Unit := do
      if descriptor ≠ target then
        let _ ← Work.ask (Kernel.Request.duplicate descriptor target)
        let _ ← Work.ask (Kernel.Request.close descriptor)
    Work.forkFor job isBackground <| asProcess loader fuel do
      match pipe? with
      | some (source, _) =>
        let _ ← Work.ask (Kernel.Request.close source)
      | none => pure ()
      match input? with
      | some input => move input 0
      | none => pure ()
      match pipe? with
      | some (_, target) => move target 1
      | none => pure ()
      evaluate loader fuel { setting with isLast := true } command
    match input? with
    | some input =>
      let _ ← Work.ask (Kernel.Request.close input)
    | none => pure ()
    match pipe? with
    | some (source, target) =>
      let _ ← Work.ask (Kernel.Request.close target)
      runPiped loader fuel setting job isBackground (some source) rest
    | none => return ()

/-- Runs the first branch one of whose patterns matches. -/
def selectBranch (loader : Loader) :
    Nat → Setting → Bytes → List (List Word × Option Command) → Work Unit
  | 0, _, _, _ => return ()
  | _, _, _, [] => Work.setStatus 0
  | fuel + 1, setting, subject, (patterns, command?) :: rest => do
    if ← matchesAny loader fuel subject patterns then
      match command? with
      | some command => evaluate loader fuel setting command
      | none => Work.setStatus 0
    else selectBranch loader fuel setting subject rest

/-- A text matches one of several patterns. -/
def matchesAny (loader : Loader) : Nat → Bytes → List Word → Work Bool
  | 0, _, _ => return false
  | _, _, [] => return false
  | fuel + 1, subject, word :: rest => do
    let letters ← Words.letters (capture loader fuel) .text word
    if Pattern.accepts (Pattern.ofLetters letters) subject then return true
    else matchesAny loader fuel subject rest

/-- Runs a command made of words. -/
def runSimple (loader : Loader) :
    Nat → Setting → List (Bytes × Word) → List Word → List Redirection → Work Unit
  | 0, _, _, _, _ => return ()
  | fuel + 1, setting, assignments, words, redirections => do
    let capture := capture loader fuel
    let plan ← Words.planOf capture words
    let isReplacement :=
      match plan.entry?.map Builtin.Entry.action with
      | some .replace => true
      | _ => false
    let body : Work Unit := do
      let diversions ← divertAll loader fuel redirections
      let (saved, isDone) ← Diversion.performSaving (documentText loader fuel) diversions []
      let putBack : Work Unit :=
        if isReplacement then Diversion.forget saved else Diversion.restore saved
      if !isDone then
        Work.setStatus 2
        Diversion.restore saved
        if plan.isSpecial then
          throw .failed
      else
        Work.thenAlways
          (do
            let isGiven := isReplacement && 1 < plan.own.length
            let assigned ← Work.assignAll capture plan.isLocal isGiven assignments
            let traced := ((saved.lookup 2).getD none).getD 2
            Work.trace capture traced (assigned ++ plan.fields)
            runPlan loader fuel setting plan)
          putBack
    if plan.isLocal then Work.withFrame body else body

/-- Runs what a command's words mean. -/
def runPlan (loader : Loader) : Nat → Setting → Words.Plan → Work Unit
  | 0, _, _ => return ()
  | fuel + 1, setting, plan => do
    match plan.own with
    | [] => modify fun state => { state with status := state.substituted }
    | name :: arguments =>
      let run (entry : Builtin.Entry) : Work Unit :=
        tryCatch (runEntry loader fuel setting entry name arguments) fun stop =>
          if stop = .failed && !plan.isSpecial then return () else throw stop
      match plan.entry? with
      | some entry => run entry
      | none =>
        let functions := (← get).functions
        let function? := if plan.skipsFunctions then none else functions.lookup name
        match function?, Builtin.find? name with
        | some function, _ => callFunction loader fuel setting function arguments
        | none, some entry => run entry
        | none, none =>
          match ← findProgram name plan.places? with
          | .nowhere fault =>
            Work.report (name ++ Bytes.ofString (": " ++ startFailure fault))
            Work.setStatus 127
          | whereabouts =>
            let index :=
              match whereabouts with
              | .place index => index
              | _ => 0
            if setting.isLast && !(← Work.hasTraps) then
              Launch.replace loader name arguments plan.places? index
              throw .exited
            else Launch.run loader name arguments plan.places? index

/-- Runs the body of a function with its arguments. -/
def callFunction (loader : Loader) : Nat → Setting → Command → List Bytes → Work Unit
  | 0, _, _, _ => return ()
  | fuel + 1, setting, body, arguments => do
    let before ← get
    set { before with arguments, loops := 0, optionIndex := 1, optionOffset := 0 }
    let run : Work Unit :=
      tryCatch (evaluate loader fuel setting.inner body) fun stop =>
        match stop with
        | .returned _ => return ()
        | stop => throw stop
    Work.thenAlways run <| modify fun state =>
      { state with
        arguments := before.arguments, loops := before.loops
        optionIndex := before.optionIndex, optionOffset := before.optionOffset }

/-- Runs a command of the shell. -/
def runEntry (loader : Loader) :
    Nat → Setting → Builtin.Entry → Bytes → List Bytes → Work Unit
  | 0, _, _, _, _ => return ()
  | fuel + 1, setting, entry, name, arguments =>
    Work.elsewhere (some name) do
      let status ←
        match entry.action with
        | .routine routine => routine arguments
        | .evaluate => evaluateText loader fuel setting.isTested (Text.joinWith (ascii ' ') arguments)
        | .source => source loader fuel arguments
        | .replace => do
          match ← operandsOf arguments with
          | [] => pure 0
          | program :: arguments =>
            Launch.replace loader program arguments none 0
            throw .exited
        | .describe => describeAll 0 arguments
        | .command => describeOne arguments
      let isOut ← Work.flush
      unless isOut do
        Work.report (name ++ Bytes.ofString ": I/O error")
      Work.setStatus (if isOut then status else status ||| 1)

/-- Runs the commands in a file. -/
def source (loader : Loader) : Nat → List Bytes → Work Nat
  | 0, _ => return 0
  | fuel + 1, arguments => do
    match ← operandsOf arguments with
    | [] => return 0
    | name :: _ =>
      let path ← sourceFile name
      let text ← readFile path
      modify fun state => { state with command? := some path }
      tryCatch (Work.runText (fun _ => evaluate loader fuel .plain) true text) fun stop =>
        match stop with
        | .returned _ => do
          let state ← get
          return state.status
        | stop => throw stop

end

end Interpreter

end ChangelogSql.Shell

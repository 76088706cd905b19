import ChangelogSql.Shell.Signal
import ChangelogSql.Utility.Input
import ChangelogSql.Utility.Launch
import ChangelogSql.Utility.Say

/-!
Calling one program under a condition: not longer than for a time, whatever
becomes of the terminal, with less haste. Also telling where programs are found.
-/

namespace ChangelogSql.Utility.Errand

open Text (ascii)
open Files Programs Kernel
open Tool

/-- The code for a program that could not be started. -/
def failureCode (fault : Fault) : UInt8 :=
  if fault = .notFound then 127 else 126

/-- Lets a program take the place of this one; complains where it cannot be started. -/
def hand (loader : Loader) (call : Call) (words : String) (name : Bytes)
    (arguments : List Bytes) : Tool Unit := do
  let fault ← replace loader call.environment name arguments
  warn (Bytes.ofString words ++ Quotation.quoted name ++ Bytes.ofString (": " ++ fault.reason))
  setCode (failureCode fault)

/-- The process itself. -/
def ownNumber : Tool Nat :=
  ask (Kernel.Request.look fun process _ => process.number)

/-- A process and those that it has begun, and those that they have. -/
def family (system : System) : Nat → List Nat → List Nat
  | 0, numbers => numbers
  | fuel + 1, numbers =>
    let children := (system.processes.filter fun process =>
      numbers.contains process.parent && !numbers.contains process.number).map Process.number
    if children = [] then numbers else family system fuel (numbers ++ children)

/-- Sends a signal to a process and those that it has begun. -/
def signalFamily (number signal : Nat) : Tool Unit := do
  let members ← ask (Kernel.Request.look fun _ system =>
    family system (system.processes.length + 1) [number])
  for member in members do
    let _ ← ask (Kernel.Request.send member signal)

/-- How a program is stopped that takes too long. -/
structure Deadline where
  /-- How long it is waited for the program. -/
  patience : Nat
  signal : Nat
  /-- How long it is waited once more, where the program is ended by force then. -/
  mercy? : Option Nat
  tells : Bool

/-- What is sent is told, where that is wanted. -/
def Deadline.tell (deadline : Deadline) (signal : Nat) (name : Bytes) : Tool Unit := do
  if deadline.tells then
    warn (Bytes.ofString ("sending signal " ++ Shell.Signal.name signal ++ " to command ")
      ++ Quotation.quoted name)

/-- Watches over a program until its time is up. -/
def watch (deadline : Deadline) (number : Nat) (name : Bytes) : Tool Unit := do
  let clock ← ask (Kernel.Request.look fun _ system => system.disk.clock)
  Say.sleepThrough (clock + deadline.patience) Say.repeatLimit
  deadline.tell deadline.signal name
  signalFamily number deadline.signal
  match deadline.mercy? with
  | some mercy =>
    Say.sleepThrough (clock + deadline.patience + mercy) Say.repeatLimit
    deadline.tell 9 name
    signalFamily number 9
  | none => pure ()

/-- A part of the program as a process of its own. -/
def beginPart (tool : Tool Unit) : Tool Nat := do
  flush
  let desk ← get
  let whole : Activity Unit := do
    let (_, desk) ← StateT.run (ExceptT.run tool) { desk with held := [], size := 0, code := 0 }
    Activity.exit desk.code
  perform (Activity.fork whole.task)

/-- Ends as a program ended that a signal has ended. -/
def endBy (signal : Nat) : Tool Unit := do
  let own ← ownNumber
  let _ ← ask (Kernel.Request.arrange signal .usual)
  let _ ← ask (Kernel.Request.send own signal)
  pause
  setCode (UInt8.ofNat (128 + signal))

/-- Calls a program and stops it where it takes too long. -/
def limit (loader : Loader) (call : Call) : Tool Unit := do
  let given ← leadingOptions [toggle "foreground" ["foreground"], setting "k" ["kill-after"],
    toggle "preserve" ["preserve-status"], setting "s" ["signal"], toggle "v" ["verbose"]]
    call.arguments 125
  let duration (text : Bytes) : Tool Nat := do
    match Say.duration? text with
    | some duration => return duration
    | none => misuse 125 (Bytes.ofString "invalid time interval " ++ Quotation.cited text)
  let signal ←
    match given.value? "s" with
    | none => pure 15
    | some text =>
      match Shell.Signal.ofText? 1 ((Text.afterBlock? (Bytes.ofString "SIG") text).getD text) with
      | some signal => pure signal
      | none => misuse 125 (Quotation.cited text ++ Bytes.ofString ": invalid signal")
  let mercy? ← (given.value? "k").mapM duration
  match given.operands with
  | [] | [_] =>
    hint
    setCode 125
  | time :: name :: arguments =>
    let patience ← duration time
    let deadline : Deadline := ⟨patience, signal, mercy?, given.has "v"⟩
    let number ← beginPart (hand loader call "failed to run command " name arguments)
    let guard? ←
      if patience = 0 then pure none
      else do pure (some (← beginPart (watch deadline number name)))
    let start ← ask (Kernel.Request.look fun _ system => system.disk.clock)
    let result ← ask (Kernel.Request.wait (some number) true)
    let clock ← ask (Kernel.Request.look fun _ system => system.disk.clock)
    let isLate := patience ≠ 0 && start + patience ≤ clock
    match guard? with
    | some guard =>
      let _ ← ask (Kernel.Request.send guard 9)
      let _ ← ask (Kernel.Request.wait (some guard) true)
    | none => pure ()
    match result with
    | .ok (some (_, .exited code)) =>
      setCode (if isLate && !given.has "preserve" then 124 else code)
    | .ok (some (_, .killed signal)) =>
      if signal = 9 || !isLate then endBy signal
      else setCode (if given.has "preserve" then UInt8.ofNat (128 + signal) else 124)
    | _ => setCode 125

/-- Calls a program that goes on when the terminal is gone. -/
def detach (loader : Loader) (call : Call) : Tool Unit := do
  let given ← leadingOptions [] call.arguments 125
  match given.operands with
  | [] => misuse 125 (Bytes.ofString "missing operand")
  | name :: arguments =>
    let _ ← ask (Kernel.Request.arrange 1 .ignored)
    hand loader call "failed to run command " name arguments

/-- A number with a dash in front asks for less haste. -/
def hasteForms : List Form :=
  setting "n" ["adjustment"] :: (List.range 10).map fun digit => toggle (toString digit)

/-- Calls a program with less haste, or tells how little there is. -/
def defer (loader : Loader) (call : Call) : Tool Unit := do
  let given ← leadingOptions hasteForms call.arguments 125
  match given.value? "n" with
  | some text =>
    if (Text.Ascii.integer? text).isNone then
      failWith 125 (Bytes.ofString "invalid adjustment " ++ Quotation.cited text)
  | none => pure ()
  match given.operands with
  | [] =>
    if given.options.isEmpty then putLine [ascii '0']
    else misuse 125 (Bytes.ofString "a command must be given with an adjustment")
  | name :: arguments => hand loader call "" name arguments

/-- Calls a program at the head of a session of its own. -/
def lead (loader : Loader) (call : Call) : Tool Unit := do
  let given ← leadingOptions [toggle "c" ["ctty"], toggle "f" ["fork"], toggle "w" ["wait"]]
    call.arguments 1
  match given.operands with
  | [] => misuse 1 (Bytes.ofString "no command specified")
  | name :: arguments =>
    if given.has "f" && !given.has "w" then
      let _ ← beginPart (hand loader call "failed to execute " name arguments)
    else
      let fault ← replace loader call.environment name arguments
      failWith (failureCode fault)
        (Bytes.ofString "failed to execute " ++ name ++ Bytes.ofString (": " ++ fault.reason))

/-- Calls a program that holds back more or less of what it puts out. -/
def buffer (loader : Loader) (call : Call) : Tool Unit := do
  let given ← leadingOptions [setting "i" ["input"], setting "o" ["output"],
    setting "e" ["error"]] call.arguments 125
  match given.operands with
  | [] => misuse 125 (Bytes.ofString "missing operand")
  | name :: arguments =>
    if given.options.isEmpty then
      misuse 125 (Bytes.ofString "you must specify a buffering mode option")
    hand loader call "failed to run command " name arguments

/-- Tells in which files programs are found. -/
def locate (call : Call) : Tool Unit := do
  let isOption (argument : Bytes) : Bool := argument.head? = some (ascii '-') && argument.length ≠ 1
  let options := (call.arguments.takeWhile isOption).takeWhile (· ≠ Bytes.ofString "--")
  let rest := call.arguments.drop options.length
  let names := if rest.head? = some (Bytes.ofString "--") then rest.drop 1 else rest
  let letters := options.flatMap (·.drop 1)
  if !letters.all fun letter => letter = ascii 'a' || letter = ascii 's' then
    putLine (Bytes.ofString "Usage: /usr/bin/which [-as] args")
    setCode 2
    stop
  let seen ← view
  let canRun (path : Bytes) : Bool :=
    (seen.facts true ⟨path⟩).toOption.any fun facts =>
      facts.kind ≠ .directory && facts.kind = .file && isRunnable facts.mode
  let directories := Text.splitAt (ascii ':')
    ((call.environment.lookup (Bytes.ofString "PATH")).getD [])
  if names.isEmpty then setCode 1
  for name in names do
    let files :=
      if name.contains separator then [name]
      else directories.map fun directory =>
        (if directory = [] then [ascii '.'] else directory) ++ separator :: name
    let found := files.filter canRun
    if found.isEmpty then setCode 1
    for file in if letters.contains (ascii 'a') then found else found.take 1 do
      if !letters.contains (ascii 's') then
        putLine file

end ChangelogSql.Utility.Errand

import ChangelogSql.Kernel.System

/-!
What processes can ask of the system: to open, read and write, to change the
disk, to wait for one another and to send signals. A request that has to wait
stays the same request until it can be done.
-/

namespace ChangelogSql.Kernel

open Files Programs

/-- What something is opened for. -/
structure Purpose where
  reads : Bool
  writes : Bool
  creates : Bool
  truncates : Bool
  appends : Bool
  /-- It must not be there yet. -/
  exclusive : Bool

namespace Purpose

def reading : Purpose := ⟨true, false, false, false, false, false⟩

def writing : Purpose := ⟨false, true, true, true, false, false⟩

def appending : Purpose := ⟨false, true, true, false, true, false⟩

def both : Purpose := ⟨true, true, true, false, false, false⟩

def creating : Purpose := ⟨false, true, true, false, false, true⟩

end Purpose

namespace Request

variable {α : Type}

/-- A request that can be done at once. -/
def now (answer : Process → System → α × System) : Request α := fun number system =>
  match system.process? number with
  | none => .waiting
  | some process =>
    let (answer, system) := answer process system
    .done answer system

/-- Looks at the process itself and at the system. -/
def look (answer : Process → System → α) : Request α :=
  now fun process system => (answer process system, system)

/-- What the process sees of the disk. -/
def view : Request View :=
  look fun process system => process.view system.disk

/-- Changes the process itself. -/
def alterSelf (change : Process → Process) : Request Unit :=
  now fun process system => ((), system.alterProcess process.number change)

/-- Changes the disk, or does not where that is refused. New things get what permissions the mask
leaves. -/
def change (change : View → Nat → Except Fault Disk) : Request (Except Fault Unit) :=
  now fun process system =>
    match change (process.view system.disk) process.umask with
    | .ok disk => (.ok (), { system with disk })
    | .error fault => (.error fault, system)

/-- Gives an opening the lowest free number from `least` on. -/
def bindFree (process : Process) (system : System) (least : Nat) (descriptor : Descriptor) :
    Nat × System :=
  let number := process.free least
  (number, system.alterProcess process.number (·.bind number descriptor))

/-- Opens something that is known, for the process. -/
def opened (process : Process) (system : System) (purpose : Purpose) (target : Target) :
    Except Fault Nat × System :=
  let opening : Opening := ⟨target, 0, purpose.appends, purpose.reads, purpose.writes⟩
  let (system, place) := system.addOpening opening
  let (number, system) := bindFree process system 0 ⟨place, false⟩
  (.ok number, system)

/-- Opens what a file number stands for. -/
def openFile (process : Process) (system : System) (purpose : Purpose) (number : Nat) :
    Except Fault Nat × System :=
  let disk :=
    match purpose.writes && purpose.truncates, system.disk.file? number with
    | true, some ⟨.bytes _, _, _⟩ => system.disk.setContent number (.bytes [])
    | _, _ => system.disk
  opened process { system with disk } purpose (.file number)

/-- Opens a device. A descriptor's device opens what the descriptor leads to. -/
def openDevice (process : Process) (system : System) (purpose : Purpose) :
    Device → Except Fault Nat × System
  | .terminal => (.error .noSuchDevice, system)
  | .descriptor number =>
    match system.opening? process number with
    | none => (.error .notFound, system)
    | some opening =>
      match opening.target with
      | .file number => openFile process system purpose number
      | target => opened process system purpose target
  | device => opened process system purpose (.device device)

/-- Opens a named pipe, where that can be done now: a writer waits for a reader. -/
def openQueue? (process : Process) (system : System) (purpose : Purpose) (number : Nat) :
    Option (Except Fault Nat × System) :=
  let pipe := system.pipes[number]?.getD ⟨[], false⟩
  let set (awaitsWriter : Bool) : System :=
    { system with pipes := system.pipes.setIfInBounds number { pipe with awaitsWriter } }
  if purpose.reads && purpose.writes then
    some (opened process (set false) purpose (.pipe number))
  else if purpose.reads then
    some (opened process (set (!system.hasWriter number)) purpose (.pipe number))
  else if system.hasReader number then
    some (opened process (set false) purpose (.pipe number))
  else none

/-- Opens what stands at a place, or makes a file there, where that can be done now. -/
def openPlace? (process : Process) (system : System) (path : Path) (purpose : Purpose) (mode : Nat)
    (place : Place) : Option (Except Fault Nat × System) :=
  match place.node? with
  | none =>
    if !purpose.creates then some (.error .notFound, system)
    else
      let (disk, number) := system.disk.addFile (.bytes []) (masked mode process.umask)
      let disk := disk.putFile place.location number
      some (opened process { system with disk } purpose (.file number))
  | some node =>
    if purpose.exclusive then some (.error .alreadyExists, system)
    else
      match node with
      | .file number =>
        if isTrailed path then some (.error .notDirectory, system)
        else some (openFile process system purpose number)
      | .device device => some (openDevice process system purpose device)
      | .queue number => openQueue? process system purpose number
      | .directory .. =>
        if purpose.writes then some (.error .isDirectory, system)
        else some (opened process system purpose (.directory place.location))
      | .link _ => some (.error .tooManyLinks, system)

/-- The place that a path names, to open it. A file cannot be made where a separator ends the path,
whether there is something already or not. -/
def placeToOpen (process : Process) (system : System) (path : Path) (purpose : Purpose) :
    Except Fault Place := do
  if purpose.creates && isTrailed path then
    let bytes := (path.bytes.reverse.dropWhile (· = separator)).reverse
    let _ ← system.disk.lookup false process.cwd (if bytes = [] then path else ⟨bytes⟩)
    throw .isDirectory
  system.disk.lookup (!purpose.exclusive) process.cwd path

/-- Opens a path and gives the number for it. -/
def openPath (path : Path) (purpose : Purpose) (mode : Nat) : Request (Except Fault Nat) :=
  fun number system =>
    match system.process? number with
    | none => .waiting
    | some process =>
      match placeToOpen process system path purpose with
      | .error fault => .done (.error fault) system
      | .ok place =>
        match openPlace? process system path purpose mode place with
        | some (answer, system) => .done answer system
        | none =>
          if process.isInterrupted then .done (.error .interrupted) system else .waiting

/-- Lets a number stand for nothing. -/
def close (descriptor : Nat) : Request (Except Fault Unit) :=
  now fun process system =>
    match process.descriptors.lookup descriptor with
    | none => (.error .badDescriptor, system)
    | some _ => (.ok (), system.alterProcess process.number (·.unbind descriptor))

/-- Lets another number stand for the same opening. -/
def duplicate (source target : Nat) : Request (Except Fault Unit) :=
  now fun process system =>
    match process.descriptors.lookup source with
    | none => (.error .badDescriptor, system)
    | some descriptor =>
      (.ok (), system.alterProcess process.number (·.bind target ⟨descriptor.opening, false⟩))

/-- Lets the lowest free number from `least` on stand for the same opening. -/
def duplicateFree (source least : Nat) (isPrivate : Bool) : Request (Except Fault Nat) :=
  now fun process system =>
    match process.descriptors.lookup source with
    | none => (.error .badDescriptor, system)
    | some descriptor =>
      let (number, system) := bindFree process system least ⟨descriptor.opening, isPrivate⟩
      (.ok number, system)

/-- Makes a pipe: the number to read from and the number to write to. -/
def pipe : Request (Nat × Nat) :=
  now fun process system =>
    let pipe := Target.pipe system.pipes.size
    let system := { system with pipes := system.pipes.push ⟨[], false⟩ }
    let (system, readPlace) := system.addOpening ⟨pipe, 0, false, true, false⟩
    let (system, writePlace) := system.addOpening ⟨pipe, 0, false, false, true⟩
    let first := process.free 0
    let process := process.bind first ⟨readPlace, false⟩
    let second := process.free 0
    let process := process.bind second ⟨writePlace, false⟩
    ((first, second), system.alterProcess process.number fun _ => process)

/-- Makes a pipe that has a name. -/
def makeQueue (path : Path) : Request (Except Fault Unit) :=
  now fun process system =>
    match system.disk.lookup false process.cwd path with
    | .error fault => (.error fault, system)
    | .ok place =>
      match place.node? with
      | some _ => (.error .alreadyExists, system)
      | none =>
        let disk := system.disk.put place.location (.queue system.pipes.size) rfl
        (.ok (), { system with disk, pipes := system.pipes.push ⟨[], false⟩ })

/-- The system with an opening's place moved. -/
def moveTo (system : System) (place offset : Nat) : System :=
  match system.openings[place]? with
  | some opening =>
    { system with openings := system.openings.setIfInBounds place { opening with offset } }
  | none => system

/-- Reads up to `count` bytes; none of them mean that there are no more. -/
def read (descriptor count : Nat) : Request (Except Fault Bytes) := fun number system =>
  match system.process? number with
  | none => .waiting
  | some process =>
    match process.descriptors.lookup descriptor with
    | none => .done (.error .badDescriptor) system
    | some ⟨place, _⟩ =>
      match system.openings[place]? with
      | none => .done (.error .badDescriptor) system
      | some opening =>
        if !opening.reads then .done (.error .badDescriptor) system
        else
          match opening.target with
          | .stream _ => .done (.ok []) system
          | .directory _ => .done (.error .isDirectory) system
          | .device .nothing => .done (.ok []) system
          | .device _ => .done (.ok (List.replicate count 0)) system
          | .file file =>
            match system.disk.contentOf file with
            | .error fault => .done (.error fault) system
            | .ok bytes =>
              let here := (bytes.drop opening.offset).take count
              .done (.ok here) (moveTo system place (opening.offset + here.length))
          | .pipe pipe =>
            let held := system.pipes[pipe]?.getD ⟨[], false⟩
            match held.bytes with
            | [] =>
              if !system.hasWriter pipe && !held.awaitsWriter then .done (.ok []) system
              else if process.isInterrupted then .done (.error .interrupted) system
              else .waiting
            | bytes =>
              .done (.ok (bytes.take count))
                { system with
                  pipes := system.pipes.setIfInBounds pipe
                    { held with bytes := bytes.drop count } }

/-- How many bytes a pipe holds at most. -/
def pipeLimit : Nat := 65536

/-- The bytes of a file after others were written at a place; what lies between is zeros. -/
def overwritten (old new : Bytes) (offset : Nat) : Bytes :=
  old.take offset ++ List.replicate (offset - old.length) 0 ++ new
    ++ old.drop (offset + new.length)

/-- Writes bytes and tells how many of them have been taken. A process that writes to a pipe from
which nobody can read is told so by a signal. -/
def write (descriptor : Nat) (bytes : Bytes) : Request (Except Fault Nat) := fun number system =>
  match system.process? number with
  | none => .waiting
  | some process =>
    match process.descriptors.lookup descriptor with
    | none => .done (.error .badDescriptor) system
    | some ⟨place, _⟩ =>
      match system.openings[place]? with
      | none => .done (.error .badDescriptor) system
      | some opening =>
        if !opening.writes then .done (.error .badDescriptor) system
        else
          match opening.target with
          | .stream stream =>
            .done (.ok bytes.length) { system with written := (stream, bytes) :: system.written }
          | .directory _ => .done (.error .badDescriptor) system
          | .device .full => .done (.error .noSpace) system
          | .device _ => .done (.ok bytes.length) system
          | .file file =>
            match (system.disk.file? file).map File.content with
            | some (.bytes old) =>
              let offset := if opening.appends then old.length else opening.offset
              let disk := system.disk.setContent file (.bytes (overwritten old bytes offset))
              .done (.ok bytes.length) (moveTo { system with disk } place (offset + bytes.length))
            | _ => .done (.error .inputOutput) system
          | .pipe pipe =>
            if !system.hasReader pipe then
              if process.ignored.contains 13 then .done (.error .brokenPipe) system
              else .done (.error .brokenPipe) (system.deliver process 13)
            else
              let held := system.pipes[pipe]?.getD ⟨[], false⟩
              let room := pipeLimit - held.bytes.length
              if room = 0 then
                if process.isInterrupted then .done (.error .interrupted) system else .waiting
              else
                let taken := bytes.take room
                .done (.ok taken.length)
                  { system with
                    pipes := system.pipes.setIfInBounds pipe
                      { held with bytes := held.bytes ++ taken } }

/-- Moves the place in what is open. -/
def seek (descriptor : Nat) (offset : Nat) : Request (Except Fault Unit) :=
  now fun process system =>
    match process.descriptors.lookup descriptor with
    | none => (.error .badDescriptor, system)
    | some ⟨place, _⟩ =>
      match system.openings[place]?.map Opening.target with
      | some (.file _) => (.ok (), moveTo system place offset)
      | some (.device _) | some (.directory _) => (.ok (), system)
      | _ => (.error .illegalSeek, system)

/-- Goes to another working directory. -/
def enter (path : Path) : Request (Except Fault Unit) :=
  now fun process system =>
    match system.disk.lookup true process.cwd path with
    | .error fault => (.error fault, system)
    | .ok place =>
      match place.node? with
      | none => (.error .notFound, system)
      | some (.directory ..) =>
        (.ok (), system.alterProcess process.number ({ · with cwd := place.location }))
      | some _ => (.error .notDirectory, system)

/-- Waits for the end of a child, or of any, and tells which one ended and how. Where `blocks` is not
set, it is only asked whether one has ended. -/
def wait (which? : Option Nat) (blocks : Bool) :
    Request (Except Fault (Option (Nat × Status))) := fun number system =>
  let isMeant (process : Process) : Bool :=
    process.parent = number && which?.all (· = process.number)
  let children := system.processes.filter isMeant
  let ended := children.findSome? fun child => child.ended?.map (child.number, ·)
  match ended with
  | some (child, status) =>
    .done (.ok (some (child, status)))
      { system with processes := system.processes.filter (·.number ≠ child) }
  | none =>
    if children.isEmpty then .done (.error .noChild) system
    else if !blocks then .done (.ok none) system
    else
      match system.process? number with
      | some process =>
        if process.isInterrupted then .done (.error .interrupted) system else .waiting
      | none => .waiting

/-- Sends a signal to a process. -/
def send (target signal : Nat) : Request (Except Fault Unit) :=
  now fun _ system =>
    match system.process? target with
    | none => (.error .noSuchProcess, system)
    | some process => (.ok (), system.deliver process signal)

/-- What is to be done about a signal. -/
inductive Disposition where
  | usual
  | ignored
  | caught
  deriving DecidableEq

/-- Makes arrangements for a signal. -/
def arrange (signal : Nat) (disposition : Disposition) : Request Unit :=
  alterSelf fun process =>
    let ignored := process.ignored.filter (· ≠ signal)
    let caught := process.caught.filter (· ≠ signal)
    match disposition with
    | .usual => { process with ignored, caught }
    | .ignored => { process with ignored := signal :: ignored, caught }
    | .caught => { process with ignored, caught := signal :: caught }

/-- The signals that have come since this was asked last. -/
def takeSignals : Request (List Nat) :=
  now fun process system =>
    (process.pending, system.alterProcess process.number ({ · with pending := [] }))

/-- Waits for a time, unless a signal comes. -/
def sleepUntil (time : Nat) : Request (Except Fault Unit) := fun number system =>
  match system.process? number with
  | none => .waiting
  | some process =>
    if time ≤ system.disk.clock then .done (.ok ()) system
    else if process.isInterrupted then .done (.error .interrupted) system
    else .asleep time

end Request

end ChangelogSql.Kernel

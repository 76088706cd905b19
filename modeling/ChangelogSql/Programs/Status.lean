/-!
How a process ended: with an exit code, or by a signal.
-/

namespace ChangelogSql.Programs

inductive Status where
  | exited (code : UInt8)
  | killed (signal : Nat)
  deriving DecidableEq

/-- The signals by number, from the first. -/
def signalNames : List String :=
  ["HUP", "INT", "QUIT", "ILL", "TRAP", "ABRT", "BUS", "FPE", "KILL", "USR1", "SEGV", "USR2",
    "PIPE", "ALRM", "TERM", "STKFLT", "CHLD", "CONT", "STOP", "TSTP", "TTIN", "TTOU", "URG",
    "XCPU", "XFSZ", "VTALRM", "PROF", "WINCH", "IO", "PWR", "SYS"]

/-- What the signals mean, in the same order. -/
def signalDescriptions : List String :=
  ["Hangup", "Interrupt", "Quit", "Illegal instruction", "Trace/breakpoint trap", "Aborted",
    "Bus error", "Floating point exception", "Killed", "User defined signal 1",
    "Segmentation fault", "User defined signal 2", "Broken pipe", "Alarm clock", "Terminated",
    "Stack fault", "Child exited", "Continued", "Stopped (signal)", "Stopped",
    "Stopped (tty input)", "Stopped (tty output)", "Urgent I/O condition",
    "CPU time limit exceeded", "File size limit exceeded", "Virtual timer expired",
    "Profiling timer expired", "Window changed", "I/O possible", "Power failure",
    "Bad system call"]

namespace Status

/-- The process ended by itself and with code zero. -/
def success (status : Status) : Bool :=
  status = .exited 0

/-- The exit code, where there is one. -/
def code? : Status → Option Nat
  | .exited code => some code.toNat
  | .killed _ => none

/-- The signal that ended the process, where one did. -/
def signal? : Status → Option Nat
  | .exited _ => none
  | .killed signal => some signal

/-- The name of a signal in brackets, or nothing for a number without a name. -/
def signalNote (signal : Nat) : String :=
  match signal with
  | 0 => ""
  | number + 1 =>
    match signalNames[number]? with
    | some name => " (SIG" ++ name ++ ")"
    | none => ""

def message : Status → String
  | .exited code => "exit status: " ++ toString code.toNat
  | .killed signal => "signal: " ++ toString signal ++ signalNote signal

end Status

end ChangelogSql.Programs

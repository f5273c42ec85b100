import Pipework.Rehearsal.Script.Scope

namespace Pipework.Signal

/-- A signal: its number, its name, and what is said about a job that it has ended. -/
structure Info where
  number : Nat
  name : String
  description : String
deriving DecidableEq, Repr

def all : List Info := [
  ⟨1, "HUP", "Hangup"⟩, ⟨2, "INT", "Interrupt"⟩, ⟨3, "QUIT", "Quit"⟩,
  ⟨4, "ILL", "Illegal instruction"⟩, ⟨5, "TRAP", "Trace/breakpoint trap"⟩, ⟨6, "ABRT", "Aborted"⟩,
  ⟨7, "BUS", "Bus error"⟩, ⟨8, "FPE", "Floating point exception"⟩, ⟨9, "KILL", "Killed"⟩,
  ⟨10, "USR1", "User defined signal 1"⟩, ⟨11, "SEGV", "Segmentation fault"⟩,
  ⟨12, "USR2", "User defined signal 2"⟩, ⟨13, "PIPE", "Broken pipe"⟩, ⟨14, "ALRM", "Alarm clock"⟩,
  ⟨15, "TERM", "Terminated"⟩, ⟨16, "STKFLT", "Stack fault"⟩, ⟨17, "CHLD", "Child exited"⟩,
  ⟨18, "CONT", "Continued"⟩, ⟨19, "STOP", "Stopped (signal)"⟩, ⟨20, "TSTP", "Stopped"⟩,
  ⟨21, "TTIN", "Stopped (tty input)"⟩, ⟨22, "TTOU", "Stopped (tty output)"⟩,
  ⟨23, "URG", "Urgent I/O condition"⟩, ⟨24, "XCPU", "CPU time limit exceeded"⟩,
  ⟨25, "XFSZ", "File size limit exceeded"⟩, ⟨26, "VTALRM", "Virtual timer expired"⟩,
  ⟨27, "PROF", "Profiling timer expired"⟩, ⟨28, "WINCH", "Window changed"⟩,
  ⟨29, "IO", "I/O possible"⟩, ⟨30, "PWR", "Power failure"⟩, ⟨31, "SYS", "Bad system call"⟩]

def interrupt : Nat := 2

def kill : Nat := 9

def brokenPipe : Nat := 13

def terminate : Nat := 15

def goOn : Nat := 18

def stops (number : Nat) : Bool := 19 ≤ number && number ≤ 22

def isHarmless (number : Nat) : Bool := [0, 17, 18, 23, 28].contains number

def number? (s : String) : Option Nat :=
  match Script.integer? s with
  | some n => if 0 ≤ n ∧ n ≤ 64 then some n.toNat else none
  | none =>
    if s = "EXIT" then some 0
    else (all.find? (·.name == s.toUpper)).map (·.number)

/-- What is said about a job that a signal has ended. Some ends are too usual for words. -/
def notice? (number : Nat) : Option String :=
  if number = interrupt ∨ number = brokenPipe then none
  else
    let info := all.find? (·.number == number)
    some ((info.map (·.description)).getD s!"Unknown signal {number}")

end Pipework.Signal

import Pipework.Program.Basic
import Pipework.Rehearsal

namespace Pipework

/-- What the program learns of a rehearsal. -/
def Rehearsal.report (r : Rehearsal) : LaunchReport where
  launch := r.launch
  isInterrupted := r.isInterrupted
  elapsed := .ofMilliseconds (r.machine.clock / 1000)
  files := r.files

/-- Runs the program on the machine of rehearsals. -/
def Program.run (files : FileTree) (args : List Bytes) (environment : Option Bytes) :
    ProgramOutcome :=
  runOn (fun files mode limit specs => (Rehearsal.run files mode limit specs).report) files args
    environment

end Pipework

import Household.Command.Answer
import Household.Command.Line
import Household.Command.Validate
import Household.Command.Watch
import Household.Layer.Home

/-! # The program

Reads files and the environment, runs a command, and prints its outcome.
-/

set_option autoImplicit false

namespace Household.Command

def contentOf (path : String) : IO (Option (List UInt8)) := do
  try return some (← IO.FS.readBinFile path).toList
  catch _ => return none

def timing : IO Timing := do
  let interval ← IO.getEnv Timing.intervalVariable
  let debounce ← IO.getEnv Timing.debounceVariable
  return Timing.usual.overriddenBy fun name =>
    if name = Timing.intervalVariable then interval
    else if name = Timing.debounceVariable then debounce
    else none

def printOutcome (o : Outcome) : IO UInt32 := do
  IO.print o.output
  match o.failure with
  | none => return 0
  | some failure =>
    IO.eprintln ("Error: " ++ failure.message)
    return 1

def printNow (texts : List String) : IO Unit := do
  IO.print (lines texts)
  (← IO.getStdout).flush

/-- Looks at the document until the program is stopped. -/
partial def keepWatching (w : Watcher) (step : Nat) : IO Unit := do
  let (events, w) := (w.poll (← IO.monoMsNow) (← contentOf w.path)).drain
  printNow (events.map watchLine)
  IO.sleep (UInt32.ofNat step)
  keepWatching w step

def watch (path : String) : IO UInt32 := do
  let content ← contentOf path
  match Layers.load path content with
  | .error fault => printOutcome ⟨"", some (.load fault)⟩
  | .ok layers =>
    let timing ← timing
    printNow (watchOpening path timing layers.summary)
    keepWatching (.start path timing.debounce layers content) timing.step
    return 0

def run (l : Line) (task : Task) : IO UInt32 := do
  let configured ← IO.getEnv "HEARTH_CONFIG"
  let home ← IO.getEnv "HOME"
  let path := ((l.value? .document).or configured).getD (Home.document home)
  match task with
  | .validate => printOutcome (validate path (← contentOf path))
  | .resolve options merged => printOutcome (resolve path (← contentOf path) options merged)
  | .transform options draft => printOutcome (adapt path (← contentOf path) options draft)
  | .watch => watch path

end Household.Command

open Household.Command in
def main (words : List String) : IO UInt32 := do
  match Line.read words >>= fun l => (Task.ofLine l).map (l, ·) with
  | .ok (l, task) => run l task
  | .error fault =>
    IO.eprintln ("Error: " ++ fault.message)
    return 2

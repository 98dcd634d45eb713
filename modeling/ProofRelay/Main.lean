import ProofRelay.CommandLine.Console
import ProofRelay.CommandLine.Run
import ProofRelay.Json.Reader
import ProofRelay.Rehearsal.Scene

/-!
# The program

The command line in a rehearsed world: the scene is a document on the standard input, and what
the operator would see goes to the two channels.

## Main definitions

* `rehearse` : a run of the command line in a scene.
* `main` : the program.
-/

namespace ProofRelay

open CommandLine Rehearsal

/-- The directory in which a rehearsal takes place. -/
def rehearsalRoot : Location := ["rehearsal"]

/-- More rounds and polls than a rehearsal needs. -/
def rehearsalBound : Nat := 1000000

/-- What a rehearsal shows: the texts of the two channels, and the exit status. -/
structure Rehearsed where
  /-- The text of the first channel. -/
  out : String
  /-- The text of the second channel. -/
  err : String
  /-- The exit status. -/
  status : Nat

/-- A run of the command line in a scene. -/
def rehearse (scene : Json) (arguments : List String) : Rehearsed :=
  let before := Scene.world rehearsalRoot scene
  let verbose := Invocation.asksForDetails before.files arguments
  let (result, after) := (commandLine "blockprover" rehearsalBound arguments).run.run before
  let events := after.journal.reverse
  let seen := fun (more : String) (status : Nat) =>
    (⟨shownOut events, shownErr verbose events ++ more, status⟩ : Rehearsed)
  match result with
  | .ok status => seen "" status.number
  | .error (.fault f) => seen (f.report ++ "\n") 1
  | .error .endless => seen "" 1

end ProofRelay

open ProofRelay in
/-- The program: it reads the scene, runs the command line, and ends with its exit status. -/
def main (arguments : List String) : IO UInt32 := do
  let input ← (← IO.getStdin).readToEnd
  match Json.read input with
  | .error _ =>
    IO.eprintln "the scene on the standard input is no document"
    return 2
  | .ok scene =>
    let seen := rehearse scene arguments
    IO.print seen.out
    IO.eprint seen.err
    return seen.status.toUInt32

import ProofRelay.Fault
import ProofRelay.Json.Compare
import ProofRelay.Json.Display
import ProofRelay.Json.Equality
import ProofRelay.Plan.Basic

/-!
# Plans that fit together

A plan is accepted when its prover names a path for the proof and its verifier reads from the
prover, exactly at that path.

## Main definitions

* `Task.value?` : the value of an argument.
* `Plan.check` : the first thing in which the two tasks do not fit.
-/

namespace ProofRelay

/-- The value of the first argument of a name, unless it is nothing. -/
def Task.value? (t : Task Json) (name : String) : Option Json :=
  ((t.arguments.find? fun a => a.name.same (.str name)).map (·.value)).filter (· ≠ .null)

/-- The program and the file of the bindings to another task, in order. -/
def Task.sources (t : Task Json) : List (Json × Json) :=
  t.inputs.filterMap fun
    | .produced program file => some (program, file)
    | .fetched .. => none

/-- Whether a binding of the verifier reads the proof from the prover. -/
def checkSource (prover proof : Json) (source : Json × Json) : Except Fault Unit :=
  if !source.1.same prover then
    .error (.value ("verifier reads from program " ++ source.1.shown ++ ", prover is " ++
      prover.shown))
  else if !source.2.same proof then
    .error (.value ("verifier reads " ++ source.2.shown ++ ", prover writes " ++ proof.shown))
  else .ok ()

/-- The checks of all bindings, up to the first that fails. -/
def checkSources (prover proof : Json) : List (Json × Json) → Except Fault Unit
  | [] => .ok ()
  | s :: ss =>
    match checkSource prover proof s with
    | .error e => .error e
    | .ok () => checkSources prover proof ss

/-- The first thing in which the two tasks do not fit. -/
def Plan.check (p : Plan Json) : Except Fault Unit :=
  match p.prover.value? proofFlag with
  | none => .error (.value "prover task declares no proof output path")
  | some proof =>
    if p.verifier.sources.isEmpty then
      .error (.value "verifier task has no output binding from the prover")
    else checkSources p.prover.program proof p.verifier.sources

end ProofRelay

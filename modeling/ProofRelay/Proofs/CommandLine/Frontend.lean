import ProofRelay.CommandLine.Run
import ProofRelay.Proofs.CommandLine.Arguments
import ProofRelay.Proofs.Decimal.Reading
import ProofRelay.Proofs.World.Conduct

/-!
# What is asked of a frontend

The commands rely on little of what reads the words of a command line and draws tables.  Each of
these things has a name here, so that a theorem on commands can say which of them it needs; the
usual frontend does them all.

## Main definitions

* `Frontend.ChecksNumbers` : numbers for the command that runs jobs are checked.
* `Frontend.HeedsLast` : of two options for malformed verifications the last one counts.
* `Frontend.TakesWords`, `Frontend.TakesValues` : words and values are read as they are.
* `Frontend.DrawsSummaries` : the table of a run can be drawn.

## Main results

* `Frontend.usual_checksNumbers`, `Frontend.usual_heedsLast`, `Frontend.usual_takesWords`,
  `Frontend.usual_takesValues`, `Frontend.usual_drawsSummaries` : the usual frontend.
-/

namespace ProofRelay.CommandLine.Frontend

open ProofRelay.Decimal

variable (c : Frontend)

/-- Whether the command that runs jobs is told numbers in their ranges only. -/
def ChecksNumbers : Prop :=
  ∀ arguments t, c.runTask arguments = .ok t → t.IsSound

/-- Whether the last of the two options for malformed verifications says whether one ends a run. -/
def HeedsLast : Prop :=
  ∀ arguments t, c.runTask arguments = .ok t →
    ∃ a, readArguments (RunTask.parameters.filterMap (·.form)) true arguments = .ok a ∧
      t.halt = RunTask.saidAboutMalformed a

/-- Whether a word that does not begin with a dash is read as the transaction. -/
def TakesWords : Prop :=
  ∀ transaction : String, transaction.toList.head? ≠ some '-' →
    c.resultTask [transaction] = .ok ⟨transaction⟩

/-- Whether a checksum and a block behind their options are read as these, if the number of the
block is not too long to be read. -/
def TakesValues : Prop :=
  ∀ (checksum : String) (pretty : Bool) (n : Nat), (toString n).toList.length ≤ digitLimit →
    c.planTask (PlanTask.argumentsFor checksum (toString n) pretty) =
      .ok ⟨checksum, some n, none, none, pretty⟩

/-- What is drawn of the blocks that were done, in an environment. -/
def drawn (environment : List (String × String)) (tally : Tally) : Except Fault (List String) :=
  c.draw environment (summary tally)

/-- Whether the blocks that were done can be drawn in an environment. -/
def DrawsSummaries (environment : List (String × String)) : Prop :=
  ∀ tally, ∃ lines, c.drawn environment tally = .ok lines

/-! ### The usual frontend -/

theorem usual_checksNumbers : usual.ChecksNumbers :=
  fun _ _ => RunTask.isSound_of_readAll

theorem usual_heedsLast : usual.HeedsLast :=
  fun _ _ => RunTask.halt_of_readAll

theorem usual_takesWords : usual.TakesWords :=
  fun _ => ResultTask.readAll_word

theorem usual_takesValues : usual.TakesValues := by
  intro checksum pretty n short
  refine PlanTask.readAll_argumentsFor checksum pretty ?_
  rw [wholeFrom, readInt_toString short]
  exact if_neg (by omega)

/-- Where the variables for the size of the screen can be read, everything can be drawn. -/
theorem usual_drawsSummaries {environment : List (String × String)}
    (room : (Screen.canvas environment).toOption.isSome = true) :
    usual.DrawsSummaries environment := by
  intro tally
  obtain ⟨canvas, found⟩ := Option.isSome_iff_exists.mp room
  refine ⟨(summary tally).drawnOn canvas, ?_⟩
  change (Screen.canvas environment >>= fun canvas => pure ((summary tally).drawnOn canvas)) = _
  rw [eq_ok_of_toOption found]
  rfl

end ProofRelay.CommandLine.Frontend

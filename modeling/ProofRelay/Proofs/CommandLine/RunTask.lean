import ProofRelay.CommandLine.Commands

/-!
# What the command that runs jobs is told

The command is given numbers that were checked when they were read: a first block that is not
negative, at least one block to be done, and a first delay that is positive.  What it is told is
laid over the settings; their schedule stays usable.

## Main definitions

* `RunTask.IsSound` : what is true of all that the command is told.
* `RunTask.onTopOf` : the settings of the files with what the command is told on top.

## Main results

* `RunTask.settingsOver_eq` : these are the settings of the command.
-/

namespace ProofRelay.CommandLine.RunTask

variable {t : RunTask}

/-- What is true of all that the command is told. -/
structure IsSound (t : RunTask) : Prop where
  /-- The first block is no negative one. -/
  start : ∀ n, t.start = some n → 0 ≤ n
  /-- At least one block is wanted. -/
  limit : ∀ n, t.limit = some n → 1 ≤ n
  /-- The first delay is positive. -/
  interval : ∀ x, t.interval = some x → ¬ x ≤ 0

/-- The settings of the files with what the command is told on top. -/
def onTopOf (t : RunTask) (s : Settings) : Settings :=
  { s with
    poll := { s.poll with
      interval := t.interval.getD s.poll.interval
      maxWait := t.maxWait <|> s.poll.maxWait }
    haltOnMalformed := t.halt.getD s.haltOnMalformed }

/-- A usable schedule stays usable with a first delay that is positive. -/
theorem settingsOver_eq (sound : t.IsSound) {s : Settings} (usable : s.poll.refusal? = none) :
    t.settingsOver s = .ok (t.onTopOf s) := by
  obtain ⟨positive, grows⟩ : ¬ s.poll.interval ≤ 0 ∧ ¬ s.poll.factor < 1 := by
    rw [PollPolicy.refusal?] at usable
    split at usable
    · cases usable
    · split at usable
      · cases usable
      · exact ⟨‹_›, ‹_›⟩
  have delay : ¬ t.interval.getD s.poll.interval ≤ 0 := by
    cases given : t.interval with
    | none => exact positive
    | some x => exact sound.interval x given
  have accepted : (t.onTopOf s).poll.refusal? = none := by
    rw [PollPolicy.refusal?, onTopOf, if_neg delay, if_neg grows]
  rw [settingsOver]
  change (t.onTopOf s).poll.checked >>= _ = _
  rw [PollPolicy.checked, accepted]
  rfl

end ProofRelay.CommandLine.RunTask

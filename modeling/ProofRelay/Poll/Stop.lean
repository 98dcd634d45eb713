/-!
# Requests to stop

A caller may ask a run to stop: the request is raised by someone, or counts as raised from a time
on.  A delay ends at the moment at which there is a request.  As the delays of a schedule, both are
stated over any type of numbers.

## Main definitions

* `StopRequest` : a request to stop.
* `StopRequest.isDue` : whether it counts as raised at a time.
* `Pause`, `Pause.under` : how a delay goes under a request to stop.
-/

namespace ProofRelay

/-- A request to stop, which is raised by someone or at a time. -/
structure StopRequest (α : Type := Float) where
  /-- Whether it was raised. -/
  raised : Bool
  /-- The time from which on it counts as raised. -/
  due : Option α
  deriving Repr

namespace StopRequest

variable {α : Type}

/-- Whether a request counts as raised at a time. -/
def isDue [LE α] [DecidableLE α] (r : StopRequest α) (time : α) : Bool :=
  r.raised ||
    match r.due with
    | some t => t ≤ time
    | none => false

theorem isDue_iff [LE α] [DecidableLE α] {r : StopRequest α} {time : α} :
    r.isDue time = true ↔ r.raised = true ∨ ∃ t, r.due = some t ∧ t ≤ time := by
  rw [isDue, Bool.or_eq_true]
  cases r.due <;> simp

/-- A request that was raised. -/
def raise (r : StopRequest α) : StopRequest α :=
  { r with raised := true }

end StopRequest

/-- How a delay goes. -/
structure Pause (α : Type) where
  /-- The time slept, if a sleep was begun. -/
  slept : Option α
  /-- The time at the end. -/
  ends : α
  /-- Whether a request to stop cut it short. -/
  cut : Bool
  deriving DecidableEq, Repr

namespace Pause

variable {α : Type} [LE α] [DecidableLE α] [Add α] [Sub α] {stop : Option (StopRequest α)}
  {time seconds : α}

/-- A delay of some seconds that is begun at a time: a request to stop that is there already leaves
nothing of it, and one that comes in time ends it. -/
def under (stop : Option (StopRequest α)) (time seconds : α) : Pause α :=
  if stop.any (·.isDue time) then ⟨none, time, true⟩
  else
    match stop.bind (·.due) with
    | none => ⟨some seconds, time + seconds, false⟩
    | some due =>
      if due ≤ time + seconds then ⟨some (due - time), due, true⟩
      else ⟨some seconds, time + seconds, false⟩

/-- Nobody cuts a delay short who cannot ask to stop. -/
theorem under_none : under none time seconds = ⟨some seconds, time + seconds, false⟩ := rfl

/-- A delay that is not cut short is slept to its end. -/
theorem under_of_not_cut (h : (under stop time seconds).cut = false) :
    under stop time seconds = ⟨some seconds, time + seconds, false⟩ := by
  rw [under] at h ⊢
  split at h
  · cases h
  · next early =>
    rw [if_neg early]
    split at h
    · rfl
    · split at h
      · cases h
      · next late => exact if_neg late

/-- There is no request to stop at the end of a delay that is not cut short. -/
theorem not_isDue_of_not_cut (h : (under stop time seconds).cut = false) :
    stop.any (·.isDue (time + seconds)) = false := by
  rw [under] at h
  split at h
  · cases h
  · next early =>
    cases stop with
    | none => rfl
    | some r =>
      rw [Bool.not_eq_true, Option.any_some] at early
      rw [Option.any_some, Bool.eq_false_iff, Ne, StopRequest.isDue_iff]
      rintro (raised | ⟨t, due, inTime⟩)
      · have there : r.isDue time = true := StopRequest.isDue_iff.mpr (.inl raised)
        rw [there] at early
        cases early
      · simp only [Option.bind_some, due, if_pos inTime] at h
        cases h

end Pause

end ProofRelay

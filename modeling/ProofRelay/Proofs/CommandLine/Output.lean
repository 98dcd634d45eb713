import ProofRelay.CommandLine.Commands
import ProofRelay.CommandLine.Console
import ProofRelay.Proofs.Job.Questions

/-!
# What a command writes

The first channel holds what a command writes for the operator, in the order in which it is written
and as the channel passes it on.  Log lines and questions leave it alone, so that a command writes
nothing there before it has its answer.

## Main definitions

* `World.shown` : the text on the first channel.
* `Activity.Silent` : activities that leave it alone.

## Main results

* `World.shown_note_out` : a line is written behind the text that is there.
* `runTool_silent`, `pollOnce_silent` : calls and polls are silent.
-/

namespace ProofRelay

open Activity CommandLine

/-! ### The first channel -/

section Shown

variable (echo : Echo) (w : World)

/-- The text on the first channel, which passes texts on in some way. -/
def World.shown : String :=
  echo.out w.journal.reverse

theorem World.shown_note (e : Event) : (w.note e).shown echo = w.shown echo ++ echo.outText e := by
  simp only [World.shown, World.note, Echo.out, List.reverse_cons, List.map_append, List.map_cons,
    List.map_nil, String.join_append, String.join_cons, String.join_nil, String.append_empty]

/-- A report of a problem goes elsewhere. -/
theorem World.shown_note_err (text : String) : (w.note (.err text)).shown echo = w.shown echo :=
  (w.shown_note echo _).trans String.append_empty

/-- A line is written behind the text that is there. -/
theorem World.shown_note_out (text : String) :
    (w.note (.out text)).shown echo = w.shown echo ++ echo.pass text :=
  w.shown_note echo _

end Shown

/-! ### Silent activities -/

namespace Activity

variable {α β : Type} {a : Activity α} {f : α → Activity β}

/-- Whether an activity leaves the first channel alone. -/
def Silent (a : Activity α) : Prop :=
  ∀ echo w, (a.runIn w).2.shown echo = w.shown echo

theorem Silent.of_leaves (h : ∀ w, (a.runIn w).2 = w) : a.Silent :=
  fun echo w => congrArg (World.shown echo) (h w)

theorem Silent.pure (x : α) : Silent (Pure.pure x : Activity α) := .of_leaves fun _ => rfl

theorem Silent.fail (f : Fault) : Silent (fail f : Activity α) := .of_leaves fun _ => rfl

theorem Silent.get : Silent (get : Activity World) := .of_leaves fun _ => rfl

theorem Silent.ofExcept (x : Except Fault α) : Silent (ofExcept x) :=
  .of_leaves fun w => by rw [runIn_ofExcept]

theorem Silent.log (level : Level) (source message : String) : Silent (log level source message) :=
  fun echo w => by
    change (w.note _).shown echo = _
    rw [World.shown_note]
    exact String.append_empty

theorem Silent.bind (h : a.Silent) (hf : ∀ x, (f x).Silent) : (a >>= f).Silent := by
  intro echo w
  have first := h echo w
  rw [runIn_bind]
  rcases ran : a.runIn w with ⟨i | x, w₁⟩ <;> rw [ran] at first
  · exact first
  · exact (hf x echo w₁).trans first

end Activity

/-- A reply leaves the first channel alone. -/
theorem World.shown_afterReply (echo : Echo) (w : World) (c : ToolCall) (reply : ToolReply) :
    (w.afterReply c reply).shown echo = w.shown echo := by
  have quiet : ∀ (v : World) (e : Event), echo.outText e = "" →
      (v.note e).shown echo = v.shown echo := by
    intro v e none
    rw [World.shown_note, none]
    exact String.append_empty
  have called : (w.note (.call c)).shown echo = w.shown echo := quiet w _ rfl
  rw [World.afterReply]
  split <;> split
  · exact (quiet _ _ rfl).trans called
  · exact (quiet _ _ rfl).trans called
  · exact called
  · exact called

theorem callTool_silent (c : ToolCall) : (callTool c).Silent := fun echo w => by
  rw [runIn_callTool]
  exact w.shown_afterReply echo c _

theorem runTool_silent (c : ToolCall) : (runTool c).Silent := by
  have logged : ∀ logged message, (logCall logged message).Silent := by
    intro logged message
    rw [logCall]
    split
    · exact .log _ _ _
    · exact .pure ()
  rw [runTool]
  refine .bind .get fun w => .bind (logged _ _) fun _ => .bind (callTool_silent c) fun e => ?_
  cases e with
  | exited status out err =>
    refine .bind (logged _ _) fun _ => ?_
    split
    · exact .pure _
    · exact .fail _
  | unknown | notStarted reason | garbled f => exact .fail _

theorem pollOnce_silent (s : Settings) (transaction : String) :
    (pollOnce s transaction).Silent := by
  rw [pollOnce, Poller.pollOnce]
  refine .bind (.bind (runTool_silent _) fun _ => .pure _) fun leaf => ?_
  cases leaf with
  | none => exact .pure _
  | some leaf => exact .bind (.bind (runTool_silent _) fun _ => .ofExcept _) fun _ => .pure _

end ProofRelay

import ProofRelay.Proofs.CommandLine.Frontend
import ProofRelay.Proofs.CommandLine.Output
import ProofRelay.Proofs.Job.Ledger

/-!
# Looking at a transaction

The command that looks at a transaction does what one poll of it does, and reports what the poll
found.  It asks for the leaf with a fault where a poll has none, so that a transaction that is still
pending is told in two ways: by that fault, and by a payload without a character to judge.
Everything else that it reports follows from the result of the poll alone: the status, and the lines
with the leaf, the verdict and the payload.

What is found is written for the operator as it is, whatever the first channel makes of it.

## Main definitions

* `ResultTask.report` : what the command does with the result of a poll.
* `PollResult.lines` : the lines about the result of a poll.
* `AgreesWith` : how the end of the command follows from the end of a poll.

## Main results

* `ResultTask.look_eq` : the command looks as a poll does, and then asks for the leaf.
* `ResultTask.runIn_perform` : the command is a poll and its report.
* `result_agreesWith_poll` : the command agrees with the poller.
-/

namespace ProofRelay.CommandLine

open Activity ProofRelay.Text Fault

/-- The command for a transaction that does not begin with a dash. -/
theorem Frontend.perform_result {c : Frontend} (words : c.TakesWords) {group : GroupTask}
    {program : String} {s : Settings} {bound : Nat} {transaction : String}
    (word : transaction.toList.head? ≠ some '-') :
    c.perform ⟨group, .result, [transaction]⟩ program s bound =
      (⟨transaction⟩ : ResultTask).perform s := by
  rw [Frontend.perform]
  dsimp only
  rw [words transaction word]
  rfl

end ProofRelay.CommandLine

namespace ProofRelay

open Activity ProofRelay.Text Fault CommandLine

/-! ### What a poll finds -/

/-- The lines about the result of a poll: there are some once the transaction has a leaf. -/
def PollResult.lines (result : PollResult) : List String :=
  match result.leaf with
  | none => []
  | some leaf =>
    ["leaf: " ++ leaf, "state: " ++ result.verdict.name] ++
      if result.payload.isEmpty then [] else [result.payload]

/-- A poll finds no leaf, or a payload under a leaf, which it judges. -/
theorem pollOnce_found {s : Settings} {transaction : String} {w w' : World} {result : PollResult}
    (run : (pollOnce s transaction).runIn w = (.ok result, w')) :
    result = .noLeaf ∨ ∃ leaf payload, result = .ofPayload leaf payload := by
  obtain ⟨ds, -, poll, -⟩ := pollOnce_does s transaction w
  rw [run] at poll
  cases poll with
  | leafless told absent => exact .inl rfl
  | answered told found told' good => exact .inr ⟨_, _, rfl⟩

/-- Lines that are written one after the other. -/
theorem runIn_forM_print (lines : List String) (w : World) :
    ∃ w', (lines.forM print).runIn w = (.ok (), w') ∧ w'.outside = w.outside ∧ ∀ echo : Echo,
      w'.shown echo =
        w.shown echo ++ String.join (lines.map fun line => echo.pass (line ++ "\n")) := by
  induction lines generalizing w with
  | nil => exact ⟨w, rfl, rfl, fun _ => (String.append_empty).symm⟩
  | cons line lines ih =>
    obtain ⟨w', run, same, shown⟩ := ih (w.note (.out (line ++ "\n")))
    refine ⟨w', run, same, fun echo => ?_⟩
    rw [shown, World.shown_note_out, List.map_cons, String.join_cons, String.append_assoc]

/-- An activity with its fault as a result. -/
theorem Activity.runIn_attempt {α : Type} (a : Activity α) (w : World) :
    (attempt a).runIn w =
      match a.runIn w with
      | (.ok x, w') => (.ok (.ok x), w')
      | (.error (.fault f), w') => (.ok (.error f), w')
      | (.error .endless, w') => (.error .endless, w') := by
  rw [attempt, runIn_onFault, map_eq_pure_bind, runIn_bind]
  rcases a.runIn w with ⟨(_ | _) | _, _⟩ <;> rfl

namespace CommandLine.ResultTask

/-! ### A poll and its report -/

/-- The fault of a transaction without a leaf. -/
def leafless (transaction : String) : Fault :=
  .stage (.of .noLeaf ("transaction tree for " ++ transaction ++ " has no leaf yet"))

/-- The command looks as a poll does, and then asks for the leaf. -/
theorem look_eq (s : Settings) (transaction : String) :
    look s transaction = pollOnce s transaction >>= fun result =>
      match result.leaf with
      | some leaf => pure (leaf, result.payload)
      | none => fail (leafless transaction) := by
  rw [look, requireLeaf, pollOnce, Poller.pollOnce, bind_assoc, bind_assoc]
  change (resolveLeaf s transaction >>= _) = (resolveLeaf s transaction >>= _)
  refine congrArg _ (funext fun leaf => ?_)
  cases leaf with
  | none => rfl
  | some leaf =>
    change (fetchPayload s leaf >>= fun payload => pure (leaf, payload)) =
      (fetchPayload s leaf >>= fun payload => pure (PollResult.ofPayload leaf payload)) >>= _
    rw [bind_assoc]
    rfl

/-- What the command does with the end of a poll. -/
def report (transaction : String) : Except Interruption PollResult → Activity ExitStatus
  | .ok result =>
    match result.leaf with
    | none => endAt (leafless transaction)
    | some _ => do
      result.lines.forM print
      return statusOf result.verdict
  | .error (.fault f) => endAt f
  | .error .endless => endless

/-- The command is a poll and its report. -/
theorem runIn_perform (s : Settings) (transaction : String) (w : World) :
    ((⟨transaction⟩ : ResultTask).perform s).runIn w =
      (report transaction ((pollOnce s transaction).runIn w).1).runIn
        ((pollOnce s transaction).runIn w).2 := by
  rw [perform, look_eq, runIn_bind, runIn_attempt, runIn_bind]
  rcases polled : (pollOnce s transaction).runIn w with ⟨(f | _) | result, w'⟩
  · rfl
  · rfl
  · rcases pollOnce_found polled with rfl | ⟨leaf, payload, rfl⟩
    · rfl
    · -- Both write the same lines; the last one is left out for an empty payload.
      dsimp only [PollResult.ofPayload, runIn_pure, report, PollResult.lines]
      cases payload.isEmpty <;> rfl

end CommandLine.ResultTask

/-! ### The command and the poller -/

namespace CommandLine

/-- The number with which a command ends. -/
def exitNumber : Except Interruption ExitStatus → Option Nat
  | .ok status => some status.number
  | .error _ => none

/-- How the end of the command follows from the end of a poll, both begun in the same world. -/
structure AgreesWith (w : World) (polled : Except Interruption PollResult × World)
    (ended : Except Interruption ExitStatus × World) : Prop where
  /-- The tools were asked the same, and the outside is left the same. -/
  outside : ended.2.outside = polled.2.outside
  /-- The calls are the same ones in the same order. -/
  calls : ended.2.calls = polled.2.calls
  /-- The command succeeds exactly when the poll is verified. -/
  verified : exitNumber ended.1 = some 0 ↔ ∃ r, polled.1 = .ok r ∧ r.verdict = .verified
  /-- It tells a malformed payload. -/
  malformed : exitNumber ended.1 = some 3 ↔ ∃ r, polled.1 = .ok r ∧ r.verdict = .malformed
  /-- It tells a pending transaction, whether there is no leaf or nothing to judge under it. -/
  pending : exitNumber ended.1 = some 4 ↔ ∃ r, polled.1 = .ok r ∧ r.verdict = .pending
  /-- It fails exactly when a stage of the poll fails. -/
  failed : exitNumber ended.1 = some 1 ↔ ∃ f, polled.1 = .error (.fault (.stage f))
  /-- Any other fault of the poll is the fault of the command. -/
  escaped : ∀ f, ended.1 = .error (.fault f) ↔ polled.1 = .error (.fault f) ∧ f.IsBare
  /-- What the poll found is written line by line, and nothing else. -/
  echoed : ∀ r, polled.1 = .ok r → ∀ echo : Echo, ended.2.shown echo =
    w.shown echo ++ String.join (r.lines.map fun line => echo.pass (line ++ "\n"))
  /-- Nothing is written when the poll finds nothing. -/
  unsaid : ∀ i, polled.1 = .error i → ∀ echo : Echo, ended.2.shown echo = w.shown echo

variable {s : Settings} {transaction : String} {w w' : World}

/-- The calls of tools belong to the outside. -/
theorem calls_eq_of_outside (h : w'.outside = w.outside) : w'.calls = w.calls := by
  rw [← World.calls_outside, h, World.calls_outside]

theorem number_statusOf_inj : ∀ v u : Verdict,
    (ResultTask.statusOf v).number = (ResultTask.statusOf u).number → v = u := by
  rintro (_ | _ | _) (_ | _ | _) same <;> first | rfl | cases same

/-- The verdicts have numbers of their own. -/
theorem exitNumber_statusOf_iff {result : PollResult} (verdict : Verdict) :
    exitNumber (.ok (ResultTask.statusOf result.verdict)) =
        some (ResultTask.statusOf verdict).number ↔
      ∃ r, (.ok result : Except Interruption PollResult) = .ok r ∧ r.verdict = verdict := by
  constructor
  · exact fun same => ⟨result, rfl, number_statusOf_inj _ _ (Option.some.inj same)⟩
  · rintro ⟨_, ⟨⟩, rfl⟩
    rfl

/-- The command after a poll with a result. -/
theorem agreesWith_of_ok {result : PollResult} {ended : Except Interruption ExitStatus × World}
    (status : ended.1 = .ok (ResultTask.statusOf result.verdict))
    (outside : ended.2.outside = w'.outside)
    (shown : ∀ echo : Echo, ended.2.shown echo =
      w.shown echo ++ String.join (result.lines.map fun line => echo.pass (line ++ "\n"))) :
    AgreesWith w (.ok result, w') ended := by
  have calls : ended.2.calls = w'.calls := calls_eq_of_outside outside
  refine ⟨outside, calls, ?_, ?_, ?_, ?_, ?_, ?_, ?_⟩
  · rw [status]
    exact exitNumber_statusOf_iff .verified
  · rw [status]
    exact exitNumber_statusOf_iff .malformed
  · rw [status]
    exact exitNumber_statusOf_iff .pending
  · -- No verdict has the number of a failure.
    rw [status]
    cases result.verdict <;> simp [exitNumber, ResultTask.statusOf, ExitStatus.number]
  · simp [status]
  · rintro _ ⟨⟩
    exact shown
  · rintro _ ⟨⟩

/-- The command after a poll in which a stage failed. -/
theorem agreesWith_of_stage {f : StageFault} {ended : Except Interruption ExitStatus × World}
    (status : ended.1 = .ok .failed) (outside : ended.2.outside = w'.outside)
    (shown : ∀ echo, ended.2.shown echo = w.shown echo) :
    AgreesWith w (.error (.fault (.stage f)), w') ended := by
  have calls : ended.2.calls = w'.calls := calls_eq_of_outside outside
  have number : exitNumber ended.1 = some 1 := by rw [status]; rfl
  refine ⟨outside, calls, ?_, ?_, ?_, ?_, ?_, nofun, fun _ _ => shown⟩
  · simp [number]
  · simp [number]
  · simp [number]
  · simp [number]
  · intro e
    rw [status]
    refine ⟨nofun, ?_⟩
    rintro ⟨⟨⟩, ⟨⟩⟩

/-- The command after a poll that ended in another way. -/
theorem agreesWith_of_other {i : Interruption} {ended : Except Interruption ExitStatus × World}
    (other : ∀ f, i = .fault f → f.IsBare) (status : ended.1 = .error i)
    (outside : ended.2.outside = w'.outside)
    (shown : ∀ echo, ended.2.shown echo = w.shown echo) : AgreesWith w (.error i, w') ended := by
  have calls : ended.2.calls = w'.calls := calls_eq_of_outside outside
  have number : exitNumber ended.1 = none := by rw [status]; rfl
  refine ⟨outside, calls, ?_, ?_, ?_, ?_, ?_, nofun, fun _ _ => shown⟩
  · simp [number]
  · simp [number]
  · simp [number]
  · rw [number]
    refine ⟨nofun, ?_⟩
    rintro ⟨f, ⟨⟩⟩
    cases other _ rfl
  · intro f
    rw [status]
    constructor
    · rintro ⟨⟩
      exact ⟨rfl, other f rfl⟩
    · rintro ⟨⟨⟩, -⟩
      rfl

/-- The command agrees with the poller, whatever the tools answer. -/
theorem result_agreesWith_poll {c : Frontend} (words : c.TakesWords) (group : GroupTask)
    (program : String) (s : Settings) (bound : Nat) (transaction : String) (w : World)
    (word : transaction.toList.head? ≠ some '-') (bare : w.HasBareFaults) :
    AgreesWith w ((pollOnce s transaction).runIn w)
      ((c.perform ⟨group, .result, [transaction]⟩ program s bound).runIn w) := by
  have silent := fun echo => pollOnce_silent s transaction echo w
  have raised := (pollOnce_raises s transaction w bare).1
  rw [Frontend.perform_result words word, ResultTask.runIn_perform]
  rcases polled : (pollOnce s transaction).runIn w with ⟨(f | _) | result, w'⟩ <;>
    simp only [polled] at silent raised
  · have fault := raised f rfl
    cases fault with
    | bare bare =>
      have escapes : ∀ f', Interruption.fault f = .fault f' → f'.IsBare := by
        rintro _ ⟨⟩
        exact bare
      cases bare with
      | file | defect => exact agreesWith_of_other escapes rfl rfl silent
    | @failed sf cause =>
      -- A poll has no fault for a missing leaf, so that the fault is reported as a failure.
      have located : sf.cause ≠ .noLeaf := by
        rcases cause with tool | cause
        · cases hc : sf.cause <;> rw [hc] at tool <;> cases tool
          nofun
        · rw [cause]
          nofun
      have failed : (ResultTask.report transaction (.error (.fault (.stage sf)))) =
          endWithProblem .failed sf.report := if_neg located
      rw [failed]
      exact agreesWith_of_stage rfl rfl fun echo => (w'.shown_note_err echo _).trans (silent echo)
  · exact agreesWith_of_other (fun _ => Interruption.noConfusion) rfl rfl silent
  · rcases pollOnce_found polled with rfl | ⟨leaf, payload, rfl⟩
    · refine agreesWith_of_ok rfl rfl fun echo => ?_
      exact (w'.shown_note_err echo _).trans ((silent echo).trans String.append_empty.symm)
    · obtain ⟨v, run, outside, shown⟩ :=
        runIn_forM_print (PollResult.ofPayload leaf payload).lines w'
      have reported : (ResultTask.report transaction (.ok (.ofPayload leaf payload))).runIn w' =
          (.ok (ResultTask.statusOf (.ofPayload payload)), v) := runIn_bind_ok run _
      refine agreesWith_of_ok (congrArg Prod.fst reported)
        ((congrArg (fun c => c.2.outside) reported).trans outside) fun echo => ?_
      rw [reported, shown, silent]

/-- The network tells a payload that is verified, and a terminal shows it as it is. -/
theorem result_agreesWith_poll_sample :
    Frontend.usual.TakesWords ∧ ("77".toList.head? ≠ some '-') ∧ sampleWorld.HasBareFaults ∧
      ((pollOnce sampleSettings "77").runIn sampleWorld).1 =
        .ok (.ofPayload "78" "\x7b\x7d") ∧
      ∃ ended, (Frontend.usual.perform ⟨.initial, .result, ["77"]⟩ "relay" sampleSettings 1).runIn
          sampleWorld = ended ∧
        AgreesWith sampleWorld ((pollOnce sampleSettings "77").runIn sampleWorld) ended ∧
        ended.2.shown .terminal = sampleWorld.shown .terminal ++
          String.join ((PollResult.ofPayload "78" "\x7b\x7d").lines.map (· ++ "\n")) := by
  have polled : ((pollOnce sampleSettings "77").runIn sampleWorld).1 =
      .ok (.ofPayload "78" "\x7b\x7d") := eq_ok_of_toOption (by decide +kernel)
  have agrees := result_agreesWith_poll Frontend.usual_takesWords .initial "relay" sampleSettings 1
    "77" sampleWorld (by decide) hasBareFaults_sampleWorld
  exact ⟨Frontend.usual_takesWords, by decide, hasBareFaults_sampleWorld, polled, _, rfl, agrees,
    agrees.echoed _ polled .terminal⟩

end CommandLine

end ProofRelay

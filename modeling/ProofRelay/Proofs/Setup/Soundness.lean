import ProofRelay.Proofs.CommandLine.RunStatus
import ProofRelay.Proofs.Job.Ledger
import ProofRelay.Setup.Check

/-!
# A usable setup lacks no setting

A run asks for its settings where it needs them: the capture asks for a parameter file and a data
source, a plan for the identities of two programs and for a parameter file as the sandbox sees it,
and the latest block for the chain's service.  The checks of a setup know nothing of these places,
and they look at other values.  Still none of the places is left out: when no check failed, the
parameter file, the data source and both identities are set, and the chain's service too if it was
asked for; the sandbox sees the parameter file of the capture unless it has one of its own.

From there on it is a matter of going through a run.  What the tools, the storage and the chain
raise beside their own failures is bare, a stage passes on what it meets, and rounds pass on what
their jobs end with; so no fault is a missing setting, whatever happens.

## Main definitions

* `Fault.IsOperational` : the faults that are no missing setting.
* `Settings.AreSet` : settings with all that a job asks for.
* `LacksSetting` : ends at a missing setting.
* `Settings.Suffice` : settings with which no run ends so.

## Main results

* `areSet_of_usable` : what the checks say about the settings.
* `runJob_raises`, `Rounds.runFrom_raises` : the faults of a job and of rounds.
* `suffice_of_usable` : settings suffice when no check failed.
-/

namespace ProofRelay

open Activity Fault CommandLine

/-! ### Faults that are no missing setting -/

/-- The faults that are no missing setting. -/
def Fault.IsOperational (f : Fault) : Prop :=
  ∀ message, f ≠ .setting message

theorem Fault.IsBare.isOperational {f : Fault} (h : f.IsBare) : f.IsOperational := by
  rintro _ rfl
  cases h

theorem Fault.isOperational_stage (f : StageFault) : (Fault.stage f).IsOperational := by
  rintro _ ⟨⟩

theorem Fault.Of.isOperational {causes : Cause → Prop} {f : Fault} (h : Fault.Of causes f) :
    f.IsOperational := by
  cases h with
  | bare h => exact h.isOperational
  | failed => exact isOperational_stage _

theorem Fault.OfWait.isOperational {f : Fault} (h : OfWait f) : f.IsOperational := by
  cases h with
  | poll h => exact h.isOperational
  | ended => exact isOperational_stage _

/-! ### What the checks say -/

/-- Settings with all that a job asks for. -/
structure Settings.AreSet (s : Settings) : Prop where
  /-- The parameter file of the capture. -/
  parameters : s.parametersPath.given? ≠ none
  /-- The data source of the capture. -/
  source : s.captureUrl.given? ≠ none
  /-- The identity of the program that proves. -/
  prover : s.proverHash.given? ≠ none
  /-- The identity of the program that verifies. -/
  verifier : s.verifierHash.given? ≠ none

/-- The sandbox sees a parameter file when the capture has one. -/
theorem Settings.AreSet.sandbox {s : Settings} (h : s.AreSet) :
    s.taskParametersPath.given? ≠ none := by
  rw [taskParametersPath, Json.orElse]
  cases own : s.sandboxParametersPath.given? with
  | none => exact h.parameters
  | some v =>
    rw [Json.given?] at own
    split at own
    · cases own
    · next given =>
      cases own
      rw [Option.getD_some, Json.given?, if_neg given]
      exact Option.some_ne_none _

section Checks

variable {s : Settings} {w w₁ : World} {needChain : Bool} {checks : List SetupCheck}

theorem given?_of_checkParameters {c : SetupCheck}
    (checked : (checkParameters s).runIn w = (.ok c, w₁)) (passed : c.status ≠ "fail") :
    s.parametersPath.given? ≠ none := by
  intro absent
  rw [checkParameters, absent] at checked
  cases checked
  exact passed rfl

theorem given?_of_checkDataSource (passed : (checkDataSource s).status ≠ "fail") :
    s.captureUrl.given? ≠ none := by
  intro absent
  rw [checkDataSource, absent] at passed
  exact passed rfl

theorem given?_of_checkIdentity {name variableName : String} {value : Json}
    (passed : (checkIdentity name variableName value).status ≠ "fail") : value.given? ≠ none := by
  intro absent
  rw [checkIdentity, absent] at passed
  exact passed rfl

theorem given?_of_checkChain (passed : (checkChain s true).status ≠ "fail") :
    s.rpcUrl.given? ≠ none := by
  intro absent
  rw [checkChain, absent] at passed
  exact passed rfl

/-- When no check failed, a job has all that it asks for, and the chain's service is set if it was
asked for. -/
theorem areSet_of_usable (checked : (checkSetup s needChain).runIn w = (.ok checks, w₁))
    (usable : setupIsUsable checks = true) :
    s.AreSet ∧ (needChain = true → s.rpcUrl.given? ≠ none) := by
  rw [checkSetup] at checked
  obtain ⟨prover, _, -, checked⟩ := exists_of_runIn_bind_ok checked
  obtain ⟨network, _, -, checked⟩ := exists_of_runIn_bind_ok checked
  obtain ⟨parameters, _, file, checked⟩ := exists_of_runIn_bind_ok checked
  obtain ⟨_, _, -, checked⟩ := exists_of_runIn_bind_ok checked
  obtain ⟨witnesses, _, -, checked⟩ := exists_of_runIn_bind_ok checked
  obtain ⟨_, _, -, checked⟩ := exists_of_runIn_bind_ok checked
  obtain ⟨results, _, -, checked⟩ := exists_of_runIn_bind_ok checked
  cases checked
  have passed := List.all_eq_true.mp usable
  simp only [List.forall_mem_cons, decide_eq_true_eq] at passed
  obtain ⟨-, -, file_, source, chain, prover_, verifier_, -⟩ := passed
  refine ⟨⟨given?_of_checkParameters file file_, given?_of_checkDataSource source,
    given?_of_checkIdentity prover_, given?_of_checkIdentity verifier_⟩, ?_⟩
  rintro rfl
  exact given?_of_checkChain chain

end Checks

/-! ### Stages and jobs -/

section Job

variable {s : Settings} {n : Int}

/-- A stage passes on what it meets. -/
theorem inStage_raises {α : Type} {stage : JobStage} {body : Activity α}
    (h : body.Raises IsOperational) : (inStage n stage body).Raises IsOperational := by
  rw [inStage]
  refine .bind (.log _ _ _) fun _ => h.onFault fun f operational => ?_
  cases f with
  | stage f =>
    exact .bind (updateJob_raises _) fun _ => .bind (.log _ _ _) fun _ =>
      .fail (isOperational_stage _)
  | setting message => exact absurd rfl (operational message)
  | file f => exact .fail operational
  | defect kind message => exact .fail operational

theorem takeWitness_raises (h : s.AreSet) (n : Int) : (takeWitness s n).Raises IsOperational := by
  have unset : s.parametersPath.given? = none ∨ s.captureUrl.given? = none →
      ∀ message, IsOperational (.setting message) := by
    rintro (absent | absent)
    · exact absurd absent h.parameters
    · exact absurd absent h.source
  rw [takeWitness]
  refine .bind (inStage_raises ?_) fun p => .bind (inStage_raises ?_) fun _ => inStage_raises ?_
  · exact .bind (captureWitness_raises_of (fun _ => Of.isOperational) s n unset) fun p =>
      .bind (updateJob_raises _) fun _ => .pure _
  · exact .bind ((witnessChecksum_raises s n).mono fun _ => Of.isOperational) fun checksum =>
      updateJob_raises _
  · exact .bind ((publish_raises _ _ _).mono fun _ => Of.isOperational) fun url =>
      updateJob_raises _

theorem makePlan_raises (h : s.AreSet) (n : Int) : (makePlan s n).Raises IsOperational := by
  have plan : ∀ j, Throws IsOperational (jobPlan s j) := fun j =>
    jobPlan_throws_of (fun _ => IsBare.isOperational) s j (absurd · h.prover) (absurd · h.verifier)
      (absurd · h.sandbox)
  rw [makePlan]
  refine inStage_raises (.bind (.bind .get fun w => .pure _) fun j => ?_)
  exact .bind (.ofExcept (plan j)) fun p => .bind (updateJob_raises _) fun _ => .pure _

theorem submitJob_raises (s : Settings) (n : Int) (p : Plan Json) :
    (submitJob s n p).Raises IsOperational :=
  inStage_raises (.bind ((submitPlan_raises s p).mono fun _ => Of.isOperational) fun _ =>
    .bind (updateJob_raises _) fun _ => .pure _)

theorem awaitVerification_raises (s : Settings) (n : Int) (transaction : String) (bound : Nat) :
    (awaitVerification s n transaction bound).Raises IsOperational := by
  rw [awaitVerification]
  refine inStage_raises (.bind ((waitForVerdict_raises s transaction bound).mono fun _ =>
    OfWait.isOperational) fun result => .bind (updateJob_raises _) fun _ => ?_)
  split
  · exact .bind (updateJob_raises _) fun _ => .fail (isOperational_stage _)
  · exact .pure _

theorem persistResult_raises (s : Settings) (n : Int) (payload : String) :
    (persistResult s n payload).Raises IsOperational := by
  have path : Throws IsOperational (resultPath s n) :=
    throws_resultPath.mono fun _ => IsBare.isOperational
  rw [persistResult]
  refine inStage_raises (.bind (.ofExcept path) fun p => .bind ?_ fun _ =>
    .bind (updateJob_raises _) fun _ => .pure _)
  refine (writePayload_raises p payload).onFault fun f bare => ?_
  cases bare with
  | file f => exact .fail (isOperational_stage _)
  | defect kind message => exact .fail (IsBare.defect kind message).isOperational

/-- A job that has all that it asks for ends with no missing setting. -/
theorem runJob_raises (h : s.AreSet) (mock : Bool) (bound : Nat) (n : Int) :
    (runJob s mock bound n).Raises IsOperational := by
  by_cases negative : n < 0
  · intro w bare
    rw [runIn_runJob_of_neg negative]
    refine ⟨?_, bare⟩
    rintro _ ⟨⟩
    exact (IsBare.value _).isOperational
  · obtain ⟨n, rfl⟩ := Int.eq_ofNat_of_zero_le (Int.not_lt.mp negative)
    have started : (startJob n).Raises IsOperational :=
      .of_ok (fun _ => ⟨(), rfl⟩) fun _ => ⟨rfl, rfl⟩
    have witness : (if mock then takeMockWitness n else takeWitness s n).Raises IsOperational := by
      cases mock with
      | true => exact .bind (.log _ _ _) fun _ => updateJob_raises _
      | false => exact takeWitness_raises h n
    rw [runJob_eq, stages]
    refine started.bind fun _ => .bind (witness.bind fun _ => ?_) fun p =>
      (finishJob_raises n p).mono fun _ => IsBare.isOperational
    exact (makePlan_raises h n).bind fun p => (submitJob_raises s n p).bind fun transaction =>
      (awaitVerification_raises s n transaction bound).bind fun result =>
        persistResult_raises s n result.payload

end Job

/-! ### Rounds -/

namespace Rounds

variable {P : Fault → Prop} {job : Int → Activity Unit} (r : Rounds)

/-- One job of rounds passes on what it ends with, or goes on. -/
theorem step_raises (h : ∀ n, (job n).Raises P) (t : Tally) (n : Int) :
    (r.step job t n).Raises P := by
  rw [step]
  refine .tryCatch (.bind (h n) fun _ => .pure _) fun i raised => ?_
  split
  · next f =>
    have again : (throw (.fault (.stage f)) : Activity Tally).Raises P := .fail (raised _ rfl)
    split
    · split
      · exact again
      · exact .bind (.log _ _ _) fun _ => .pure _
    · exact again
  · cases i with
    | fault f => exact .fail (raised f rfl)
    | endless => exact .endless

/-- Rounds end with no other faults than their jobs. -/
theorem runFrom_raises (h : ∀ n, (job n).Raises P) (rounds : Nat) (t : Tally) (n : Int) :
    (r.runFrom job rounds t n).Raises P := by
  induction rounds generalizing t n with
  | zero => exact .endless
  | succ rounds ih =>
    rw [runFrom]
    refine .bind (.bind .get fun w => .pure _) fun due => ?_
    split
    · exact .bind (.log _ _ _) fun _ => .pure _
    · split
      · exact .pure _
      · refine .bind (r.step_raises h t n) fun t => ?_
        split
        · exact ih t (n + 1)
        · exact .pure _

end Rounds

/-! ### The head of the chain -/

/-- A world in which what the chain raises beside its own failures is bare. -/
def World.HasBareHeads (w : World) : Prop :=
  ∀ reads f, w.chain reads = .broken f → f.IsBare

/-- A number that the chain's service does not report is a failure of the chain. -/
theorem ChainClient.throws_number (c : ChainClient) {reply : HeadReply}
    (bare : ∀ f, reply = .broken f → f.IsBare) : Throws IsOperational (c.number reply) := by
  have unreadable : ∀ reason,
      Throws IsOperational (.error (c.unreadable reason) : Except Fault Int) :=
    fun reason => .error (isOperational_stage _)
  cases reply with
  | refused reason => exact unreadable reason
  | broken f => exact .error (bare f rfl).isOperational
  | value v =>
    have read := throws_toInt v
    rw [number]
    split
    · exact unreadable _
    · exact read.mono fun _ => IsBare.isOperational

/-- The head of the chain is found without a missing setting. -/
theorem ChainClient.runIn_head (c : ChainClient) {w : World} (bare : w.HasBareFaults)
    (heads : w.HasBareHeads) :
    (∀ f, (c.head.runIn w).1 = .error (.fault f) → f.IsOperational) ∧
      (c.head.runIn w).2.HasBareFaults := by
  have asked : askHead.runIn w = (.ok (w.chain w.headReads), w.note .head) := rfl
  have read := Raises.bind (.ofExcept (c.throws_number (heads w.headReads)))
    fun n => Raises.bind (.log .info "chain" ("chain head is block " ++ toString n))
      fun _ => Raises.pure n
  rw [head, runIn_bind_ok asked]
  exact read _ (bare.of_outside rfl rfl)

/-! ### Runs -/

/-- Whether something ended at a missing setting. -/
def LacksSetting {α : Type} (x : Except Interruption α) : Prop :=
  ∃ message, x = .error (.fault (.setting message))

theorem not_lacksSetting {α : Type} {x : Except Interruption α}
    (h : ∀ f, x = .error (.fault f) → f.IsOperational) : ¬ LacksSetting x := by
  rintro ⟨message, rfl⟩
  exact h _ rfl message rfl

section Runs

variable {s : Settings} {needChain : Bool} {w : World}

/-- Rounds from a given block on lack no setting. -/
theorem Rounds.run_of_start (h : s.AreSet) (r : Rounds) (mock : Bool) (bound rounds : Nat)
    (bare : w.HasBareFaults) (mode : r.mode ≠ .latest) (start : r.start ≠ none) :
    ¬ LacksSetting ((r.run (runJob s mock bound) rounds).runIn w).1 := by
  obtain ⟨n, given⟩ := Option.ne_none_iff_exists'.mp start
  have first : r.first = pure n := by
    rw [Rounds.first]
    split
    · contradiction
    · rw [given]
  rw [Rounds.run, first, pure_bind]
  exact not_lacksSetting (r.runFrom_raises (runJob_raises h mock bound) rounds .empty n w bare).1

/-- Rounds with the latest block lack no setting, and neither does the way to the chain. -/
theorem Rounds.run_of_latest (h : s.AreSet) (url : s.rpcUrl.given? ≠ none) (r : Rounds)
    (mock : Bool) (bound rounds : Nat) (timeout : Float) (bare : w.HasBareFaults)
    (heads : w.HasBareHeads) (mode : r.mode = .latest) :
    ¬ LacksSetting ((do
      let c ← ChainClient.connect s.rpcUrl timeout
      { r with chain := some c }.run (runJob s mock bound) rounds : Activity Tally).runIn w).1 := by
  obtain ⟨address, given⟩ := Option.ne_none_iff_exists'.mp url
  have connected : (ChainClient.connect s.rpcUrl timeout).runIn w =
      (.ok ⟨address⟩, w.note (.provider address timeout)) := by
    rw [ChainClient.connect, given]
    rfl
  have first : Rounds.first { r with chain := some ⟨address⟩ } = ChainClient.head ⟨address⟩ := by
    rw [Rounds.first, mode]
  have noted : (w.note (.provider address timeout)).HasBareFaults := bare.of_outside rfl rfl
  obtain ⟨found, bare'⟩ := ChainClient.runIn_head ⟨address⟩ noted heads
  rw [runIn_bind_ok connected, Rounds.run, first, runIn_bind]
  rcases ran : (ChainClient.head ⟨address⟩).runIn (w.note (.provider address timeout)) with
    ⟨i | n, w₁⟩ <;> rw [ran] at found bare'
  · exact not_lacksSetting fun f hf => found f (by cases hf; rfl)
  · exact not_lacksSetting
      (Rounds.runFrom_raises _ (runJob_raises h mock bound) rounds .empty n w₁ bare').1

/-- The rounds of the command that runs jobs lack no setting. -/
theorem CommandLine.RunTask.rounds_of_areSet (h : s.AreSet) (t : RunTask)
    (url : t.mode = .latest → s.rpcUrl.given? ≠ none) (bound : Nat) (bare : w.HasBareFaults)
    (heads : w.HasBareHeads) : ¬ LacksSetting ((t.rounds s bound).runIn w).1 := by
  rw [rounds]
  by_cases mode : t.mode = .latest
  · rw [if_pos mode, map_eq_pure_bind, bind_assoc]
    simp only [pure_bind]
    exact Rounds.run_of_latest h (url mode)
      ⟨t.mode, t.start <|> some s.startBlock, none, s.haltOnMalformed, t.limit⟩ t.mock bound bound
      _ bare heads mode
  · rw [if_neg mode, pure_bind]
    refine Rounds.run_of_start h _ t.mock bound bound bare mode ?_
    cases t.start <;> exact Option.some_ne_none _

/-- Settings with which no run ends at a missing setting, whatever the tools, the storage and the
chain do.  Whether they do for the latest block is said apart. -/
structure Settings.Suffice (s : Settings) (needChain : Bool) : Prop where
  /-- A given block, or all blocks from a given one on. -/
  given : ∀ (r : Rounds) (mock : Bool) (bound rounds : Nat) (w : World), w.HasBareFaults →
    r.mode ≠ .latest → r.start ≠ none →
      ¬ LacksSetting ((r.run (runJob s mock bound) rounds).runIn w).1
  /-- The latest block, with the way to the chain. -/
  latest : needChain = true → ∀ (r : Rounds) (mock : Bool) (bound rounds : Nat) (timeout : Float)
    (w : World), w.HasBareFaults → w.HasBareHeads → r.mode = .latest →
      ¬ LacksSetting ((do
        let c ← ChainClient.connect s.rpcUrl timeout
        { r with chain := some c }.run (runJob s mock bound) rounds : Activity Tally).runIn w).1
  /-- The command that runs jobs does not end with the status of a missing setting. -/
  command : s.poll.refusal? = none → ∀ (t : RunTask)
    (drawn : List (String × String) → Table → Except Fault (List String)) (bound : Nat) (w : World),
    t.IsSound → (t.mode = .latest → needChain = true) → w.HasBareFaults → w.HasBareHeads →
      ((t.perform drawn s bound).runIn w).1 ≠ .ok .notSet

/-- When no check of a setup failed, no run with its settings ends at a missing setting. -/
theorem suffice_of_usable {w₁ : World} {checks : List SetupCheck}
    (checked : (checkSetup s needChain).runIn w = (.ok checks, w₁))
    (usable : setupIsUsable checks = true) : s.Suffice needChain := by
  obtain ⟨areSet, url⟩ := areSet_of_usable checked usable
  refine ⟨fun r mock bound rounds w bare => Rounds.run_of_start areSet r mock bound rounds bare,
    fun needed r mock bound rounds timeout w =>
      Rounds.run_of_latest areSet (url needed) r mock bound rounds timeout,
    fun schedule t drawn bound w sound needed bare heads ended => ?_⟩
  have told : (t.onTopOf s).AreSet := ⟨areSet.parameters, areSet.source, areSet.prover,
    areSet.verifier⟩
  have unlacking := t.rounds_of_areSet told (fun mode => url (needed mode)) bound
    (w := RunTask.takingRequests w) (bare.of_outside rfl rfl) heads
  rw [(RunTask.runIn_perform drawn sound schedule bound w).1, endOf_eq_ok_iff] at ended
  rcases ended with ⟨message, lacks, -⟩ | ⟨f, -, status⟩ | ⟨tally, -, -, status⟩
  · exact unlacking ⟨message, lacks⟩
  · exact statusOfStage_ne_notSet status
  · exact statusOfTally_ne_notSet status

end Runs

/-- Settings with all that is checked. -/
def readySettings : Settings :=
  { sampleSettings with
    storage := { sampleSettings.storage with accessKey := .str "ak", secretKey := .str "sk" } }

/-- A world with the programs and the parameter file of these settings. -/
def readyWorld : World :=
  { sampleWorld with
    files :=
      ⟨[(["run"], .directory FileTree.directoryMode), (["bin"], .directory FileTree.directoryMode),
        (["bin", "prover_cmd"], .file [] 0o755), (["bin", "gevulot-cli"], .file [] 0o755),
        (["params.bin"], .file [] FileTree.fileMode)], []⟩
    environment := [("PATH", "/bin")] }

theorem suffice_of_usable_sample :
    readyWorld.HasBareFaults ∧ readyWorld.HasBareHeads ∧ ∃ checks w₁,
      (checkSetup readySettings true).runIn readyWorld = (.ok checks, w₁) ∧
        setupIsUsable checks = true ∧ readySettings.Suffice true := by
  have usable : ((checkSetup readySettings true).runIn readyWorld).1.toOption.map setupIsUsable =
      some true := by
    decide +kernel
  refine ⟨hasBareFaults_sampleWorld.of_outside rfl rfl, fun _ _ => nofun, ?_⟩
  rcases checked : (checkSetup readySettings true).runIn readyWorld with ⟨_ | checks, w₁⟩ <;>
    rw [checked] at usable
  · cases usable
  · exact ⟨checks, w₁, rfl, Option.some.inj usable,
      suffice_of_usable checked (Option.some.inj usable)⟩

end ProofRelay

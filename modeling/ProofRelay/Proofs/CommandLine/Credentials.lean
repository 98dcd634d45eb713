import ProofRelay.CommandLine.Run
import ProofRelay.Proofs.Job.Identity
import ProofRelay.Proofs.Job.InStep

/-!
# Credentials stay with the storage client

Whoever runs jobs and commands one after another, with the same settings, may follow their calls,
files, uploads, log lines and texts.  None of this depends on the two keys of the object storage, if
there are keys at all and the client which sends the files does not write them to the log itself:
with other keys everything is the same, but that the client is made with the other ones.

Every errand is in step with the one that has masked settings; the check of the storage is the one
place that asks for the keys beside the client, and it asks only whether they are there.  So a row
of errands under the mask is the row of the masked ones, and two rows that differ in the keys are
the same under the mask.

## Main definitions

* `Settings.withKeys` : settings with other keys.
* `Errand`, `runErrands` : what is done one after another, and how it went.

## Main results

* `Frontend.perform_inStep` : commands are in step.
* `runErrands_masked` : errands under the mask.
* `runErrands_alike` : errands that differ in the keys of the storage go alike.
-/

namespace ProofRelay

open Activity

/-! ### Keys -/

/-- Whether both keys of the object storage are set. -/
def StorageSettings.HasKeys (s : StorageSettings) : Prop :=
  s.accessKey.given?.isSome ∧ s.secretKey.given?.isSome

/-- Settings with other keys of the object storage. -/
def Settings.withKeys (s : Settings) (access secret : Json) : Settings :=
  { s with storage := { s.storage with accessKey := access, secretKey := secret } }

@[simp] theorem Settings.masked_withKeys (s : Settings) (access secret : Json) :
    (s.withKeys access secret).masked = s.masked := rfl

/-! ### Checking the setup -/

theorem findProgram_inStep (command : String) :
    (findProgram command).InStep (findProgram command) := by
  rw [findProgram]
  split
  · exact .bind (isFileAt_inStep _) fun _ => .look fun _ => .pure _
  · exact .look fun _ => .pure _

theorem checkProgram_inStep (name : String) (command : Json) (hint : String) :
    (checkProgram name command hint).InStep (checkProgram name command hint) := by
  rw [checkProgram]
  refine .bind (.ofExcept _) fun command => .bind (findProgram_inStep command) fun found => ?_
  cases found <;> exact .pure _

theorem checkParameters_inStep (s : Settings) :
    (checkParameters s).InStep (checkParameters s) := by
  rw [checkParameters]
  split
  · exact .pure _
  · refine .bind (.ofExcept _) fun file => .bind (isFileAt_inStep _) fun there => ?_
    split <;> exact .pure _

theorem firstEntry_inStep (ps : List Path) : (firstEntry ps).InStep (firstEntry ps) := by
  induction ps with
  | nil => exact .pure _
  | cons p ps ih =>
    rw [firstEntry]
    refine .bind (entryAt_inStep p) fun e => ?_
    split
    · exact .pure _
    · exact ih

theorem checkDirectory_inStep (name : String) (p : Path) :
    (checkDirectory name p).InStep (checkDirectory name p) := by
  have granted : ∀ q (yes no : SetupCheck),
      (get >>= fun w => if mayAccess w q then pure yes else pure no : Activity SetupCheck).InStep
        (get >>= fun w => if mayAccess w q then pure yes else pure no) := by
    intro q yes no
    refine .look fun w => ?_
    have same : mayAccess w.masked q = mayAccess w q := rfl
    rw [same]
    split <;> exact .pure _
  rw [checkDirectory]
  refine .bind (entryAt_inStep p) fun e => ?_
  split
  · exact granted _ _ _
  · refine .bind (firstEntry_inStep _) fun above => ?_
    cases above with
    | none => exact .pure _
    | some above => exact granted _ _ _

/-- The check of the storage asks only whether there are keys. -/
theorem checkStorage_masked {s : StorageSettings} (h : s.HasKeys) :
    checkStorage s.masked = checkStorage s := by
  have given : (s.accessKey.given?.isSome && s.secretKey.given?.isSome) = true := by
    rw [h.1, h.2]
    rfl
  rw [checkStorage, checkStorage, if_pos given]
  rfl

theorem checkSetup_inStep {s : Settings} (h : s.storage.HasKeys) (needChain : Bool) :
    (checkSetup s needChain).InStep (checkSetup s.masked needChain) := by
  have storage : checkStorage s.masked.storage = checkStorage s.storage := checkStorage_masked h
  rw [checkSetup, checkSetup, storage]
  refine .bind (checkProgram_inStep _ _ _) fun prover =>
    .bind (checkProgram_inStep _ _ _) fun network => .bind (checkParameters_inStep s) fun _ => ?_
  refine .bind (.ofExcept _) fun p => .bind (checkDirectory_inStep _ p) fun _ => ?_
  exact .bind (.ofExcept _) fun p => .bind (checkDirectory_inStep _ p) fun _ => .pure _

namespace CommandLine

/-! ### Commands -/

theorem endWith_inStep (status : ExitStatus) (report : String) :
    (endWith status report).InStep (endWith status report) :=
  .bind (complain_inStep _) fun _ => .pure _

theorem RunTask.endAt_inStep (f : Fault) : (endAt f).InStep (endAt f) := by
  cases f with
  | setting message => exact endWith_inStep _ _
  | stage f =>
    rw [endAt]
    split <;> exact endWith_inStep _ _
  | file f => exact .fail _
  | defect kind message => exact .fail _

theorem RunTask.settingsOver_masked (t : RunTask) (s : Settings) :
    t.settingsOver s.masked = (t.settingsOver s).map Settings.masked := by
  have written : ∀ (schedule : Except Fault (PollPolicy Float)) (halt : Bool),
      (do return { s.masked with poll := ← schedule, haltOnMalformed := halt }) =
        (do return { s with poll := ← schedule, haltOnMalformed := halt } :
          Except Fault Settings).map Settings.masked := by
    intro schedule halt
    cases schedule <;> rfl
  exact written _ _

theorem RunTask.perform_inStep (t : RunTask)
    (drawn : List (String × String) → Table → Except Fault (List String)) (s : Settings)
    (bound : Nat) : (t.perform drawn s bound).InStep (t.perform drawn s.masked bound) := by
  rw [perform, perform, settingsOver_masked]
  cases t.settingsOver s with
  | error f => exact .fail f
  | ok s =>
    rw [Except.map, Activity.ofExcept, Activity.ofExcept, pure_bind, pure_bind]
    refine .bind (.change (fun _ => rfl) fun _ => ⟨rfl, rfl⟩) fun _ => ?_
    refine .bind (rounds_inStep t s bound).attempt fun tally => ?_
    cases tally with
    | error f => exact endAt_inStep f
    | ok tally =>
      exact .look fun w => .bind (.ofExcept _) fun lines => .bind (draw_inStep _) fun _ => .pure _

theorem PlanTask.perform_inStep (t : PlanTask) (s : Settings) (name : String) :
    (t.perform s name).InStep (t.perform s.masked name) := by
  change (t.perform s name).InStep (t.perform s name)
  rw [perform]
  refine .bind (.ofExcept _) fun url => ?_
  dsimp only
  split
  · refine .bind (.ofExcept _) fun p => .bind (.ofExcept _) fun text => ?_
    exact .bind (print_inStep _) fun _ => .pure _
  · exact endWith_inStep _ _

theorem ResultTask.endAt_inStep (f : Fault) : (endAt f).InStep (endAt f) := by
  cases f with
  | setting message => exact endWith_inStep _ _
  | stage f =>
    rw [endAt]
    split <;> exact endWith_inStep _ _
  | file f => exact .fail _
  | defect kind message => exact .fail _

theorem ResultTask.look_inStep (s : Settings) (transaction : String) :
    (look s transaction).InStep (look s transaction) := by
  have leaf : (requireLeaf s transaction).InStep (requireLeaf s transaction) := by
    rw [requireLeaf, resolveLeaf, Poller.leaf?]
    refine .bind (.bind (runTool_inStep _) fun _ => .pure _) fun leaf => ?_
    cases leaf with
    | none => exact .fail _
    | some leaf => exact .pure _
  rw [look]
  refine .bind leaf fun leaf => .bind ?_ fun _ => .pure _
  rw [fetchPayload, Poller.payload]
  exact .bind (runTool_inStep _) fun _ => .ofExcept _

theorem ResultTask.perform_inStep (t : ResultTask) (s : Settings) :
    (t.perform s).InStep (t.perform s.masked) := by
  change (t.perform s).InStep (t.perform s)
  rw [perform]
  refine .bind (look_inStep s t.transaction).attempt fun found => ?_
  cases found with
  | error f => exact endAt_inStep f
  | ok found =>
    obtain ⟨leaf, payload⟩ := found
    refine .bind (print_inStep _) fun _ => .bind (print_inStep _) fun _ => ?_
    dsimp only
    split
    · exact .pure _
    · exact .bind (print_inStep _) fun _ => .pure _

theorem DoctorTask.perform_inStep (t : DoctorTask) {s : Settings} (h : s.storage.HasKeys) :
    (t.perform s).InStep (t.perform s.masked) :=
  .bind (checkSetup_inStep h t.needChain) fun _ => .bind (print_inStep _) fun _ => .pure _

namespace Frontend

variable (c : Frontend)

theorem endReading_inStep (program : String) (page : Page) (h : Halt) :
    (c.endReading program page h).InStep (c.endReading program page h) := by
  cases h with
  | nothing => exact .look fun w => endWith_inStep _ _
  | help => exact .look fun w => .bind (print_inStep _) fun _ => .pure _
  | version => exact .bind (print_inStep _) fun _ => .pure _
  | mistake f =>
    rw [endReading]
    split
    · exact .look fun w => .bind (complain_inStep _) fun _ => endWith_inStep _ _
    · exact endWith_inStep _ _
  | broken f => exact .fail f

theorem readThen_inStep {σ : Type} (program : String) (page : Page) (told : Except Halt σ)
    {perform perform' : σ → Activity ExitStatus} (h : ∀ t, (perform t).InStep (perform' t)) :
    (c.readThen program page told perform).InStep (c.readThen program page told perform') := by
  cases told with
  | error e => exact c.endReading_inStep program page e
  | ok t => exact h t

/-- A command is in step with the one that has masked settings. -/
theorem perform_inStep (i : Invocation) (program : String) {s : Settings} (h : s.storage.HasKeys)
    (bound : Nat) : (c.perform i program s bound).InStep (c.perform i program s.masked bound) := by
  rw [perform, perform]
  cases i.page with
  | run => exact c.readThen_inStep _ _ _ fun t => t.perform_inStep c.draw s bound
  | plan =>
    exact c.readThen_inStep _ _ _ fun t =>
      c.readThen_inStep _ _ _ fun name => t.perform_inStep s name
  | result => exact c.readThen_inStep _ _ _ fun t => t.perform_inStep s
  | doctor => exact c.readThen_inStep _ _ _ fun t => t.perform_inStep h
  | commands => exact .pure _

end Frontend

/-! ### Errands -/

/-- What is done with the settings of a run. -/
inductive Errand where
  /-- The job of a block. -/
  | job (mock : Bool) (block : Int)
  /-- Rounds of jobs. -/
  | rounds (t : RunTask)
  /-- A command under the name of the program. -/
  | command (program : String) (i : Invocation)
  /-- Something else that changes the world, whatever the keys in it are, and leaves it with a
  discreet client. -/
  | meanwhile (change : World → World) (blind : ∀ w, change w.masked = (change w).masked)
      (discreet : ∀ w, w.HasDiscreetClient → (change w).HasDiscreetClient)

/-- What an errand gives. -/
inductive Errand.Outcome where
  /-- Nothing. -/
  | done
  /-- The blocks of the rounds. -/
  | blocks (t : Tally)
  /-- The exit status of a command. -/
  | status (status : ExitStatus)

/-- An errand, with a bound on its rounds and on the polls of a job. -/
def Errand.perform (c : Frontend) (s : Settings) (bound : Nat) : Errand → Activity Errand.Outcome
  | job mock block => do
    runJob s mock bound block
    return .done
  | rounds t => .blocks <$> t.rounds s bound
  | command program i => .status <$> c.perform i program s bound
  | meanwhile change _ _ => do
    modify change
    return .done

/-- Errands one after another: what each of them gives or ends with, and the world after it. -/
def runErrands (c : Frontend) (s : Settings) (bound : Nat) :
    List Errand → World → List (Except Interruption Errand.Outcome × World)
  | [], _ => []
  | e :: es, w =>
    let went := (e.perform c s bound).runIn w
    went :: runErrands c s bound es went.2

section Errands

variable (c : Frontend) {s : Settings} (h : s.storage.HasKeys) (bound : Nat)

include h

/-- An errand under the mask is the masked one, and the client stays discreet. -/
theorem Errand.perform_masked (e : Errand) {w : World} (discreet : w.HasDiscreetClient) :
    (e.perform c s.masked bound).runIn w.masked =
        (((e.perform c s bound).runIn w).1, ((e.perform c s bound).runIn w).2.masked) ∧
      ((e.perform c s bound).runIn w).2.HasDiscreetClient := by
  -- What runs is in step; what happens in between is told to be blind.
  have ofInStep : ∀ {a b : Activity Errand.Outcome}, a.InStep b →
      b.runIn w.masked = ((a.runIn w).1, (a.runIn w).2.masked) ∧
        (a.runIn w).2.HasDiscreetClient :=
    fun inStep => ⟨inStep.masksTo w discreet, inStep.stays.hasDiscreetClient discreet rfl⟩
  cases e with
  | job mock block => exact ofInStep (.bind (runJob_inStep s mock bound block) fun _ => .pure _)
  | rounds t => exact ofInStep (t.rounds_inStep s bound).map
  | command program i => exact ofInStep (c.perform_inStep i program h bound).map
  | meanwhile change blind keeps =>
    rw [perform, perform, runIn_bind_ok (runIn_modify _ _), runIn_bind_ok (runIn_modify _ _), blind]
    exact ⟨rfl, keeps w discreet⟩

/-- Errands under the mask are the masked ones. -/
theorem runErrands_masked (es : List Errand) {w : World} (discreet : w.HasDiscreetClient) :
    runErrands c s.masked bound es w.masked =
      (runErrands c s bound es w).map fun went => (went.1, went.2.masked) := by
  induction es generalizing w with
  | nil => rfl
  | cons e es ih =>
    obtain ⟨went, discreet⟩ := e.perform_masked c h bound discreet
    rw [runErrands, runErrands, List.map_cons, went, ih discreet]

end Errands

/-- Errands that differ in the keys of the storage go alike, where the storage client does not write
its keys to the log: each gives the same or ends with the same fault, and after each the worlds are
equal but for the keys that clients are made with. -/
theorem runErrands_alike (c : Frontend) (s : Settings) {access secret access' secret' : Json}
    (given : (s.withKeys access secret).storage.HasKeys)
    (given' : (s.withKeys access' secret').storage.HasKeys) (bound : Nat) (es : List Errand)
    {w : World} (discreet : w.HasDiscreetClient) :
    List.Forall₂ (fun went went' => went'.1 = went.1 ∧ went.2.Alike went'.2)
      (runErrands c (s.withKeys access secret) bound es w)
      (runErrands c (s.withKeys access' secret') bound es w) := by
  have first := runErrands_masked c given bound es discreet
  have second := runErrands_masked c given' bound es discreet
  rw [Settings.masked_withKeys] at first second
  have same := first.symm.trans second
  rw [← List.forall₂_eq_eq_eq, List.forall₂_map_left_iff, List.forall₂_map_right_iff] at same
  refine same.imp fun went went' equal => ?_
  obtain ⟨result, world⟩ := Prod.mk.inj equal
  exact ⟨result.symm, World.alike_iff.mpr world⟩

/-- A job for which a client is made, and commands after it. -/
theorem runErrands_alike_sample :
    let es : List Errand :=
      [.job false 5, .command "relay" ⟨.initial, .doctor, []⟩,
        .meanwhile (fun w => { w with clock := w.clock + 60 }) (fun _ => rfl) fun _ h => h,
        .command "relay" ⟨.initial, .plan, ["--checksum", "c0ffee", "--block", "5"]⟩,
        .command "relay" ⟨.initial, .result, ["77"]⟩]
    let went := fun access secret =>
      runErrands .usual (sampleSettings.withKeys (.str access) (.str secret)) 1 es sampleWorld
    sampleWorld.HasDiscreetClient ∧
      ((went "ak" "sk").head?.map fun first => first.2.hasClient) = some true ∧
      List.Forall₂ (fun went went' => went'.1 = went.1 ∧ went.2.Alike went'.2) (went "ak" "sk")
        (went "al" "sl") := by
  intro es went
  have discreet : sampleWorld.HasDiscreetClient := fun _ _ => rfl
  refine ⟨discreet, by decide +kernel, ?_⟩
  exact runErrands_alike .usual sampleSettings ⟨rfl, rfl⟩ ⟨rfl, rfl⟩ 1 es discreet

end CommandLine

end ProofRelay

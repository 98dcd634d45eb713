import ProofRelay.Proofs.Job.Questions
import ProofRelay.Proofs.World.Faults

/-!
# The faults of a job's operations

Which faults each operation of a job can end with.  A tool that fails, an output without the
expected shape, a file that the storage does not take and a wait that ends are failed stages, each
with its own cause and without a place, but for the end of a wait, which knows that it was polling.
What remains is bare: a directory that cannot be made, an address that cannot be split, a number
that cannot be written.

## Main definitions

* `Cause.isTool` : the causes of tools that fail.
* `Fault.OfWait` : the faults of a wait.

## Main results

* `runTool_raises`, `captureWitness_raises`, `witnessChecksum_raises`, `publish_raises`,
  `submitPlan_raises`, `pollOnce_raises`, `waitForVerdict_raises`, `writePayload_raises` : the
  faults of the operations.
* `jobPlan_throws` : the faults of the way to a plan.
-/

namespace ProofRelay

open Activity ProofRelay.Text Fault

/-! ### Files and directories -/

namespace FileTree

variable {t : FileTree} {p q : Path}

theorem throws_refused {α : Type} (e : FileProblem) (p : Path) :
    Throws IsBare (refused e p : Except Fault α) :=
  .error (.file _)

theorem throws_probe : Throws IsBare (t.probe p) := by
  rw [probe]
  split
  · exact .ok _
  · split
    · exact .ok _
    · exact throws_refused _ _
    · exact .ok _

theorem throws_ensureDirectory : Throws IsBare (t.ensureDirectory p) := by
  rw [ensureDirectory]
  split
  · exact .ok _
  · exact throws_refused _ _
  · split
    · exact .ok _
    · exact throws_refused _ _

/-- A change that is done whole or not at all is broken off by its own fault. -/
theorem isBare_of_orSame {x : Except Fault FileTree} (h : Throws IsBare x) :
    ∀ f, (t.orSame x).2 = some f → f.IsBare := by
  cases x with
  | ok u => nofun
  | error e =>
    rintro _ ⟨⟩
    exact h e rfl

theorem isBare_of_ensureDirectories (t : FileTree) (p : Path) (depth : Nat) :
    ∀ f, (t.ensureDirectories p depth).2 = some f → f.IsBare := by
  induction depth generalizing t p with
  | zero => exact isBare_of_orSame throws_ensureDirectory
  | succ depth ih =>
    rw [ensureDirectories]
    split
    · rintro _ ⟨⟩
    · have above := ih t p.parent
      cases made : t.ensureDirectories p.parent depth with
      | mk u fault =>
        rw [made] at above
        cases fault with
        | some f =>
          rintro _ ⟨⟩
          exact above f rfl
        | none => exact isBare_of_orSame throws_ensureDirectory
    · refine isBare_of_orSame ?_
      split
      · exact .ok _
      · exact throws_refused _ _

theorem isBare_of_makeDirectories : ∀ f, (t.makeDirectories p).2 = some f → f.IsBare := by
  rw [makeDirectories]
  split
  · rintro _ ⟨⟩
    exact .value _
  · exact isBare_of_ensureDirectories t p _

theorem throws_writeFile {bytes : List UInt8} : Throws IsBare (t.writeFile p bytes) := by
  rw [writeFile]
  split
  · exact .error (.value _)
  · split
    · exact throws_refused _ _
    · split
      · exact throws_refused _ _
      · exact .ok _
      · exact .ok _

theorem throws_renameFile : Throws IsBare (t.renameFile p q) := by
  rw [renameFile]
  split
  · exact .error (.file _)
  · exact .error (.file _)
  · split
    · exact .error (.file _)
    · exact .error (.file _)
    · exact .ok _

end FileTree

/-! ### Values of settings and outputs -/

section Values

variable {s : Settings} {n : Int}

theorem throws_under (p : Path) (v : Json) : Throws IsBare (p.under v) := by
  rw [Path.under]
  split
  · exact .ok _
  · exact .error (.defect ..)

theorem throws_witnessPath : Throws IsBare (witnessPath s n) := by
  refine .bind (throws_under _ _) fun root => .bind ?_ fun name => .ok _
  rw [witnessFileName]
  split
  · exact .error (.value _)
  · exact .ok _

theorem throws_resultPath : Throws IsBare (resultPath s n) :=
  .bind (throws_under _ _) fun _ => .ok _

theorem throws_toInt (v : Json) : Throws IsBare v.toInt := by
  cases v with
  | null | arr xs | obj fs => exact .error (.defect ..)
  | bool b => exact .ok _
  | int n => exact .ok _
  | float x =>
    rw [Json.toInt]
    split
    · exact .ok _
    · split
      · exact .error (.value _)
      · exact .error (.defect ..)
  | str s =>
    rw [Json.toInt, Json.intOfText]
    split
    · exact .ok _
    · exact .error (.value _)
    · exact .error (.value _)
  | torn ps => exact .error (.value _)

namespace Endpoint

theorem throws_checkBracketed (host : List Char) : Throws IsBare (checkBracketed host) := by
  rw [checkBracketed]
  split
  · split
    · exact .ok _
    · exact .error (.value _)
  · split
    · exact .error (.value _)
    · split
      · exact .ok _
      · exact .error (.value _)

theorem throws_checkBrackets (authority : List Char) :
    Throws IsBare (checkBrackets authority) := by
  rw [checkBrackets]
  dsimp only
  split
  · split
    · exact .error (.value _)
    · split
      · exact .error (.value _)
      · exact throws_checkBracketed _
  · exact throws_checkBracketed _

theorem throws_checkAuthority (authority : List Char) :
    Throws IsBare (checkAuthority authority) := by
  rw [checkAuthority]
  split
  · exact .error (.value _)
  · split
    · exact throws_checkBrackets _
    · exact .ok _

theorem throws_checkMarks (authority : List Char) : Throws IsBare (checkMarks authority) := by
  rw [checkMarks]
  split
  · exact .error (.value _)
  · exact .ok _

theorem throws_read (address : String) : Throws IsBare (Endpoint.read address) :=
  .bind (throws_checkAuthority _) fun _ => .bind (throws_checkMarks _) fun _ => .ok _

end Endpoint

namespace StorageSettings

theorem throws_serviceAt (address : Json) : Throws IsBare (serviceAt address) := by
  cases address with
  | str s => exact Endpoint.throws_read s
  | torn ps => exact Endpoint.throws_read _
  | _ => exact .error (IsBare.defect _ _)

theorem throws_objectUrl (s : StorageSettings) (key : String) :
    Throws IsBare (s.objectUrl key) := by
  refine .map ?_
  rw [urlBase]
  split
  · rw [underPublicUrl]
    split
    · exact .ok _
    · exact .error (.defect ..)
  · exact .ok _
  · exact .map (throws_serviceAt _)

end StorageSettings

theorem throws_checksum (output : String) :
    Throws (Fault.Of (· = .checksum)) (Checksum.read output) := by
  rw [Checksum.read]
  split
  · exact .ok _
  · split
    · exact .ok _
    · exact .error (.failed rfl rfl rfl)

namespace Payload

theorem throws_unexpected {α : Type} (output message : String) :
    Throws (Fault.Of (· = .output)) (unexpected output message : Except Fault α) :=
  .error (.failed rfl rfl rfl)

theorem throws_chunk (output : String) (v : Json) :
    Throws (Fault.Of (· = .output)) (chunk output v) := by
  rw [chunk]
  split
  · split
    · exact .ok _
    · exact throws_unexpected _ _
  · exact .error (.bare (.defect ..))

theorem throws_chunks (output : String) (entries : List Json) :
    Throws (Fault.Of (· = .output)) (chunks output entries) := by
  induction entries with
  | nil => exact .ok _
  | cons entry entries ih =>
    rw [chunks]
    split
    · exact ih
    · split
      · next e bad => exact .error (throws_chunk output _ e bad)
      · exact .map ih

theorem throws_ofEntries (output : String) (v : Json) :
    Throws (Fault.Of (· = .output)) (ofEntries output v) := by
  cases v with
  | null => exact .ok _
  | arr entries =>
    refine .bind (throws_chunks output entries) fun bytes => ?_
    rw [ofBytes]
    split
    · exact .ok _
    · exact throws_unexpected _ _
  | _ => exact throws_unexpected _ _

/-- A payload is read, or the output lacks the expected shape, or it holds a number or a value that
cannot be worked with. -/
theorem throws_ofOutput (output : String) :
    Throws (Fault.Of (· = .output)) (ofOutput output) := by
  rw [ofOutput]
  dsimp only
  split
  · exact .ok _
  · split
    · exact throws_ofEntries _ _
    · split
      · exact throws_unexpected _ _
      · exact .error (.bare (.value _))

end Payload

/-! ### Plans -/

theorem throws_check (p : Plan Json) : Throws IsBare p.check := by
  have sources : ∀ (prover proof : Json) (ss : List (Json × Json)),
      Throws IsBare (checkSources prover proof ss) := by
    intro prover proof ss
    induction ss with
    | nil => exact .ok _
    | cons s ss ih =>
      rw [checkSources, checkSource]
      split
      · next e bad =>
        split at bad
        · cases bad
          exact .error (.value _)
        · split at bad
          · cases bad
            exact .error (.value _)
          · cases bad
      · exact ih
  rw [Plan.check]
  split
  · exact .error (.value _)
  · split
    · exact .error (.value _)
    · exact sources _ _ _

theorem throws_required {P : Fault → Prop} {value : Json} {name : String}
    (unset : value.given? = none → ∀ message, P (.setting message)) :
    Throws P (required value name) := by
  rw [required]
  split
  · exact .ok _
  · next absent => exact .error (unset absent _)

/-- The way to a plan ends with a setting that is missing, or with a witness or a plan that does not
fit. -/
theorem jobPlan_throws_of {P : Fault → Prop} (bare : ∀ f, f.IsBare → P f) (s : Settings) (j : Job)
    (prover : s.proverHash.given? = none → ∀ message, P (.setting message))
    (verifier : s.verifierHash.given? = none → ∀ message, P (.setting message))
    (parameters : s.taskParametersPath.given? = none → ∀ message, P (.setting message)) :
    Throws P (jobPlan s j) := by
  refine .bind ?_ fun w => .bind (throws_required prover) fun _ =>
    .bind (throws_required verifier) fun _ => .bind (throws_required parameters) fun _ => ?_
  · rw [Job.witness]
    split
    · exact .ok _
    · exact .error (bare _ (.value _))
  · exact ((throws_check _).map).mono bare

/-- The way to a plan ends with a missing setting or a bare fault. -/
theorem jobPlan_throws (s : Settings) (j : Job) :
    Throws (fun f => f.IsBare ∨ ∃ m, f = .setting m) (jobPlan s j) :=
  jobPlan_throws_of (fun _ => .inl) s j (fun _ m => .inr ⟨m, rfl⟩) (fun _ m => .inr ⟨m, rfl⟩)
    fun _ m => .inr ⟨m, rfl⟩

end Values

/-! ### Tools, storage and files -/

theorem updateJob_raises {P : Fault → Prop} (change : Job → Job) : (updateJob change).Raises P :=
  .of_ok (fun _ => ⟨(), rfl⟩) fun _ => ⟨rfl, rfl⟩

/-- Whether a tool failed. -/
inductive Cause.IsTool : Cause → Prop
  /-- The tool failed. -/
  | intro (command : List Json) (exitStatus : Option Int) (out err : String) :
    IsTool (.tool command exitStatus out err)

theorem runTool_raises (c : ToolCall) : (runTool c).Raises (Fault.Of Cause.IsTool) := by
  have logged : ∀ logged message, (logCall logged message).Raises (Fault.Of Cause.IsTool) := by
    intro logged message
    rw [logCall]
    split
    · exact .log _ _ _
    · exact .pure ()
  have failed : ∀ command message status out err,
      Fault.Of Cause.IsTool (.stage (.ofTool command message status out err)) :=
    fun command _ status out err => .failed (.intro command status out err) rfl rfl
  rw [runTool]
  refine .bind .get fun w => .bind (logged _ _) fun _ => .callTool_bind fun e raised => ?_
  cases e with
  | unknown => exact .fail (failed ..)
  | notStarted reason => exact .fail (failed ..)
  | garbled f => exact .fail (.bare (raised f rfl))
  | exited status out err =>
    refine .bind (logged _ _) fun _ => ?_
    split
    · exact .pure _
    · exact .fail (failed ..)

theorem isFileAt_raises (p : Path) : (isFileAt p).Raises IsBare := by
  rw [isFileAt, entryAt]
  refine .bind (.bind .get fun w => .ofExcept FileTree.throws_probe) fun e => ?_
  cases e <;> exact .pure _

/-- A capture ends with a setting that is missing, with a failed tool or with a bare fault. -/
theorem captureWitness_raises_of {P : Fault → Prop} (tool : ∀ f, Fault.Of Cause.IsTool f → P f)
    (s : Settings) (n : Int)
    (unset : s.parametersPath.given? = none ∨ s.captureUrl.given? = none →
      ∀ message, P (.setting message)) :
    (captureWitness s n).Raises P := by
  rw [captureWitness]
  split
  · next absent => exact .fail (unset (.inl absent) _)
  · next absent => exact .fail (unset (.inr absent) _)
  · refine Raises.mono (P := Fault.Of Cause.IsTool) ?_ tool
    refine .bind (.ofExcept (throws_witnessPath.mono of_of_isBare)) fun p => ?_
    refine .bind (.changeFiles fun t f made => .bare (FileTree.isBare_of_makeDirectories f made))
      fun _ => .bind (.log _ _ _) fun _ => .bind (runTool_raises _) fun said => ?_
    refine .bind ((isFileAt_raises p).mono of_of_isBare) fun there => ?_
    split
    · exact .pure _
    · exact .fail (.failed (.intro ..) rfl rfl)

/-- A capture ends with a missing setting, a failed tool or a bare fault. -/
theorem captureWitness_raises (s : Settings) (n : Int) :
    (captureWitness s n).Raises fun f => Fault.Of Cause.IsTool f ∨ ∃ m, f = .setting m :=
  captureWitness_raises_of (fun _ => .inl) s n fun _ m => .inr ⟨m, rfl⟩

theorem witnessChecksum_raises (s : Settings) (n : Int) :
    (witnessChecksum s n).Raises (Fault.Of fun c => c.IsTool ∨ c = .checksum) := by
  rw [witnessChecksum]
  refine .bind (.ofExcept (throws_witnessPath.mono of_of_isBare)) fun p => ?_
  refine .bind ((runTool_raises _).mono fun f h => h.mono fun _ => .inl) fun said => ?_
  refine .bind (.ofExcept ((throws_checksum _).mono fun f h => h.mono fun _ => .inr)) fun c => ?_
  exact .bind (.log _ _ _) fun _ => .pure _

theorem publish_raises (s : StorageSettings) (p : Path) (key : String) :
    (s.publish p key).Raises (Fault.Of (· = .upload)) := by
  rw [StorageSettings.publish]
  refine .bind ((isFileAt_raises p).mono of_of_isBare) fun there => ?_
  split
  · exact .fail (.failed rfl rfl rfl)
  · refine .bind (.log _ _ _) fun _ => .sendFile_bind fun r raised => ?_
    cases r with
    | refused reason => exact .fail (.failed rfl rfl rfl)
    | broken f => exact .fail (.bare (raised f rfl))
    | stored =>
      refine .bind (.ofExcept ((s.throws_objectUrl key).mono of_of_isBare)) fun url => ?_
      exact .bind (.log _ _ _) fun _ => .pure _

theorem submitPlan_raises (s : Settings) (p : Plan Json) :
    (submitPlan s p).Raises (Fault.Of fun c => c.IsTool ∨ c = .submission) := by
  rw [submitPlan]
  refine .bind (.log _ _ _) fun _ => ?_
  refine .bind ((runTool_raises _).mono fun f h => h.mono fun _ => .inl) fun said => ?_
  split
  · exact .fail (.failed (.inr rfl) rfl rfl)
  · exact .bind (.log _ _ _) fun _ => .pure _

theorem writePayload_raises (p : Path) (payload : String) :
    (writePayload p payload).Raises IsBare := by
  rw [writePayload]
  refine .bind (.changeFiles fun t => FileTree.isBare_of_makeDirectories) fun _ => ?_
  refine .bind (.changeFiles fun t => FileTree.isBare_of_orSame FileTree.throws_writeFile)
    fun _ => ?_
  exact .changeFiles fun t => FileTree.isBare_of_orSame FileTree.throws_renameFile

/-! ### Polls and waits -/

section Polls

variable {s : Settings} {transaction : String}

theorem resolveLeaf_raises (s : Settings) (transaction : String) :
    (resolveLeaf s transaction).Raises (Fault.Of Cause.IsTool) :=
  .bind (runTool_raises _) fun _ => .pure _

theorem fetchPayload_raises (s : Settings) (leaf : String) :
    (fetchPayload s leaf).Raises (Fault.Of fun c => c.IsTool ∨ c = .output) :=
  .bind ((runTool_raises _).mono fun _ h => h.mono fun _ => .inl) fun _ =>
    .ofExcept ((Payload.throws_ofOutput _).mono fun _ h => h.mono fun _ => .inr)

theorem pollOnce_raises (s : Settings) (transaction : String) :
    (pollOnce s transaction).Raises (Fault.Of fun c => c.IsTool ∨ c = .output) := by
  rw [pollOnce, Poller.pollOnce]
  refine .bind ((resolveLeaf_raises s transaction).mono fun _ h => h.mono fun _ => .inl)
    fun leaf => ?_
  cases leaf with
  | none => exact .pure _
  | some leaf => exact .bind (fetchPayload_raises s leaf) fun _ => .pure _

/-- The faults of a wait: those of its polls, and its end without a verification, which knows that
it was polling. -/
inductive Fault.OfWait : Fault → Prop
  /-- A poll failed, or a time could not be written. -/
  | poll {f : Fault} (h : Fault.Of (fun c => c.IsTool ∨ c = .output) f) : OfWait f
  /-- There was no verification in time, or the caller asked to stop. -/
  | ended {f : StageFault} (cause : f.cause = .timeout ∨ f.cause = .cancelled)
    (block : f.block = none) (stage : f.stage = some "poll") : OfWait (.stage f)

theorem wholeSeconds_raises (x : Float) : (wholeSeconds x).Raises IsBare :=
  .bind (.ofExcept (throws_toInt (.float x))) fun _ => .pure _

theorem runFrom_raises (s : Settings) (transaction : String) (policy : PollPolicy Float)
    (start : Float) (polls attempt : Nat) (delay : Float) :
    ((verificationWait s transaction).runFrom policy start polls attempt delay).Raises OfWait := by
  induction polls generalizing attempt delay with
  | zero => exact .pure _
  | succ polls ih =>
    have seconds : ∀ x, (wholeSeconds x).Raises OfWait :=
      fun x => (wholeSeconds_raises x).mono fun _ h => .poll (.bare h)
    rw [Waiting.runFrom]
    refine .bind ((pollOnce_raises s transaction).mono fun _ => .poll) fun result => ?_
    refine .bind .now fun time => ?_
    dsimp only
    split
    · exact .bind (.bind (seconds _) fun _ => .log _ _ _) fun _ => .pure _
    · split
      · refine .bind (.bind (seconds _) fun _ => ?_) fun _ => .pure _
        exact .fail (.ended (.inl rfl) rfl rfl)
      · refine .bind (.bind (seconds _) fun _ => .log _ _ _) fun _ => ?_
        refine .bind (.pause _) fun cut => ?_
        split
        · exact .bind (.fail (.ended (.inr rfl) rfl rfl)) fun _ => .pure _
        · exact ih _ _

theorem waitForVerdict_raises (s : Settings) (transaction : String) (bound : Nat) :
    (waitForVerdict s transaction bound).Raises OfWait := by
  rw [waitForVerdict, Waiting.run]
  refine .bind (.bind .now fun start => runFrom_raises s transaction _ start bound 0 _)
    fun result => ?_
  cases result with
  | none => exact .endless
  | some result => exact .pure _

end Polls

end ProofRelay

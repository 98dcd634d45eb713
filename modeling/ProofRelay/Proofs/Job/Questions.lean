import ProofRelay.Job.Run
import ProofRelay.Proofs.Files.Contents
import ProofRelay.Proofs.World.Conduct

/-!
# The questions of a job

In front of the wait a job asks four questions: the capture program is called, the witness is
hashed, the file is uploaded, the plan is submitted.  Each activity that asks one of them fails
before the question, or asks it and fails, or asks it and goes on with something learned from the
answer.  Directories may be made before the question; nothing else happens outside.

## Main definitions

* `ToolReply.said?` : what a tool said that succeeded.
* `Post.single` : the conduct of an activity that asks one question.
* `IsCapture`, `IsChecksum`, `IsUpload`, `IsSubmission` : the questions.
* `CaptureEnd` : how captures end.

## Main results

* `runTool_does` : the conduct of a call that has to succeed.
* `captureWitness_ends`, `captureWitness_does`, `witnessChecksum_does`, `publish_does`,
  `submitPlan_does` : the conduct of the activities that ask.
-/

namespace ProofRelay

open Activity ProofRelay.Text

/-! ### Tools that succeed -/

/-- What a tool said that succeeded. -/
def ToolReply.said? (reply : ToolReply) : Option ToolOutput :=
  match reply.ending with
  | .exited status out err => if status = 0 then some ⟨out, err⟩ else none
  | _ => none

theorem quiet_logCall (logged : Bool) (message : String) : (logCall logged message).Quiet := by
  rw [logCall]
  split
  · exact quiet_log _ _ _
  · exact .pure ()

theorem runIn_logCall (logged : Bool) (message : String) (w : World) :
    ((logCall logged message).runIn w).1 = .ok () := by
  rw [logCall]
  split <;> rfl

/-- The end of a call does nothing outside, and gives what the tool said. -/
theorem concludeCall_does (c : ToolCall) (logged : Bool) (reply : ToolReply) (w : World) :
    (concludeCall c logged reply.ending).Does w fun ds r w' =>
      ds = [] ∧ r.toOption = reply.said? ∧ w'.job = w.job := by
  rw [ToolReply.said?]
  cases reply.ending with
  | exited status out err =>
    refine (quiet_logCall _ _).does_bind_of_sure ⟨_, runIn_logCall _ _ _⟩ fun _ v _ job => ?_
    by_cases hs : status = 0
    · rw [if_pos hs]
      exact .pure ⟨rfl, (if_pos hs).symm, job⟩
    · rw [if_neg hs]
      exact .fail ⟨rfl, (if_neg hs).symm, job⟩
  | unknown => exact .fail ⟨rfl, rfl, rfl⟩
  | notStarted reason => exact .fail ⟨rfl, rfl, rfl⟩
  | garbled f => exact .fail ⟨rfl, rfl, rfl⟩

/-- A call that has to succeed is one deed, and gives what the tool said. -/
theorem runTool_does (c : ToolCall) (w : World) :
    (runTool c).Does w fun ds r w' =>
      ∃ reply, ds = [.call c reply] ∧ r.toOption = reply.said? ∧ w'.job = w.job := by
  rw [runTool]
  refine .get_bind ?_
  refine (quiet_logCall _ _).does_bind_of_sure ⟨_, runIn_logCall _ _ _⟩ fun _ v _ job => ?_
  refine .bind ((callTool_does c v).mono ?_)
  rintro _ _ w₁ ⟨reply, rfl, rfl, job'⟩
  refine (concludeCall_does c _ reply w₁).mono ?_
  rintro _ r w₂ ⟨rfl, said, job''⟩
  exact ⟨reply, rfl, said, job''.trans (job'.trans job)⟩

/-- A call that has to succeed comes first. -/
theorem Activity.Does.runTool_bind {α : Type} {c : ToolCall} {f : ToolOutput → Activity α}
    {w : World} {Q : Post α}
    (bad : ∀ reply i w', reply.said? = none → w'.job = w.job → Q [.call c reply] (.error i) w')
    (good : ∀ reply said w', reply.said? = some said → w'.job = w.job →
      (f said).Does w' fun es r w'' => Q ([.call c reply] ++ es) r w'') :
    (runTool c >>= f).Does w Q := by
  refine .bind ((runTool_does c w).mono ?_)
  rintro _ r w₁ ⟨reply, rfl, said, job⟩
  cases r with
  | error i => exact bad reply i w₁ said.symm job
  | ok x => exact good reply x w₁ said.symm job

/-! ### Files -/

/-- Deeds that only make directories. -/
def OnlyDirectories (ds : List Deed) : Prop :=
  ∃ ls : List Location, ds = ls.map .made

theorem OnlyDirectories.nil : OnlyDirectories [] := ⟨[], rfl⟩

theorem OnlyDirectories.forall_mem {P : Deed → Prop} {ds : List Deed} (h : OnlyDirectories ds)
    (made : ∀ l, P (.made l)) : ∀ d ∈ ds, P d := by
  obtain ⟨ls, rfl⟩ := h
  intro d hd
  obtain ⟨l, -, rfl⟩ := List.mem_map.1 hd
  exact made l

/-- Making directories comes first. -/
theorem Activity.Does.makeDirectories_bind {α : Type} {p : Path} {f : Unit → Activity α}
    {w : World} {Q : Post α}
    (bad : ∀ ds i w', OnlyDirectories ds → Q ds (.error i) w')
    (good : ∀ ds (w' : World), OnlyDirectories ds → History w.outside ds w'.outside →
      w'.job = w.job → (f ()).Does w' fun es r w'' => Q (ds ++ es) r w'') :
    (changeFiles (·.makeDirectories p) >>= f).Does w Q := by
  obtain ⟨ls, hs⟩ := History.of_makeDirectories w.outside p
  refine .bind ⟨ls.map .made, ?_, ?_⟩
  · rw [runIn_changeFiles]
    exact hs
  · rw [runIn_changeFiles]
    dsimp only
    split
    · next h =>
      split at h
      · exact good _ _ ⟨ls, rfl⟩ hs rfl
      · cases h
    · next i h => exact bad _ _ _ ⟨ls, rfl⟩

/-- A single change of the files is done whole or not at all. -/
theorem changeFiles_orSame_does {change : FileTree → Except Fault FileTree} {w : World}
    {Q : Post Unit} (bad : ∀ e, change w.files = .error e → Q [] (.error (.fault e)) w)
    (good : ∀ t, change w.files = .ok t →
      ∃ ds, History w.outside ds { w.outside with files := t } ∧
        Q ds (.ok ()) { w with files := t }) :
    (changeFiles fun t => t.orSame (change t)).Does w Q := by
  rw [Does, runIn_changeFiles]
  cases hc : change w.files with
  | error e => exact ⟨[], rfl, bad e hc⟩
  | ok t =>
    obtain ⟨ds, hs, hQ⟩ := good t hc
    exact ⟨ds, hs, hQ⟩

/-- The fault of a path that is too long to be looked at. -/
def tooLongFault (p : Path) : Interruption :=
  .fault (.file ⟨.nameTooLong, p.toString, none⟩)

/-- Whether a path leads to a file is told unless the path is too long. -/
theorem runIn_isFileAt (p : Path) (w : World) :
    (isFileAt p).runIn w = (.ok (w.files.isFile p), w) ∨
      w.files.status p = .error .nameTooLong ∧
        (isFileAt p).runIn w = (.error (tooLongFault p), w) := by
  have probed : (entryAt p).runIn w = ((w.files.probe p).mapError .fault, w) := by
    rw [entryAt, runIn_bind_ok (runIn_get w), runIn_ofExcept]
  rw [isFileAt, runIn_bind, probed, FileTree.probe, FileTree.isFile]
  cases p.hasNull with
  | true => exact .inl rfl
  | false =>
    cases found : w.files.status p with
    | ok e => exact .inl rfl
    | error problem =>
      cases problem with
      | nameTooLong => exact .inr ⟨rfl, rfl⟩
      | _ => exact .inl rfl

/-- Whether a path leads to a file is asked first. -/
theorem Activity.Does.isFileAt_bind {α : Type} {p : Path} {f : Bool → Activity α} {w : World}
    {Q : Post α} (bad : ∀ i, Q [] (.error i) w) (good : (f (w.files.isFile p)).Does w Q) :
    (isFileAt p >>= f).Does w Q := by
  rcases runIn_isFileAt p w with looked | ⟨-, looked⟩
  · exact good.of_outside rfl (runIn_bind_ok looked f)
  · exact .of_eq (runIn_bind_error looked f) rfl (bad _)

/-! ### One question -/

/-- The conduct of an activity that asks one question. -/
inductive Post.single {α : Type} (asks : Deed → Prop) (gives : Deed → α → World → Prop) : Post α
  /-- It failed before the question. -/
  | unasked {ds i w'} (before : OnlyDirectories ds) : single asks gives ds (.error i) w'
  /-- It failed after the question. -/
  | failed {ds d i w'} (before : OnlyDirectories ds) (asked : asks d) :
      single asks gives (ds ++ [d]) (.error i) w'
  /-- The answer was good. -/
  | given {ds d x w'} (before : OnlyDirectories ds) (asked : asks d) (answer : gives d x w') :
      single asks gives (ds ++ [d]) (.ok x) w'

namespace Post.single

variable {α : Type} {asks : Deed → Prop} {gives : Deed → α → World → Prop} {d : Deed} {w : World}

theorem idle (i : Interruption) : single asks gives [] (.error i) w :=
  unasked .nil

theorem failed_alone (i : Interruption) (asked : asks d) : single asks gives [d] (.error i) w :=
  failed .nil asked

theorem given_alone {x : α} (asked : asks d) (answer : gives d x w) :
    single asks gives [d] (.ok x) w :=
  given .nil asked answer

/-- What holds of new directories and of the question holds of every deed. -/
theorem forall_mem {P : Deed → Prop} {ds : List Deed} {r : Except Interruption α}
    (h : single asks gives ds r w) (made : ∀ l, P (.made l)) (question : ∀ d, asks d → P d) :
    ∀ d ∈ ds, P d := by
  have both : ∀ ds d, OnlyDirectories ds → asks d → ∀ e ∈ ds ++ [d], P e := by
    intro ds d before asked e he
    rcases List.mem_append.1 he with he | he
    · exact before.forall_mem made e he
    · rw [List.mem_singleton.1 he]
      exact question d asked
  cases h with
  | unasked before => exact before.forall_mem made
  | failed before asked => exact both _ _ before asked
  | given before asked answer => exact both _ _ before asked

end Post.single

/-- The capture program is called for the path of a block's witness. -/
structure IsCapture (s : Settings) (n : Int) (p : Path) (reply : ToolReply) (d : Deed) : Prop where
  /-- The path is the one of the witness. -/
  path : witnessPath s n = .ok p
  /-- The call takes the parameters and the data source from the settings. -/
  call : ∃ parameters url, s.parametersPath.given? = some parameters ∧
    s.captureUrl.given? = some url ∧ d = .call (captureCall s n parameters url p) reply

/-- The file at the path of a block's witness is hashed. -/
structure IsChecksum (s : Settings) (n : Int) (p : Path) (reply : ToolReply) (d : Deed) :
    Prop where
  /-- The path is the one of the witness. -/
  path : witnessPath s n = .ok p
  /-- The call names it. -/
  call : d = .call (checksumCall s p) reply

/-- A file is uploaded under a name. -/
def IsUpload (s : Settings) (p : Path) (key : String) (reply : UploadReply) (d : Deed) : Prop :=
  d = .upload (s.storage.upload p key) reply

/-- A plan is submitted. -/
def IsSubmission (s : Settings) (p : Plan Json) (reply : ToolReply) (d : Deed) : Prop :=
  d = .call (submitCall s p) reply

/-- The fault of a capture program that ends with zero without writing the file. -/
def unwrittenFault (c : ToolCall) (p : Path) (said : ToolOutput) : Interruption :=
  .fault (.stage (.ofTool c.line ("capture finished but " ++ p.toString ++ " was not written")
    (some 0) said.out said.err))

/-- How a capture ends. -/
inductive CaptureEnd (s : Settings) (n : Int) (w : World) : Post Path
  /-- It failed before the call. -/
  | unasked {ds i w'} (before : OnlyDirectories ds) : CaptureEnd s n w ds (.error i) w'
  /-- The capture program failed. -/
  | failed {ds c p reply i w'} (before : OnlyDirectories ds)
      (asked : IsCapture s n p reply (.call c reply)) (silent : reply.said? = none) :
      CaptureEnd s n w (ds ++ [.call c reply]) (.error i) w'
  /-- The program succeeded and no file is there. -/
  | unwritten {ds c p reply said i w'} (before : OnlyDirectories ds)
      (asked : IsCapture s n p reply (.call c reply)) (told : reply.said? = some said)
      (fault : i = unwrittenFault c p said ∨
        w'.files.status p = .error .nameTooLong ∧ i = tooLongFault p) :
      CaptureEnd s n w (ds ++ [.call c reply]) (.error i) w'
  /-- The program succeeded and a file is there. -/
  | there {ds c p reply said w'} (before : OnlyDirectories ds)
      (asked : IsCapture s n p reply (.call c reply)) (told : reply.said? = some said)
      (file : w'.files.isFile p = true) (job : w'.job = w.job) :
      CaptureEnd s n w (ds ++ [.call c reply]) (.ok p) w'

/-- The conduct of captures. -/
theorem captureWitness_ends (s : Settings) (n : Int) (w : World) :
    (captureWitness s n).Does w (CaptureEnd s n w) := by
  rw [captureWitness]
  cases hk : s.parametersPath.given? with
  | none => exact .fail (.unasked .nil)
  | some parameters =>
    cases hr : s.captureUrl.given? with
    | none => exact .fail (.unasked .nil)
    | some url =>
      refine .ofExcept_bind (fun _ _ => .unasked .nil) fun p hp => ?_
      refine .makeDirectories_bind (fun _ _ _ before => .unasked before) ?_
      intro ds w₁ before _ job
      have asked : ∀ reply,
          IsCapture s n p reply (.call (captureCall s n parameters url p) reply) :=
        fun reply => ⟨hp, parameters, url, hk, hr, rfl⟩
      refine .note_bind (.runTool_bind (fun reply i w' silent _ =>
        .failed before (asked reply) silent) fun reply said w₂ told job' => ?_) rfl
      rcases runIn_isFileAt p w₂ with looked | ⟨tooLong, looked⟩
      · refine .of_outside ?_ rfl (runIn_bind_ok looked _)
        split
        · next file => exact .pure (.there before (asked reply) told file (job'.trans job))
        · exact .fail (.unwritten before (asked reply) told (.inl rfl))
      · exact .of_eq (runIn_bind_error looked _) rfl
          (.unwritten before (asked reply) told (.inr ⟨tooLong, rfl⟩))

/-- The capture of a witness gives its path, where a file is now. -/
theorem captureWitness_does (s : Settings) (n : Int) (w : World) :
    (captureWitness s n).Does w (.single (fun d => ∃ p reply, IsCapture s n p reply d)
      fun d p w' => w'.files.isFile p = true ∧ w'.job = w.job ∧
        ∃ reply said, IsCapture s n p reply d ∧ reply.said? = some said) := by
  refine (captureWitness_ends s n w).mono fun ds r w' h => ?_
  cases h with
  | unasked before => exact .unasked before
  | failed before asked => exact .failed before ⟨_, _, asked⟩
  | unwritten before asked => exact .failed before ⟨_, _, asked⟩
  | there before asked told file job =>
    exact .given before ⟨_, _, asked⟩ ⟨file, job, _, _, asked, told⟩

/-- The checksum of a witness is read from what the tool said. -/
theorem witnessChecksum_does (s : Settings) (n : Int) (w : World) :
    (witnessChecksum s n).Does w (.single (fun d => ∃ p reply, IsChecksum s n p reply d)
      fun d checksum w' => w'.job = w.job ∧ ∃ p reply said, IsChecksum s n p reply d ∧
        reply.said? = some said ∧ Checksum.read said.out = .ok checksum) := by
  rw [witnessChecksum]
  refine .ofExcept_bind (fun _ _ => .idle _) fun p hp => ?_
  have asked : ∀ reply, IsChecksum s n p reply (.call (checksumCall s p) reply) :=
    fun reply => ⟨hp, rfl⟩
  refine .runTool_bind (fun reply i w' _ _ => .failed_alone _ ⟨p, reply, asked reply⟩)
    fun reply said w₁ hs job => ?_
  refine .ofExcept_bind (fun _ _ => .failed_alone _ ⟨p, reply, asked reply⟩)
    fun checksum hc => ?_
  exact .note_bind (.pure (.given_alone ⟨p, reply, asked reply⟩
    ⟨job, p, reply, said, asked reply, hs, hc⟩)) rfl

/-- An upload gives the address of the object. -/
theorem publish_does (s : Settings) (p : Path) (key : String) (w : World) :
    (s.storage.publish p key).Does w (.single (fun d => ∃ reply, IsUpload s p key reply d)
      fun d url w' => w'.job = w.job ∧ IsUpload s p key .stored d ∧
        s.storage.objectUrl key = .ok url) := by
  rw [StorageSettings.publish]
  refine .isFileAt_bind (fun _ => .idle _) ?_
  split
  · exact .fail (.idle _)
  · refine .note_bind (.bind ((sendFile_does _ _ _).mono ?_)) rfl
    rintro _ _ w₁ ⟨reply, rfl, rfl, job⟩
    have asked : IsUpload s p key reply (.upload (s.storage.upload p key) reply) := rfl
    cases reply with
    | refused reason => exact .fail (.failed_alone _ ⟨_, asked⟩)
    | broken f => exact .fail (.failed_alone _ ⟨_, asked⟩)
    | stored =>
      refine .ofExcept_bind (fun _ _ => .failed_alone _ ⟨_, asked⟩) fun url hu => ?_
      exact .note_bind (.pure (.given_alone ⟨_, asked⟩ ⟨job, asked, hu⟩)) rfl

/-- A submission gives the transaction that the tool names. -/
theorem submitPlan_does (s : Settings) (p : Plan Json) (w : World) :
    (submitPlan s p).Does w (.single (fun d => ∃ reply, IsSubmission s p reply d)
      fun d transaction w' => w'.job = w.job ∧ ∃ reply said, IsSubmission s p reply d ∧
        reply.said? = some said ∧
          Label.value? transactionLabel said.out = some transaction) := by
  rw [submitPlan]
  have asked : ∀ reply, IsSubmission s p reply (.call (submitCall s p) reply) := fun _ => rfl
  refine .note_bind (.runTool_bind
    (fun reply i w' _ _ => .failed_alone _ ⟨reply, asked reply⟩)
    fun reply said w₁ hs job => ?_) rfl
  cases ht : Label.value? transactionLabel said.out with
  | none => exact .fail (.failed_alone _ ⟨reply, asked reply⟩)
  | some transaction =>
    exact .note_bind (.pure (.given_alone ⟨reply, asked reply⟩
      ⟨job, reply, said, asked reply, hs, ht⟩)) rfl

end ProofRelay

import ProofRelay.Proofs.Job.Record

/-!
# The conduct of the stages

A stage does what the activity in it does; only its fault learns where it happened, and the job in
hand is marked.  A stage that succeeds writes what it learned into the job in hand, from which the
plan is made.  The payload of a verification goes into a file that is written beside its place
first, and is then moved there.

## Main definitions

* `captureConduct`, `checksumConduct`, `publishConduct`, `submitConduct` : the conduct of the stages
  with one question.
* `Awaiting`, `Writing` : the conduct of the wait and of the way of a payload into its file.
* `stages`, `stagesCourse` : the stages of a job in a row, and their conduct.
* `jobCourse` : the conduct of a job.

## Main results

* `inStage_does` : a stage does what the activity in it does.
* `runJob_does` : a job takes its course.
-/

namespace ProofRelay

open Activity ProofRelay.Text

variable {α β : Type}

/-! ### Stages -/

/-- Conducts for which it does not matter which fault ends them. -/
def Post.Loose (P : Post α) : Prop :=
  ∀ ds i i' w₁ w₂, P ds (.error i) w₁ → P ds (.error i') w₂

/-- A stage does what the activity in it does. -/
theorem inStage_does {block : Int} {stage : JobStage} {a : Activity α} {w : World} {P : Post α}
    (loose : P.Loose) (h : ∀ v : World, v.outside = w.outside → v.job = w.job → a.Does v P) :
    (inStage block stage a).Does w P := by
  rw [inStage]
  refine .note_bind ((h (w.note _) rfl rfl).onFault ?_ ?_ ?_) rfl
  · intro ds x w₁ good
    exact good
  · intro ds w₁ endless
    exact endless
  · intro ds f w₁ bad
    have bad' : ∀ i (v : World), P (ds ++ []) (.error i) v := by
      intro i v
      rw [List.append_nil]
      exact loose ds _ i w₁ v bad
    cases f with
    | stage f => exact .modify_bind (.note_bind (.fail (bad' _ _)) rfl) rfl
    | setting message => exact .modify_bind (.fail (bad' _ _)) rfl
    | file f => exact .fail (bad' _ _)
    | defect kind message => exact .fail (bad' _ _)

/-! ### Stages with one question -/

section Single

variable {asks : Deed → Prop} {gives : Deed → α → World → Prop} {gives' : Deed → β → World → Prop}

theorem Post.loose_single : (Post.single asks gives).Loose := by
  rintro _ i i' w₁ w₂ (before | ⟨before, asked⟩)
  · exact .unasked before
  · exact .failed before asked

/-- A question and what is done quietly with a good answer. -/
theorem Activity.Does.single_bind {a : Activity α} {f : α → Activity β} {w : World}
    (h : a.Does w (.single asks gives))
    (next : ∀ d x w₁, gives d x w₁ → (f x).Does w₁ fun es r w' =>
      es = [] ∧ ∃ y, r = .ok y ∧ gives' d y w') :
    (a >>= f).Does w (.single asks gives') := by
  refine .bind (h.mono ?_)
  rintro _ _ w₁ (before | ⟨before, asked⟩ | ⟨before, asked, answer⟩)
  · exact .unasked before
  · exact .failed before asked
  · refine (next _ _ w₁ answer).mono ?_
    rintro _ _ w₂ ⟨rfl, y, rfl, answer'⟩
    rw [List.append_nil]
    exact .given before asked answer'

end Single

/-- The conduct of the capture: it gives the path of the witness, where a file is now. -/
def captureConduct (s : Settings) (n : Int) (w : World) : Post Path :=
  .single (fun d => ∃ p reply, IsCapture s n p reply d) fun d p w' =>
    (w'.files.isFile p = true ∧
      w'.job = w.job.map fun j => { j with witnessName := .str p.name, status := .captured }) ∧
    ∃ reply said, IsCapture s n p reply d ∧ reply.said? = some said

/-- The conduct of the checksum: it is written into the job. -/
def checksumConduct (s : Settings) (n : Int) (w : World) : Post Unit :=
  .single (fun d => ∃ p reply, IsChecksum s n p reply d) fun d _ w' =>
    ∃ p reply said checksum, (IsChecksum s n p reply d ∧ reply.said? = some said ∧
      Checksum.read said.out = .ok checksum) ∧
      w'.job = w.job.map fun j =>
        { j with witnessChecksum := .str checksum, status := .checksummed }

/-- The conduct of the publication: the address of the object is written into the job. -/
def publishConduct (s : Settings) (p : Path) (w : World) : Post Unit :=
  .single (fun d => ∃ reply, IsUpload s p p.name reply d) fun d _ w' =>
    ∃ url, (IsUpload s p p.name .stored d ∧ s.storage.objectUrl p.name = .ok url) ∧
      w'.job = w.job.map fun j => { j with witnessUrl := .str url, status := .published }

/-- The conduct of the submission: it gives the transaction that the tool names. -/
def submitConduct (s : Settings) (p : Plan Json) (w : World) : Post String :=
  .single (fun d => ∃ reply, IsSubmission s p reply d) fun d transaction w' =>
    (∃ reply said, IsSubmission s p reply d ∧ reply.said? = some said ∧
      Label.value? transactionLabel said.out = some transaction) ∧
      w'.job = w.job.map fun j =>
        { j with transaction := some transaction, status := .submitted }

/-- The conduct of a captured witness's stages. -/
def witnessCourse (s : Settings) (n : Int) (w : World) : Post Unit :=
  (captureConduct s n w).andThen w fun p w₁ =>
    (checksumConduct s n w₁).andThen w₁ fun _ w₂ => publishConduct s p w₂

theorem takeWitness_does (s : Settings) (n : Int) (w : World) :
    (takeWitness s n).Does w (witnessCourse s n w) := by
  rw [takeWitness]
  refine .andThen (inStage_does Post.loose_single fun v _ hv => ?_) fun _ p w₁ _ =>
    .andThen (inStage_does Post.loose_single fun v _ hv => ?_) fun _ _ w₂ _ =>
      inStage_does Post.loose_single fun v _ hv => ?_
  · refine (captureWitness_does s n v).single_bind ?_
    rintro d p w₁ ⟨there, job, asked⟩
    refine .modify_bind (.pure ⟨rfl, p, rfl, ⟨there, ?_⟩, asked⟩) rfl
    change w₁.job.map _ = _
    rw [job, hv]
  · refine (witnessChecksum_does s n v).single_bind ?_
    rintro d checksum w₂ ⟨job, p, reply, said, asked⟩
    refine .of_eq (runIn_modify _ _) rfl ⟨rfl, (), rfl, p, reply, said, checksum, asked, ?_⟩
    change w₂.job.map _ = _
    rw [job, hv]
  · refine (publish_does s p p.name v).single_bind ?_
    rintro d url w₃ ⟨job, asked⟩
    refine .of_eq (runIn_modify _ _) rfl ⟨rfl, (), rfl, url, asked, ?_⟩
    change w₃.job.map _ = _
    rw [job, hv]

theorem submitJob_does (s : Settings) (n : Int) (p : Plan Json) (w : World) :
    (submitJob s n p).Does w (submitConduct s p w) := by
  rw [submitJob]
  refine inStage_does Post.loose_single fun v _ hv => (submitPlan_does s p v).single_bind ?_
  rintro d transaction w₁ ⟨job, asked⟩
  refine .modify_bind (.pure ⟨rfl, transaction, rfl, asked, ?_⟩) rfl
  change w₁.job.map _ = _
  rw [job, hv]

/-! ### Stages without a question -/

/-- The conduct of the mock witness, which is written into the job. -/
def mockConduct (w : World) : Post Unit := fun ds r w' =>
  ds = [] ∧ r = .ok () ∧ w'.job = w.job.map fun j =>
    { j with
      witnessName := Witness.mock.name
      witnessChecksum := Witness.mock.checksum
      witnessUrl := Witness.mock.url
      status := .published }

theorem takeMockWitness_does (n : Int) (w : World) :
    (takeMockWitness n).Does w (mockConduct w) := by
  rw [takeMockWitness]
  exact .note_bind (.of_eq (runIn_modify _ _) rfl ⟨rfl, rfl, rfl⟩) rfl

/-- The conduct of the plan's stage: a plan is the one of the job in hand. -/
def planConduct (s : Settings) (w : World) : Post (Plan Json) := fun ds r w' =>
  ds = [] ∧ ∀ p, r = .ok p → (∀ j, w.job = some j → jobPlan s j = .ok p) ∧
    w'.job = w.job.map fun j => { j with plan := some p, status := .planned }

theorem makePlan_does (s : Settings) (n : Int) (w : World) :
    (makePlan s n).Does w (planConduct s w) := by
  rw [makePlan]
  refine inStage_does ?_ fun v _ hv => ?_
  · rintro ds i i' w₁ w₂ ⟨rfl, -⟩
    exact ⟨rfl, fun p hp => by cases hp⟩
  · refine .get_bind (.ofExcept_bind (fun f _ => ⟨rfl, fun p hp => by cases hp⟩) fun p hp => ?_)
    refine .modify_bind (.pure ⟨rfl, ?_⟩) rfl
    rintro _ ⟨⟩
    refine ⟨fun j hj => ?_, ?_⟩
    · rw [hv, hj] at hp
      exact hp
    · change v.job.map _ = _
      rw [hv]

/-! ### The wait and the file -/

/-- The conduct of the wait's stage: a result is a verified payload, and any other end may follow
after any polls. -/
inductive Awaiting (s : Settings) (transaction : String) (w : World) : Post PollResult
  /-- It ended without a verification. -/
  | unverified {ds r i w'} (polls : Polls s transaction ds r) :
    Awaiting s transaction w ds (.error i) w'
  /-- The last poll was verified. -/
  | verified {ds result w'} (polls : Polls s transaction ds (.ok result))
      (verdict : result.verdict = .verified)
      (job : w'.job = w.job.map fun j => { j with verification := some result }) :
      Awaiting s transaction w ds (.ok result) w'

theorem Polls.isFinal {s : Settings} {transaction : String} {ds : List Deed} {result : PollResult}
    (h : Polls s transaction ds (.ok result)) : result.verdict.isFinal = true := by
  generalize hr : (Except.ok result : Except Interruption PollResult) = r at h
  induction h with
  | unpolled | failed | ended => cases hr
  | settled poll final => cases hr; exact final
  | again poll pending more ih => exact ih hr

theorem awaitVerification_does (s : Settings) (n : Int) (transaction : String) (bound : Nat)
    (w : World) :
    (awaitVerification s n transaction bound).Does w (Awaiting s transaction w) := by
  rw [awaitVerification]
  refine inStage_does ?_ fun v _ hv => .bind ((waitForVerdict_does s transaction bound v).mono ?_)
  · rintro ds i i' w₁ w₂ ⟨polls⟩
    exact .unverified polls
  · rintro ds r w₁ ⟨polls, job⟩
    cases r with
    | error i => exact .unverified polls
    | ok result =>
      refine .modify_bind ?_ rfl
      split
      · refine .modify_bind (.fail ?_) rfl
        rw [List.append_nil]
        exact .unverified polls
      · next sound =>
        refine .pure ?_
        rw [List.append_nil]
        refine .verified polls ?_ ?_
        · have final := polls.isFinal
          cases verdict : result.verdict with
          | pending => rw [verdict] at final; cases final
          | malformed => exact absurd verdict sound
          | verified => rfl
        · change w₁.job.map _ = _
          rw [job, hv]

/-- The conduct of a payload's way into its file. -/
inductive Writing (p : Path) (bytes : List UInt8) (w : World) : Post Unit
  /-- Nothing was written. -/
  | unwritten {ds i w'} (before : OnlyDirectories ds) : Writing p bytes w ds (.error i) w'
  /-- The bytes were written beside the file only. -/
  | beside {ds i w'} (before : OnlyDirectories ds) :
      Writing p bytes w (ds ++ [.wrote (w.files.target (p.extended ".tmp")) bytes]) (.error i) w'
  /-- The bytes were moved into the file. -/
  | placed {ds w'} (before : OnlyDirectories ds) (there : w'.files.readBytes p = .ok bytes)
      (gone : w.files.target (p.extended ".tmp") ≠ w.files.target p →
        w'.files.find? (w.files.target (p.extended ".tmp")) = none) (job : w'.job = w.job) :
      Writing p bytes w (ds ++ [.wrote (w.files.target (p.extended ".tmp")) bytes,
        .moved (w.files.target (p.extended ".tmp")) (w.files.target p)]) (.ok ()) w'

theorem writePayload_does (p : Path) (payload : String) (w : World) :
    (writePayload p payload).Does w (Writing p (Utf8.ofString payload) w) := by
  rw [writePayload]
  refine .makeDirectories_bind (fun ds i w' before => .unwritten before) ?_
  intro ds w₁ before hs job
  have same : ∀ q, w₁.files.target q = w.files.target q :=
    fun q => FileTree.target_congr hs.here_eq q
  refine .bind (changeFiles_orSame_does (fun e _ => ?_) fun t ht => ?_)
  · rw [List.append_nil]
    exact .unwritten before
  · have wrote := History.of_writeFile (o := w₁.outside) ht
    have there := FileTree.bytesAt_of_writeFile ht
    have here : ∀ q, t.target q = w.files.target q :=
      fun q => (FileTree.target_congr wrote.here_eq q).trans (same q)
    refine ⟨_, wrote, changeFiles_orSame_does (fun e _ => ?_) fun u hu => ?_⟩
    · change Writing _ _ w (ds ++ [.wrote (w₁.files.target _) _]) _ _
      rw [same]
      exact .beside before
    · have there' : t.bytesAt (t.target (p.extended ".tmp")) = some (Utf8.ofString payload) := by
        rw [here, ← same]
        exact there
      refine ⟨_, History.of_renameFile (o := { w₁.outside with files := t }) there' hu, ?_⟩
      change Writing _ _ w (ds ++ [.wrote (w₁.files.target _) _, .moved (t.target _) (t.target _)])
        _ _
      rw [same, here, here]
      refine .placed before (FileTree.readBytes_of_renameFile there' hu) (fun away => ?_) job
      rw [← here]
      refine FileTree.find?_source_of_renameFile there' hu ?_
      rw [here, here]
      exact away

/-- The conduct of the file's stage: the payload is written to the file of the block. -/
inductive Persisting (s : Settings) (n : Int) (payload : String) (w : World) : Post Path
  /-- There is no path for the file. -/
  | nowhere {i w'} : Persisting s n payload w [] (.error i) w'
  /-- The file could not be written. -/
  | failed {p ds i i' w₁ w'} (path : resultPath s n = .ok p)
      (writing : Writing p (Utf8.ofString payload) w ds (.error i) w₁) :
      Persisting s n payload w ds (.error i') w'
  /-- The file was written. -/
  | filed {p ds w₁ w'} (path : resultPath s n = .ok p)
      (writing : Writing p (Utf8.ofString payload) w ds (.ok ()) w₁) (same : w'.files = w₁.files)
      (job : w'.job = w.job.map fun j => { j with resultPath := some p }) :
      Persisting s n payload w ds (.ok p) w'

theorem persistResult_does (s : Settings) (n : Int) (payload : String) (w : World) :
    (persistResult s n payload).Does w (Persisting s n payload w) := by
  rw [persistResult]
  refine inStage_does ?_ fun v hv hj => ?_
  · rintro ds i i' w₁ w₂ (_ | ⟨path, writing⟩)
    · exact .nowhere
    · exact .failed path writing
  refine .ofExcept_bind (fun f _ => .nowhere) fun p path => .bind ?_
  have same : v.files = w.files := congrArg Outside.files hv
  have written : (writePayload p payload).Does v fun ds r w' =>
      Writing p (Utf8.ofString payload) w ds r w' := by
    refine (writePayload_does p payload v).mono ?_
    rintro _ _ w₁ (before | before | ⟨before, there, gone, job⟩)
    · exact .unwritten before
    · rw [same]
      exact .beside before
    · rw [same] at gone ⊢
      exact .placed before there gone (job.trans hj)
  refine written.onFault ?_ ?_ ?_
  · intro ds x w₁ writing
    refine .of_eq (runIn_bind_ok (runIn_modify _ w₁) _) rfl ?_
    rw [List.append_nil]
    cases writing with
    | placed before there gone job =>
      refine .filed path (.placed before there gone job) rfl ?_
      change w₁.job.map _ = _
      rw [job]
  · intro ds w₁ writing
    exact .failed path writing
  · intro ds f w₁ writing
    have failed : ∀ i (u : World), Persisting s n payload w (ds ++ []) (.error i) u := by
      intro i u
      rw [List.append_nil]
      exact .failed path writing
    cases f with
    | file f => exact .fail (failed _ _)
    | stage f => exact .fail (failed _ _)
    | setting message => exact .fail (failed _ _)
    | defect kind message => exact .fail (failed _ _)

/-- The conduct of the end of a job: the record counts as verified, and only a time that cannot be
written makes it fail. -/
def finishConduct (w : World) : Post Unit := fun ds r w' =>
  ds = [] ∧ w'.outside = w.outside ∧ w'.job = w.job.map (fun j => { j with status := .verified }) ∧
    ∀ i, r = .error i →
      ∀ j, w.job = some j → Decimal.truncate? (w'.clock - j.startedAt) = none

/-- Only a time without an integer part has no whole seconds. -/
theorem truncate?_of_toInt {x : Float} {f : Fault} (h : (Json.float x).toInt = .error f) :
    Decimal.truncate? x = none := by
  cases whole : Decimal.truncate? x with
  | none => rfl
  | some k =>
    simp only [Json.toInt, whole] at h
    cases h

theorem finishJob_does (n : Int) (p : Path) (w : World) :
    (finishJob n p).Does w (finishConduct w) := by
  rw [finishJob]
  refine .modify_bind (.get_bind (.get_bind ?_)) rfl
  rw [wholeSeconds, Poller.wholeSeconds, bind_assoc]
  refine .ofExcept_bind (fun f hf => ⟨rfl, rfl, rfl, fun i _ j hj => ?_⟩) fun k _ => ?_
  · have time := truncate?_of_toInt hf
    dsimp only at time ⊢
    rw [hj] at time
    exact time
  · refine .of_eq (runIn_note _ _) rfl ⟨rfl, rfl, rfl, fun i hi => ?_⟩
    cases hi

/-! ### The whole job -/

/-- The stages of a job: they give the file with the verification. -/
def stages (s : Settings) (mock : Bool) (bound : Nat) (n : Int) : Activity Path :=
  (if mock then takeMockWitness n else takeWitness s n) >>= fun _ => do
    let p ← makePlan s n
    let transaction ← submitJob s n p
    let result ← awaitVerification s n transaction bound
    persistResult s n result.payload

/-- A job is its start, its stages and its end. -/
theorem runJob_eq (s : Settings) (mock : Bool) (bound n : Nat) :
    runJob s mock bound n = (startJob n >>= fun _ => stages s mock bound n >>= finishJob n) := by
  rw [runJob, if_neg (by omega)]
  cases mock with
  | true => simp only [stages, bind_assoc, if_true]
  | false => simp only [stages, bind_assoc, Bool.false_eq_true, if_false]

/-- A negative block is refused before anything is done. -/
theorem runIn_runJob_of_neg {n : Int} (negative : n < 0) (s : Settings) (mock : Bool) (bound : Nat)
    (w : World) :
    (runJob s mock bound n).runIn w =
      (.error (.fault (.value ("block number must be non-negative, got " ++ toString n))), w) := by
  rw [runJob, if_pos negative]
  rfl

/-- The conduct of the stages from the wait on. -/
def closingCourse (s : Settings) (n : Int) (transaction : String) (w : World) : Post Path :=
  (Awaiting s transaction w).andThen w fun result w₁ => Persisting s n result.payload w₁

/-- The conduct of the stages from the plan on. -/
def planCourse (s : Settings) (n : Int) (w : World) : Post Path :=
  (planConduct s w).andThen w fun p w₁ =>
    (submitConduct s p w₁).andThen w₁ fun transaction w₂ => closingCourse s n transaction w₂

/-- The conduct of the stages of a job, one after the other. -/
def stagesCourse (s : Settings) (mock : Bool) (n : Int) (w : World) : Post Path :=
  (if mock then mockConduct w else witnessCourse s n w).andThen w fun _ w₁ => planCourse s n w₁

theorem stages_does (s : Settings) (mock : Bool) (bound : Nat) (n : Int) (w : World) :
    (stages s mock bound n).Does w (stagesCourse s mock n w) := by
  have witness : (if mock then takeMockWitness n else takeWitness s n).Does w
      (if mock then mockConduct w else witnessCourse s n w) := by
    cases mock with
    | true => exact takeMockWitness_does n w
    | false => exact takeWitness_does s n w
  refine witness.andThen fun _ _ w₁ _ => ?_
  refine (makePlan_does s n w₁).andThen fun _ p w₂ _ => ?_
  refine (submitJob_does s n p w₂).andThen fun _ transaction w₃ _ => ?_
  refine (awaitVerification_does s n transaction bound w₃).andThen fun _ result w₄ _ => ?_
  exact persistResult_does s n result.payload w₄

/-- The stages keep a record open. -/
theorem stages_keepsOpen (s : Settings) (mock : Bool) (bound : Nat) (n m : Int) :
    (stages s mock bound n).Keeps (Job.IsOpen m) := by
  have witness : (if mock then takeMockWitness n else takeWitness s n).Keeps (Job.IsOpen m) := by
    cases mock with
    | true => exact takeMockWitness_keepsOpen n
    | false => exact takeWitness_keepsOpen s n
  refine witness.bind fun _ => (makePlan_keepsOpen s n).bind fun p => ?_
  refine (submitJob_keepsOpen s n p).bind fun transaction => ?_
  refine (awaitVerification_keepsOpen s n transaction bound).bind fun result => ?_
  exact persistResult_keepsOpen s n result.payload

/-- The conduct of a job: its stages, after which its record is still open, and its end. -/
def jobCourse (s : Settings) (mock : Bool) (n : Int) (w : World) : Post Unit :=
  Post.andThen w
    (fun ds r w' => stagesCourse s mock n w ds r w' ∧ ∃ j, w'.job = some j ∧ j.IsOpen n)
    fun _ w₁ => finishConduct w₁

/-- A job fails in a stage, or all stages succeed and it comes to its end. -/
theorem jobCourse_cases {s : Settings} {mock : Bool} {n : Int} {w w' : World} {ds : List Deed}
    {r : Except Interruption Unit} (h : jobCourse s mock n w ds r w') :
    (∃ i j, r = .error i ∧ stagesCourse s mock n w ds (.error i) w' ∧ w'.job = some j ∧
        j.IsOpen n) ∨
      ∃ p w₁ j, stagesCourse s mock n w ds (.ok p) w₁ ∧ w₁.job = some j ∧ j.IsOpen n ∧
        finishConduct w₁ [] r w' := by
  rcases h with ⟨course, j, record, isOpen⟩ | ⟨-, ⟨course, j, record, isOpen⟩, -, finish⟩
  · exact .inl ⟨_, j, rfl, course, record, isOpen⟩
  · obtain rfl := finish.1
    rw [List.append_nil]
    exact .inr ⟨_, _, j, course, record, isOpen, finish⟩

/-- The deeds of a job are those of its stages. -/
theorem exists_stagesCourse {s : Settings} {mock : Bool} {n : Int} {w w' : World} {ds : List Deed}
    {r : Except Interruption Unit} (h : jobCourse s mock n w ds r w') :
    ∃ r' w₁, w'.outside = w₁.outside ∧ stagesCourse s mock n w ds r' w₁ := by
  rcases jobCourse_cases h with ⟨i, j, -, course, -⟩ | ⟨p, w₁, j, course, -, -, -, outside, -⟩
  · exact ⟨_, _, rfl, course⟩
  · exact ⟨_, _, outside, course⟩

/-- A job that is begun for a block takes its course. -/
theorem runJob_does (s : Settings) (mock : Bool) (bound n : Nat) (w : World) :
    (runJob s mock bound n).Does w fun ds r w' =>
      ∃ w₀ : World, w₀.outside = w.outside ∧ w₀.job = some (.start n w.clock) ∧
        jobCourse s mock n w₀ ds r w' := by
  have begun : ∀ v : World, v.outside = w.outside → v.job = some (.start n w.clock) →
      (stages s mock bound n >>= finishJob n).Does v fun ds r w' =>
        ∃ w₀ : World, w₀.outside = w.outside ∧ w₀.job = some (.start n w.clock) ∧
          jobCourse s mock n w₀ ds r w' := by
    intro v outside job
    have done := (stages_does s mock bound n v).with_record (stages_keepsOpen s mock bound n n) job
      ⟨rfl, nofun⟩
    exact (done.andThen fun _ p w₁ _ => finishJob_does n p w₁).mono
      fun ds r w' course => ⟨v, outside, job, course⟩
  rw [runJob_eq]
  change ((modify _ >>= fun _ => log _ _ _) >>= _ : Activity Unit).Does w _
  rw [bind_assoc]
  exact .modify_bind (.note_bind (begun _ rfl rfl) rfl) rfl

end ProofRelay

import ProofRelay.Proofs.Job.Faults
import ProofRelay.Proofs.Job.Identity

/-!
# Where a job fails, and what its record says

A job writes down what each of its stages found, one entry for each stage.  A record is *at* a place
of the row of stages when the entries of the stages in front of it, and no others, are set, and no
stage has failed.  A stage that is begun at its place leads to the next one, or it is broken off:
then the record is still at the place of the stage, but for a malformed verification, which is
written down first.

A failed stage and a missing setting mark the record with the stage, and a failed stage learns the
block and the stage on its way out.  A bare fault passes as it is and marks nothing.  What a whole
job leaves follows from its stages in a row: the fault is followed to the stage in which it was
raised.

## Main definitions

* `Job.has`, `JobStage.place` : the entries of a record, and the places of the stages.
* `Job.IsAt`, `Job.IsComplete`, `Job.HasFailedIn` : the records on the way, at the end and after a
  failure.
* `Activity.RaisedIn` : the stage in which a fault was raised.
* `Activity.Leads` : the records and faults of the parts of a stage.
* `Activity.Advances` : the records of stages in a row, and where their faults were raised.

## Main results

* `inStage_advances`, `Activity.Advances.bind` : one stage, and two parts of a job in a row.
* `runJob_left` : every end of a job.
* `runJob_ledger` : the record of a job that failed in a stage or for a missing setting, and of one
  that succeeded.
* `runJob_escapes` : the record of a job that ended with any other fault.
-/

namespace ProofRelay

open Activity Fault

/-! ### Entries and places -/

/-- The place of a stage in the row of stages. -/
def JobStage.place : JobStage → Nat
  | capture => 0
  | checksum => 1
  | publish => 2
  | plan => 3
  | submit => 4
  | poll => 5
  | persist => 6

theorem JobStage.place_lt (stage : JobStage) : stage.place < 7 := by
  cases stage <;> decide

/-- The status of a job on its way to a place. -/
def JobStatus.before : Nat → JobStatus
  | 0 => created
  | 1 => captured
  | 2 => checksummed
  | 3 => published
  | 4 => planned
  | _ => submitted

namespace Job

/-- Whether the entry of a stage is set. -/
def has (j : Job) : JobStage → Bool
  | .capture => j.witnessName != .null
  | .checksum => j.witnessChecksum != .null
  | .publish => j.witnessUrl != .null
  | .plan => j.plan.isSome
  | .submit => j.transaction.isSome
  | .poll => j.verification.isSome
  | .persist => j.resultPath.isSome

/-- The record of a job at a place of the row of stages. -/
structure IsAt (block : Int) (place : Nat) (j : Job) : Prop where
  /-- It is the record of the block. -/
  block_eq : j.block = block
  /-- The status is the one in front of the place. -/
  status_eq : j.status = .before place
  /-- No stage has failed. -/
  unfailed : j.failedStage = none
  /-- The entries of the stages in front of the place are set, and no others. -/
  entries : ∀ stage, j.has stage = decide (stage.place < place)

/-- The record of a job whose block is verified. -/
structure IsComplete (block : Int) (j : Job) : Prop where
  /-- It is the record of the block. -/
  block_eq : j.block = block
  /-- The block counts as verified. -/
  status_eq : j.status = .verified
  /-- No stage has failed. -/
  unfailed : j.failedStage = none
  /-- All entries are set. -/
  entries : ∀ stage, j.has stage = true

/-- The record of a job that failed in a stage, at a malformed verification or at something else. -/
structure HasFailedIn (block : Int) (stage : JobStage) (malformed : Bool) (j : Job) : Prop where
  /-- It is the record of the block. -/
  block_eq : j.block = block
  /-- The stage is written down. -/
  failedStage_eq : j.failedStage = some stage
  /-- The status tells a malformed verification from anything else. -/
  status_eq : j.status = if malformed then .malformed else .failed
  /-- The entries of the stages in front of it are set, and the malformed verification. -/
  entries : ∀ other, j.has other =
    (decide (other.place < stage.place) || (malformed && decide (other = .poll)))
  /-- A verification is malformed where it is waited for. -/
  polling : malformed = true → stage = .poll

variable {n : Int} {place : Nat} {j j' : Job}

theorem isAt_start (n : Int) (time : Float) : (start n time).IsAt n 0 := by
  refine ⟨rfl, rfl, rfl, fun stage => ?_⟩
  cases stage <;> rfl

/-- An entry at its place leads to the next place. -/
theorem IsAt.next (h : j.IsAt n place) (stage : JobStage) (here : stage.place = place)
    (block : j'.block = j.block) (failed : j'.failedStage = j.failedStage)
    (status : j'.status = .before (place + 1))
    (entries : ∀ other, j'.has other = (decide (other = stage) || j.has other)) :
    j'.IsAt n (place + 1) := by
  refine ⟨block.trans h.block_eq, status, failed.trans h.unfailed, fun other => ?_⟩
  subst here
  rw [entries other, h.entries other]
  cases other <;> cases stage <;> rfl

/-- The mark of a failed stage in a record. -/
def marked (stage : JobStage) (j : Job) : Job :=
  { j with
    status := if j.status = .malformed then .malformed else .failed
    failedStage := some stage }

theorem IsAt.marked {stage : JobStage} (h : j.IsAt n stage.place) :
    (j.marked stage).HasFailedIn n stage false := by
  have status : j.status ≠ .malformed := by
    rw [h.status_eq]
    cases stage <;> decide
  refine ⟨h.block_eq, rfl, if_neg status, fun other => ?_, nofun⟩
  have entry := h.entries other
  rw [Bool.false_and, Bool.or_false, ← entry]
  cases other <;> rfl

/-- The record of a malformed verification. -/
def withMalformed (result : PollResult) (j : Job) : Job :=
  { j with verification := some result, status := .malformed }

theorem IsAt.marked_withMalformed (h : j.IsAt n JobStage.poll.place) (result : PollResult) :
    ((j.withMalformed result).marked .poll).HasFailedIn n .poll true := by
  refine ⟨h.block_eq, rfl, rfl, fun other => ?_, fun _ => rfl⟩
  have entry := h.entries other
  cases other with
  | poll => rfl
  | _ => exact entry

end Job

/-! ### Where a fault was raised -/

/-- Whether a verification is malformed. -/
def Cause.isMalformed : Cause → Bool
  | .malformed .. => true
  | _ => false

theorem Cause.IsTool.isMalformed_eq {c : Cause} (h : c.IsTool) : c.isMalformed = false := by
  cases h
  rfl

/-- The cause of a stage with one tool is the tool, or the one that the stage has itself. -/
theorem Cause.isMalformed_eq_of_or {c d : Cause} (h : c.IsTool ∨ c = d)
    (hd : d.isMalformed = false) : c.isMalformed = false := by
  rcases h with tool | rfl
  · exact tool.isMalformed_eq
  · exact hd

/-- A fault that leaves a stage of a block's job. -/
def Fault.leaving (block : Int) (stage : JobStage) : Fault → Fault
  | .stage f => .stage (f.passing block stage.name)
  | f => f

/-- A world in which a stage of a block's job is begun. -/
def World.entering (w : World) (block : Int) (stage : JobStage) : World :=
  w.note (.log .debug jobLogSource ("block " ++ toString block ++ ": stage " ++ stage.name))

/-- Whether a fault with which an activity ends was raised in a stage of a block's job: the activity
is the stage, or one of two activities in a row of which the fault was raised in the stage. -/
inductive Activity.RaisedIn (block : Int) (stage : JobStage) (f : Fault) :
    {α : Type} → Activity α → World → Prop
  /-- The activity in the stage ended with the fault. -/
  | here {α : Type} {body : Activity α} {w w' : World} {f₀ : Fault}
      (raised : body.runIn (w.entering block stage) = (.error (.fault f₀), w'))
      (left : f = f₀.leaving block stage) : RaisedIn block stage f (inStage block stage body) w
  /-- It was raised in the first of two activities. -/
  | first {α β : Type} {a : Activity α} {g : α → Activity β} {w : World}
      (h : RaisedIn block stage f a w) : RaisedIn block stage f (a >>= g) w
  /-- It was raised in the second of two activities. -/
  | later {α β : Type} {a : Activity α} {g : α → Activity β} {w w₁ : World} {x : α}
      (gave : a.runIn w = (.ok x, w₁)) (h : RaisedIn block stage f (g x) w₁) :
      RaisedIn block stage f (a >>= g) w

/-- The record of a job that a fault leaves which was raised in a stage, and the place of a failed
stage. -/
def Job.LeftBy (block : Int) (stage : JobStage) : Fault → Job → Prop
  | .stage f, j =>
    f.block = some block ∧ f.stage = some stage.name ∧ j.HasFailedIn block stage f.cause.isMalformed
  | .setting _, j => j.HasFailedIn block stage false
  | _, j => j.IsAt block stage.place

/-! ### The parts of a stage -/

namespace Activity

variable {α β : Type} {A M : Job → Prop} {B : Job → Prop} {C : Fault → Job → Prop}
  {a : Activity α} {g : α → Activity β}

/-- Whether an activity that is begun with a record of one kind ends with a record of another kind,
or with a fault that fits the record. -/
def Leads (A B : Job → Prop) (C : Fault → Job → Prop) (a : Activity α) : Prop :=
  ∀ w j, w.HasBareFaults → w.job = some j → A j →
    ∃ j', (a.runIn w).2.job = some j' ∧ (a.runIn w).2.HasBareFaults ∧
      match (a.runIn w).1 with
      | .ok _ => B j'
      | .error (.fault f) => C f j'
      | .error .endless => True

/-- An activity that leaves the record. -/
theorem Leads.of_keeps {P : Fault → Prop} (raises : a.Raises P) (keeps : ∀ j, a.Keeps (· = j))
    (fits : ∀ f j, P f → A j → C f j) : a.Leads A A C := by
  intro w j bare job start
  obtain ⟨raised, bare'⟩ := raises w bare
  obtain ⟨_, job', rfl⟩ := keeps j w j job rfl
  refine ⟨_, job', bare', ?_⟩
  rcases ran : (a.runIn w).1 with (f | _) | x
  · exact fits f _ (raised f ran) start
  · trivial
  · exact start

theorem Leads.bind (h : a.Leads A M C) (hg : ∀ x, (g x).Leads M B C) :
    (a >>= g).Leads A B C := by
  intro w j bare job start
  obtain ⟨j₁, job₁, bare₁, done⟩ := h w j bare job start
  rw [runIn_bind]
  rcases ran : a.runIn w with ⟨(f | _) | x, w₁⟩ <;> rw [ran] at job₁ bare₁ done
  · exact ⟨j₁, job₁, bare₁, done⟩
  · exact ⟨j₁, job₁, bare₁, trivial⟩
  · exact hg x w₁ j₁ bare₁ job₁ done

theorem Leads.pure (x : α) : Leads A A C (Pure.pure x : Activity α) :=
  fun _ j bare job start => ⟨j, job, bare, start⟩

/-- A result that is given with a record of another description. -/
theorem Leads.pure_of {x : α} (next : ∀ j, A j → B j) : Leads A B C (Pure.pure x : Activity α) :=
  fun _ j bare job start => ⟨j, job, bare, next j start⟩

theorem Leads.fail {f : Fault} (fits : ∀ j, A j → C f j) : Leads A B C (fail f : Activity α) :=
  fun _ j bare job start => ⟨j, job, bare, fits j start⟩

/-- An entry in the record. -/
theorem Leads.update {change : Job → Job} (next : ∀ j, A j → B (change j)) :
    (updateJob change).Leads A B C := by
  intro w j bare job start
  refine ⟨change j, ?_, bare.of_outside rfl rfl, next j start⟩
  change w.job.map change = _
  rw [job, Option.map_some]

end Activity

/-- The records of a stage that is broken off, and the faults that may do it. -/
inductive Job.BrokenOff (block : Int) (stage : JobStage) : Fault → Job → Prop
  /-- The record is still at the stage; a failed stage may know that it is this one. -/
  | still {f : Fault} {j : Job} (at_stage : j.IsAt block stage.place)
      (fits : ∀ sf, f = .stage sf → sf.block = none ∧
        (sf.stage = none ∨ sf.stage = some stage.name) ∧ sf.cause.isMalformed = false) :
      BrokenOff block stage f j
  /-- The verification is malformed. -/
  | malformed {f : StageFault} {j : Job} (polling : stage = .poll)
      (at_stage : j.IsAt block stage.place) (result : PollResult) (known : f.block = some block)
      (place : f.stage = some stage.name) (cause : f.cause.isMalformed = true) :
      BrokenOff block stage (.stage f) (j.withMalformed result)

section Stage

variable {n : Int} {stage : JobStage} {f : Fault} {j : Job}

theorem Job.IsAt.brokenOff_setting (h : j.IsAt n stage.place) (message : String) :
    j.BrokenOff n stage (.setting message) :=
  .still h nofun

theorem Job.IsAt.brokenOff_bare (h : j.IsAt n stage.place) (bare : f.IsBare) :
    j.BrokenOff n stage f := by
  refine .still h ?_
  rintro sf rfl
  cases bare

/-- A fault that knows no place breaks a stage off. -/
theorem Job.IsAt.brokenOff {causes : Cause → Prop} (h : j.IsAt n stage.place)
    (fault : Fault.Of causes f) (sound : ∀ c, causes c → c.isMalformed = false) :
    j.BrokenOff n stage f := by
  cases fault with
  | bare bare => exact h.brokenOff_bare bare
  | failed cause block place =>
    refine .still h ?_
    rintro _ ⟨⟩
    exact ⟨block, .inl place, sound _ cause⟩

/-- What a stage leaves that is broken off. -/
theorem Job.BrokenOff.leftBy_of_stage {sf : StageFault} (h : j.BrokenOff n stage (.stage sf)) :
    (j.marked stage).LeftBy n stage (.stage (sf.passing n stage.name)) := by
  cases h with
  | still at_stage fits =>
    obtain ⟨block, place, cause⟩ := fits sf rfl
    refine ⟨?_, ?_, ?_⟩
    · rw [StageFault.passing, block]
      rfl
    · rcases place with place | place <;> rw [StageFault.passing, place] <;> rfl
    · change (j.marked stage).HasFailedIn n stage sf.cause.isMalformed
      rw [cause]
      exact at_stage.marked
  | malformed polling at_stage result known place cause =>
    subst polling
    refine ⟨?_, ?_, ?_⟩
    · rw [StageFault.passing, known]
      rfl
    · rw [StageFault.passing, place]
      rfl
    · change Job.HasFailedIn n .poll sf.cause.isMalformed _
      rw [cause]
      exact at_stage.marked_withMalformed result

theorem Job.BrokenOff.isAt_of_not_stage (h : j.BrokenOff n stage f) (other : ∀ sf, f ≠ .stage sf) :
    j.IsAt n stage.place := by
  cases h with
  | still at_stage fits => exact at_stage
  | malformed => exact absurd rfl (other _)

end Stage

/-! ### Stages in a row -/

namespace Activity

variable {α β : Type} {n : Int} {e d k l m : Nat} {a : Activity α} {g : α → Activity β}

/-- Whether a part of a job leads from one place to another, or ends with a fault that was raised in
a stage at some place or later and leaves the record as it has to be. -/
def Advances (n : Int) (e k l : Nat) (a : Activity α) : Prop :=
  ∀ w j, w.HasBareFaults → w.job = some j → j.IsAt n k →
    ∃ j', (a.runIn w).2.job = some j' ∧ (a.runIn w).2.HasBareFaults ∧
      match (a.runIn w).1 with
      | .ok _ => j'.IsAt n l
      | .error (.fault f) => ∃ stage, e ≤ stage.place ∧ a.RaisedIn n stage f w ∧ j'.LeftBy n stage f
      | .error .endless => True

/-- A part of a job without stages and faults. -/
theorem Advances.of_leads (h : a.Leads (Job.IsAt n k) (Job.IsAt n l) fun _ _ => False) :
    a.Advances n e k l := by
  intro w j bare job start
  obtain ⟨j', job', bare', done⟩ := h w j bare job start
  refine ⟨j', job', bare', ?_⟩
  rcases ran : (a.runIn w).1 with (f | _) | x <;> rw [ran] at done
  · exact done.elim
  · trivial
  · exact done

/-- Two parts of a job in a row. -/
theorem Advances.bind (h : a.Advances n e k l) (hg : ∀ x, (g x).Advances n d l m) (le : e ≤ d) :
    (a >>= g).Advances n e k m := by
  intro w j bare job start
  obtain ⟨j₁, job₁, bare₁, done⟩ := h w j bare job start
  rw [runIn_bind]
  rcases ran : a.runIn w with ⟨(f | _) | x, w₁⟩ <;> rw [ran] at job₁ bare₁ done
  · obtain ⟨stage, after, raised, left⟩ := done
    exact ⟨j₁, job₁, bare₁, stage, after, raised.first, left⟩
  · exact ⟨j₁, job₁, bare₁, trivial⟩
  · obtain ⟨j₂, job₂, bare₂, done⟩ := hg x w₁ j₁ bare₁ job₁ done
    refine ⟨j₂, job₂, bare₂, ?_⟩
    rcases ran₂ : ((g x).runIn w₁).1 with (f | _) | y <;> rw [ran₂] at done
    · obtain ⟨stage, after, raised, left⟩ := done
      exact ⟨stage, Nat.le_trans le after, raised.later ran, left⟩
    · trivial
    · exact done

end Activity

/-- The mark of a failed stage. -/
theorem job_markFailed (stage : JobStage) (w : World) :
    ((markFailed stage).runIn w).2.job = w.job.map (Job.marked stage) := rfl

/-- A stage that is begun at its place leads to the next one, or leaves what it has to leave. -/
theorem inStage_advances {α : Type} {n : Int} (stage : JobStage) {body : Activity α}
    (h : body.Leads (Job.IsAt n stage.place) (Job.IsAt n (stage.place + 1))
      (Job.BrokenOff n stage)) :
    (inStage n stage body).Advances n stage.place stage.place (stage.place + 1) := by
  intro w j bare job start
  obtain ⟨j', job', bare', done⟩ := h (w.entering n stage) j (bare.of_outside rfl rfl) job start
  have begun : ∀ handle : Fault → Activity α,
      ((logDebug jobLogSource ("block " ++ toString n ++ ": stage " ++ stage.name) >>= fun _ =>
        onFault body handle : Activity α)).runIn w =
          (onFault body handle).runIn (w.entering n stage) :=
    fun handle => runIn_bind_ok (runIn_note _ w) _
  have raised : ∀ f, ((body.runIn (w.entering n stage)).1 = .error (.fault f)) →
      (inStage n stage body).RaisedIn n stage (f.leaving n stage) w :=
    fun f hf => .here (Prod.ext hf rfl) rfl
  rw [inStage, begun, runIn_onFault]
  rcases ran : body.runIn (w.entering n stage) with ⟨(f | _) | x, w'⟩ <;>
    rw [ran] at job' bare' done raised
  · have told := raised f rfl
    have marked : ((markFailed stage).runIn w').2.job = some (j'.marked stage) := by
      rw [job_markFailed, job', Option.map_some]
    rw [inStage] at told
    cases f with
    | stage sf =>
      exact ⟨j'.marked stage, marked, bare'.of_outside rfl rfl, stage, Nat.le_refl _, told,
        done.leftBy_of_stage⟩
    | setting message =>
      exact ⟨j'.marked stage, marked, bare'.of_outside rfl rfl, stage, Nat.le_refl _, told,
        (done.isAt_of_not_stage fun _ => Fault.noConfusion).marked⟩
    | file f =>
      exact ⟨j', job', bare', stage, Nat.le_refl _, told,
        done.isAt_of_not_stage fun _ => Fault.noConfusion⟩
    | defect kind message =>
      exact ⟨j', job', bare', stage, Nat.le_refl _, told,
        done.isAt_of_not_stage fun _ => Fault.noConfusion⟩
  · exact ⟨j', job', bare', trivial⟩
  · exact ⟨j', job', bare', done⟩

/-! ### The stages of a job -/

section Stages

variable {n : Int}

theorem takeMockWitness_advances (n : Int) : (takeMockWitness n).Advances n 3 0 3 := by
  have leads : (takeMockWitness n).Leads (Job.IsAt n 0) (Job.IsAt n 3) fun _ _ => False := by
    refine .bind (.of_keeps (.log _ _ _) (fun j => .log _ _ _) fun _ _ h _ => h) fun _ => ?_
    refine .update fun j h => ⟨h.block_eq, rfl, h.unfailed, fun other => ?_⟩
    have entry := h.entries other
    cases other <;> first | rfl | exact entry
  exact .of_leads leads

theorem takeWitness_advances (s : Settings) (n : Int) : (takeWitness s n).Advances n 0 0 3 := by
  refine .bind (inStage_advances .capture ?_) (fun p => ?_) (Nat.zero_le 1)
  · refine .bind (.of_keeps (captureWitness_raises s n) (fun j => captureWitness_keeps s n) ?_)
      fun p => .bind (.update fun j h => ?_) fun _ => .pure p
    · rintro f j (fault | ⟨m, rfl⟩) h
      · exact h.brokenOff fault fun c tool => tool.isMalformed_eq
      · exact h.brokenOff_setting m
    · exact h.next .capture rfl rfl rfl rfl fun other => by cases other <;> rfl
  refine .bind (inStage_advances .checksum ?_) (fun _ => ?_) (Nat.le_succ 1)
  · refine .bind (.of_keeps (witnessChecksum_raises s n) (fun j => witnessChecksum_keeps s n) ?_)
      fun checksum => .update fun j h => ?_
    · exact fun f j fault h => h.brokenOff fault fun c hc => Cause.isMalformed_eq_of_or hc rfl
    · exact h.next .checksum rfl rfl rfl rfl fun other => by cases other <;> rfl
  · refine inStage_advances .publish ?_
    refine .bind (.of_keeps (publish_raises _ _ _) (fun j => publish_keeps _ _ _) ?_)
      fun url => .update fun j h => ?_
    · exact fun f j fault h => h.brokenOff fault fun c hc => by cases hc; rfl
    · exact h.next .publish rfl rfl rfl rfl fun other => by cases other <;> rfl

theorem makePlan_advances (s : Settings) (n : Int) : (makePlan s n).Advances n 3 3 4 := by
  refine inStage_advances .plan ?_
  refine .bind (.of_keeps (P := fun _ => False) (.bind .get fun w => .pure _)
    (fun j => .bind .get fun w => .pure _) fun _ _ h _ => h.elim) fun job => ?_
  refine .bind (.of_keeps (.ofExcept (jobPlan_throws s job)) (fun j => .ofExcept _) ?_) fun p =>
    .bind (.update fun j h => ?_) fun _ => .pure p
  · rintro f j (bare | ⟨m, rfl⟩) h
    · exact h.brokenOff_bare bare
    · exact h.brokenOff_setting m
  · exact h.next .plan rfl rfl rfl rfl fun other => by cases other <;> rfl

theorem submitJob_advances (s : Settings) (n : Int) (p : Plan Json) :
    (submitJob s n p).Advances n 4 4 5 := by
  refine inStage_advances .submit ?_
  refine .bind (.of_keeps (submitPlan_raises s p) (fun j => submitPlan_keeps s p) ?_)
    fun transaction => .bind (.update fun j h => ?_) fun _ => .pure transaction
  · exact fun f j fault h => h.brokenOff fault fun c hc => Cause.isMalformed_eq_of_or hc rfl
  · exact h.next .submit rfl rfl rfl rfl fun other => by cases other <;> rfl

/-- The faults of a wait break off the stage that waits. -/
theorem Job.IsAt.brokenOff_wait {j : Job} {f : Fault} (h : j.IsAt n JobStage.poll.place)
    (fault : OfWait f) : j.BrokenOff n .poll f := by
  cases fault with
  | poll fault => exact h.brokenOff fault fun c hc => Cause.isMalformed_eq_of_or hc rfl
  | @ended sf cause block stage =>
    refine .still h ?_
    rintro _ ⟨⟩
    refine ⟨block, .inr stage, ?_⟩
    rcases cause with cause | cause <;> rw [cause] <;> rfl

theorem awaitVerification_advances (s : Settings) (n : Int) (transaction : String) (bound : Nat) :
    (awaitVerification s n transaction bound).Advances n 5 5 6 := by
  refine inStage_advances .poll ?_
  refine .bind (.of_keeps (waitForVerdict_raises s transaction bound)
    (fun j => waitForVerdict_keeps s transaction bound) fun f j fault h => h.brokenOff_wait fault)
    fun result => ?_
  -- The verification is written down before it is looked at.
  refine .bind (M := fun j' => ∃ j : Job, j.IsAt n JobStage.poll.place ∧
    j' = { j with verification := some result }) (.update fun j h => ⟨j, h, rfl⟩) fun _ => ?_
  split
  · refine .bind (M := fun j' => ∃ j : Job, j.IsAt n JobStage.poll.place ∧
      j' = j.withMalformed result) (.update ?_) fun _ => .fail ?_
    · rintro _ ⟨j, h, rfl⟩
      exact ⟨j, h, rfl⟩
    · rintro _ ⟨j, h, rfl⟩
      exact .malformed rfl h result rfl rfl rfl
  · refine .pure_of ?_
    rintro _ ⟨j, h, rfl⟩
    exact h.next .poll rfl rfl rfl h.status_eq fun other => by cases other <;> rfl

theorem persistResult_advances (s : Settings) (n : Int) (payload : String) :
    (persistResult s n payload).Advances n 6 6 7 := by
  refine inStage_advances .persist ?_
  have bare : ∀ (f : Fault) (j : Job), Fault.Of (· = .general) f → j.IsAt n JobStage.persist.place →
      j.BrokenOff n .persist f :=
    fun f j fault h => h.brokenOff fault fun c hc => by cases hc; rfl
  refine .bind (.of_keeps (.ofExcept (throws_resultPath.mono of_of_isBare))
    (fun j => .ofExcept _) bare) fun p => ?_
  refine .bind (.of_keeps ?_ (fun j => ?_) bare) fun _ => .bind (.update fun j h => ?_)
    fun _ => .pure p
  · refine (writePayload_raises p payload).onFault fun f raised => ?_
    cases raised with
    | file f => exact .fail (.failed rfl rfl rfl)
    | defect kind message => exact .fail (.bare (.defect _ _))
  · refine (writePayload_keeps p payload).onFault fun f => ?_
    cases f <;> exact .fail _
  · exact h.next .persist rfl rfl rfl h.status_eq fun other => by cases other <;> rfl

/-- The stages of a job lead to its end, or end with a fault that was raised in one of them; with a
mock witness it is none of the first three. -/
theorem stages_advances (s : Settings) (mock : Bool) (bound : Nat) (n : Int) :
    (stages s mock bound n).Advances n (if mock then 3 else 0) 0 7 := by
  have witness : (if mock then takeMockWitness n else takeWitness s n).Advances n
      (if mock then 3 else 0) 0 3 := by
    cases mock with
    | true => exact takeMockWitness_advances n
    | false => exact takeWitness_advances s n
  refine witness.bind (d := 3) (fun _ => ?_) (by cases mock <;> decide)
  refine (makePlan_advances s n).bind (fun p => ?_) (Nat.le_succ 3)
  refine (submitJob_advances s n p).bind (fun transaction => ?_) (Nat.le_succ 4)
  refine (awaitVerification_advances s n transaction bound).bind (fun result => ?_) (Nat.le_succ 5)
  exact persistResult_advances s n result.payload

end Stages

/-! ### The whole job -/

section Job

variable {s : Settings} {mock : Bool} {bound : Nat} {n : Int} {w w' : World}

theorem finishJob_raises (n : Int) (p : Path) : (finishJob n p).Raises IsBare := by
  rw [finishJob]
  refine .bind (updateJob_raises _) fun _ => .bind (.bind .get fun w => .pure _) fun j => ?_
  exact .bind .now fun time => .bind (wholeSeconds_raises _) fun elapsed => .log _ _ _

/-- The end of a job completes the record of a job whose stages are done. -/
theorem finishJob_completes {j : Job} {p : Path} (job : w.job = some j) (h : j.IsAt n 7) :
    ∃ j', ((finishJob n p).runIn w).2.job = some j' ∧ j'.IsComplete n := by
  obtain ⟨ds, -, -, -, finished, -⟩ := finishJob_does n p w
  refine ⟨{ j with status := .verified }, ?_, h.block_eq, rfl, h.unfailed, fun stage => ?_⟩
  · rw [finished, job, Option.map_some]
  · have entry := h.entries stage
    rw [decide_eq_true stage.place_lt] at entry
    cases stage <;> exact entry

/-- What a job leaves that ended with a fault: the fault was raised in a stage, or it is bare and
the time of a block that is verified cannot be written. -/
inductive JobLeaves (s : Settings) (mock : Bool) (bound : Nat) (n : Int) (w : World) (f : Fault)
    (j : Job) : Prop
  /-- It was raised in a stage, which is none of the first ones with a mock witness. -/
  | failed {stage : JobStage} (raised : (runJob s mock bound n).RaisedIn n stage f w)
      (left : j.LeftBy n stage f) (late : mock = true → 3 ≤ stage.place)
  /-- It was raised at the end. -/
  | finished (bare : f.IsBare) (complete : j.IsComplete n)

/-- A job whose block is not negative succeeds with a complete record, or it leaves what it has to
leave. -/
theorem runJob_left (s : Settings) (mock : Bool) (bound n : Nat) (bare : w.HasBareFaults) :
    ∃ j, ((runJob s mock bound n).runIn w).2.job = some j ∧
      match ((runJob s mock bound n).runIn w).1 with
      | .ok _ => j.IsComplete n
      | .error (.fault f) => JobLeaves s mock bound n w f j
      | .error .endless => True := by
  have started : (startJob n).runIn w = (.ok (), (startJob n).runIn w |>.2) := rfl
  have bare₀ : ((startJob n).runIn w).2.HasBareFaults := bare.of_outside rfl rfl
  obtain ⟨j, job, bare₁, done⟩ := stages_advances s mock bound n ((startJob n).runIn w).2
    (.start n w.clock) bare₀ rfl (Job.isAt_start n w.clock)
  have late : ∀ stage : JobStage, (if mock then 3 else 0) ≤ stage.place → mock = true →
      3 ≤ stage.place := by
    rintro stage h rfl
    exact h
  have raised : ∀ {stage f}, (stages s mock bound n >>= finishJob n).RaisedIn n stage f
      ((startJob n).runIn w).2 → (runJob s mock bound n).RaisedIn n stage f w := by
    intro stage f h
    rw [runJob_eq]
    exact .later started h
  rw [runJob_eq, runIn_bind_ok started, runIn_bind]
  rcases ran : (stages s mock bound n).runIn ((startJob n).runIn w).2 with ⟨(f | _) | p, w₁⟩ <;>
    rw [ran] at job bare₁ done
  · obtain ⟨stage, after, told, left⟩ := done
    exact ⟨j, job, .failed (raised told.first) left (late stage after)⟩
  · exact ⟨j, job, trivial⟩
  · obtain ⟨j', job', complete⟩ := finishJob_completes (p := p) job done
    refine ⟨j', job', ?_⟩
    rcases finished : ((finishJob n p).runIn w₁).1 with (f | _) | x
    · exact .finished ((finishJob_raises n p w₁ bare₁).1 f finished) complete
    · trivial
    · exact complete

/-- What is left of a job that failed in a stage. -/
structure FailsIn (s : Settings) (mock : Bool) (bound : Nat) (n : Int) (w : World) (f : Fault)
    (malformed : Bool) (w' : World) (stage : JobStage) (j : Job) : Prop where
  /-- The fault was raised in the stage. -/
  raised : (runJob s mock bound n).RaisedIn n stage f w
  /-- The record is there. -/
  job_eq : w'.job = some j
  /-- It says that the stage failed, and what the stages in front of it found. -/
  record : j.HasFailedIn n stage malformed
  /-- A mock witness is in the record from the start. -/
  mocked : mock = true → ∀ early : JobStage, early.place < 3 → j.has early = true

/-- A failed stage leaves its entries of the stages in front of it. -/
theorem Job.HasFailedIn.has_of_lt {stage early : JobStage} {malformed : Bool} {j : Job}
    (h : j.HasFailedIn n stage malformed) (before : early.place < stage.place) :
    j.has early = true := by
  rw [h.entries early, decide_eq_true before, Bool.true_or]

/-- The report of a failed stage begins with its place. -/
theorem StageFault.exists_report_eq {f : StageFault} {stage : JobStage} (block : f.block = some n)
    (place : f.stage = some stage.name) :
    ∃ rest, f.report = "[block " ++ toString n ++ ", stage " ++ stage.name ++ "] " ++ rest := by
  have named : stage.name ≠ "" := by cases stage <;> decide
  have places : f.places = ["block " ++ toString n, "stage " ++ stage.name] := by
    rw [StageFault.places, block, place, Option.filter_some, if_pos (decide_eq_true named)]
    rfl
  have joined : ", ".intercalate f.places =
      "block " ++ toString n ++ ", " ++ ("stage " ++ stage.name) := by
    rw [places]
    rfl
  have opening : "[block " = "[" ++ "block " := rfl
  have middle : ", stage " = ", " ++ "stage " := rfl
  rw [StageFault.report, joined, places, opening, middle]
  simp only [List.isEmpty_cons, Bool.false_eq_true, if_false, String.append_assoc]
  exact ⟨_, rfl⟩

/-- The books of a job, whatever the tools, the storage and the files do.  A job that succeeds
leaves a complete record.  A job that ends with a failed stage or a missing setting leaves the stage
in which the fault was raised, the status, and the entries of the stages in front of it; a failed
stage knows its block and its name. -/
theorem runJob_ledger (s : Settings) (mock : Bool) (bound : Nat) (n : Int) (w : World)
    (bare : w.HasBareFaults) :
    (∀ w', (runJob s mock bound n).runIn w = (.ok (), w') →
      ∃ j, w'.job = some j ∧ j.IsComplete n) ∧
    (∀ f w', (runJob s mock bound n).runIn w = (.error (.fault (.stage f)), w') →
      ∃ stage j, FailsIn s mock bound n w (.stage f) f.cause.isMalformed w' stage j ∧
        f.block = some n ∧ f.stage = some stage.name ∧
        ∃ rest, f.report = "[block " ++ toString n ++ ", stage " ++ stage.name ++ "] " ++ rest) ∧
    ∀ message w', (runJob s mock bound n).runIn w = (.error (.fault (.setting message)), w') →
      ∃ stage j, FailsIn s mock bound n w (.setting message) false w' stage j := by
  by_cases negative : n < 0
  · -- A negative block is refused before there is a record.
    have refused : ∃ message, (runJob s mock bound n).runIn w =
        (.error (.fault (.value message)), w) := by
      rw [runJob, if_pos negative]
      exact ⟨_, rfl⟩
    obtain ⟨message, refused⟩ := refused
    rw [refused]
    refine ⟨?_, ?_, ?_⟩ <;> (intros; rename_i h; cases h)
  · obtain ⟨n, rfl⟩ := Int.eq_ofNat_of_zero_le (Int.not_lt.1 negative)
    obtain ⟨j, job, left⟩ := runJob_left s mock bound n bare
    have early : ∀ {stage : JobStage} {malformed}, (mock = true → 3 ≤ stage.place) →
        j.HasFailedIn n stage malformed → mock = true → ∀ early : JobStage, early.place < 3 →
          j.has early = true :=
      fun late failed mocked early before =>
        failed.has_of_lt (Nat.lt_of_lt_of_le before (late mocked))
    refine ⟨fun w' run => ?_, fun f w' run => ?_, fun message w' run => ?_⟩ <;> rw [run] at job left
    · exact ⟨j, job, left⟩
    · cases left with
      | finished bare => cases bare
      | @failed stage raised left late =>
        obtain ⟨block, place, failed⟩ := left
        exact ⟨stage, j, ⟨raised, job, failed, early late failed⟩, block, place,
          f.exists_report_eq block place⟩
    · cases left with
      | finished bare => cases bare
      | @failed stage raised left late => exact ⟨stage, j, raised, job, left, early late left⟩

end Job

/-! ### Jobs that fail -/

/-- The fault with which something ended. -/
def faultOf {α : Type} : Except Interruption α → Option Fault
  | .error (.fault f) => some f
  | _ => none

theorem eq_of_faultOf {α : Type} {r : Except Interruption α} {f : Fault} (h : faultOf r = some f) :
    r = .error (.fault f) := by
  rcases r with (f' | _) | x
  · cases h
    rfl
  · cases h
  · cases h

/-- What ends with a fault gives it, and leaves a world. -/
theorem Activity.runIn_eq_of_faultOf {α : Type} {a : Activity α} {w : World} {f : Fault}
    (h : faultOf (a.runIn w).1 = some f) : a.runIn w = (.error (.fault f), (a.runIn w).2) :=
  Prod.ext (eq_of_faultOf h) rfl

theorem sampleReply_ne_garbled (t : FileTree) (c : ToolCall) (f : Fault) :
    (sampleReply t c).ending ≠ .garbled f := by
  rw [sampleReply]
  split <;> nofun

theorem hasBareFaults_sampleWorld : sampleWorld.HasBareFaults :=
  ⟨fun _ t c f garbled => absurd garbled (sampleReply_ne_garbled t c f), fun _ _ _ => nofun⟩

/-- The settings of a job that cannot make its plan. -/
def unprovenSettings : Settings :=
  { sampleSettings with proverHash := .null }

theorem runJob_ledger_unproven :
    sampleWorld.HasBareFaults ∧ ∃ message stage j,
      FailsIn unprovenSettings false 1 5 sampleWorld (.setting message) false
        ((runJob unprovenSettings false 1 5).runIn sampleWorld).2 stage j := by
  have fault : faultOf ((runJob unprovenSettings false 1 5).runIn sampleWorld).1 =
      some (.setting "programs.prover_hash (PROVER_HASH) is not configured") := by
    decide +kernel
  obtain ⟨-, -, missing⟩ :=
    runJob_ledger unprovenSettings false 1 5 sampleWorld hasBareFaults_sampleWorld
  obtain ⟨stage, j, fails⟩ := missing _ _ (runIn_eq_of_faultOf fault)
  exact ⟨hasBareFaults_sampleWorld, _, stage, j, fails⟩

/-! ### Faults that escape -/

/-- The record tells only failed stages and missing settings.  Any other fault with which a job ends
passes the stage in which it was raised without a mark: the record keeps the status of the stage
before, or, where only the time of a verified block could not be written, the one of its end. -/
theorem runJob_escapes (s : Settings) (mock : Bool) (bound n : Nat) (w w' : World) (f : Fault)
    (bare : w.HasBareFaults) (run : (runJob s mock bound n).runIn w = (.error (.fault f), w')) :
    ∃ j, w'.job = some j ∧
      (¬ f.IsBare → j.failedStage ≠ none ∧ (j.status = .failed ∨ j.status = .malformed)) ∧
      (f.IsBare → j.failedStage = none ∧
        ((∃ stage, (runJob s mock bound n).RaisedIn n stage f w ∧ j.IsAt n stage.place) ∨
          j.IsComplete n)) := by
  obtain ⟨j, job, left⟩ := runJob_left s mock bound n bare
  rw [run] at job left
  have marked : ∀ {stage malformed}, j.HasFailedIn n stage malformed →
      j.failedStage ≠ none ∧ (j.status = .failed ∨ j.status = .malformed) := by
    intro stage malformed failed
    rw [failed.failedStage_eq, failed.status_eq]
    cases malformed <;> simp
  refine ⟨j, job, fun told => ?_, fun escaped => ?_⟩
  · cases left with
    | finished bare => exact absurd bare told
    | failed raised left late =>
      cases f with
      | stage f => exact marked left.2.2
      | setting message => exact marked left
      | file f => exact absurd (.file f) told
      | defect kind message => exact absurd (.defect kind message) told
  · cases left with
    | finished bare complete => exact ⟨complete.unfailed, .inr complete⟩
    | failed raised left late =>
      cases escaped with
      | file f => exact ⟨left.unfailed, .inl ⟨_, raised, left⟩⟩
      | defect kind message => exact ⟨left.unfailed, .inl ⟨_, raised, left⟩⟩

/-- A world in which a file stands where the directory of the witnesses has to be. -/
def blockedWorld : World :=
  { sampleWorld with
    files := sampleWorld.files.put ["run", "witnesses"] (.file [] FileTree.fileMode) }

theorem hasBareFaults_blockedWorld : blockedWorld.HasBareFaults :=
  hasBareFaults_sampleWorld.of_outside rfl rfl

/-- The fault of the job in that world. -/
def blockedFault : Fault :=
  .file ⟨.exists, "/run/witnesses", none⟩

theorem runIn_blockedWorld :
    faultOf ((runJob sampleSettings false 1 (5 : Nat)).runIn blockedWorld).1 =
      some blockedFault := by
  decide +kernel

theorem runJob_escapes_blocked :
    blockedWorld.HasBareFaults ∧
      ((runJob sampleSettings false 1 (5 : Nat)).runIn blockedWorld).1 =
        .error (.fault blockedFault) ∧
      ∃ j, ((runJob sampleSettings false 1 (5 : Nat)).runIn blockedWorld).2.job = some j ∧
        j.failedStage = none ∧ j.status = .created := by
  have run := runIn_eq_of_faultOf runIn_blockedWorld
  have status : ((runJob sampleSettings false 1 (5 : Nat)).runIn blockedWorld).2.job.map
      (·.status) = some .created := by
    decide +kernel
  obtain ⟨j, job, -, escaped⟩ := runJob_escapes sampleSettings false 1 5 blockedWorld
    ((runJob sampleSettings false 1 (5 : Nat)).runIn blockedWorld).2 blockedFault
    hasBareFaults_blockedWorld run
  rw [job] at status
  exact ⟨hasBareFaults_blockedWorld, congrArg Prod.fst run, j, job, (escaped (.file _)).1,
    Option.some.inj status⟩

/-- A directory that cannot be made for the witness is no failure of the capture: the job ends, and
its record says that nothing is done yet and that no stage has failed. -/
theorem blocked_capture_unmarked :
    ¬ ∀ (s : Settings) (mock : Bool) (bound n : Nat) (w w' : World) (f : Fault), w.HasBareFaults →
      (runJob s mock bound n).runIn w = (.error (.fault f), w') →
        ¬ f.IsBare ∧ ∃ j, w'.job = some j ∧ j.failedStage ≠ none ∧
          (j.status = .failed ∨ j.status = .malformed) := by
  intro accounted
  obtain ⟨told, -⟩ := accounted sampleSettings false 1 5 blockedWorld _ blockedFault
    hasBareFaults_blockedWorld (runIn_eq_of_faultOf runIn_blockedWorld)
  exact told (.file _)

end ProofRelay

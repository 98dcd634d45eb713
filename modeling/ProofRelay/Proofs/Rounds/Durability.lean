import ProofRelay.Proofs.Job.ResultFile
import ProofRelay.Proofs.Rounds.Visits

/-!
# Results stay

Rounds that follow the chain hand each block to a job once.  The job of a block files the payload
with which it was verified, or leaves the content of the block's file as it was; it touches no file
of another block.  So at the end of each job, and where the rounds end, the file of every block that
was verified holds the payload of its job, and the file of every other block holds what it held at
the beginning.

Whether a block was verified, and with what, is told by the record that its job leaves.

## Main definitions

* `Visit.verification?` : what the block of a visit was verified with.
* `Visit.Files` : what a job leaves of the files with verifications.
* `Durable` : what these files hold after visits.

## Main results

* `Visit.files_of_isOf` : what every job leaves.
* `Durable.concat` : one more job keeps the files of the blocks before.
* `Rounds.follow_durable` : at the end of each job and of the rounds, the files are so.
-/

namespace ProofRelay

open ProofRelay.Text Activity

/-- What the block of a visit was verified with, if it counts as verified in the record of its
job. -/
def Visit.verification? (v : Visit) : Option PollResult :=
  v.after.job.bind fun j => if j.status = .verified then j.verification else none

/-- The content of the file with the verification of a block under a root, in files that were found
with the working directory of others. -/
def FileTree.resultAt (t₀ t : FileTree) (root : Path) (n : Nat) : Option (List UInt8) :=
  t.bytesAt (t₀.target (root.join (resultName n)))

section Job

variable {s : Settings} {mock : Bool} {bound n : Nat} {v : Visit} {t₀ : FileTree}

/-! ### One job -/

/-- What the job of a block leaves of the files with verifications. -/
structure Visit.Files (s : Settings) (n : Nat) (v : Visit) : Prop where
  /-- The working directory is the same. -/
  here : v.after.files.here = v.before.files.here
  /-- The tools are the same. -/
  tools : v.after.tools = v.before.tools
  /-- A block whose job succeeds counts as verified. -/
  succeeded : v.outcome = .ok () → v.verification?.isSome = true
  /-- A block whose job fails does not, unless the time of the job is not finite. -/
  failed : v.verification?.isSome = true →
    v.outcome = .ok () ∨ (v.after.clock - v.before.clock).isFinite = false
  /-- A verified block has the payload in its file. -/
  verified : ∀ result, v.verification? = some result → result.verdict = .verified ∧
    ∃ root, s.resultsRoot = .ok root ∧
      v.before.files.resultAt v.after.files root n = some (Utf8.ofString result.payload)
  /-- Another one has the content that its file had. -/
  unverified : v.verification? = none → ∀ root, s.resultsRoot = .ok root →
    v.before.files.resultAt v.after.files root n = v.before.files.resultAt v.before.files root n
  /-- So has every other block. -/
  others : ∀ root, s.resultsRoot = .ok root → ∀ m, m ≠ n →
    v.before.files.resultAt v.after.files root m = v.before.files.resultAt v.before.files root m

theorem Visit.verification?_eq {j : Job} (job : v.after.job = some j) :
    v.verification? = if j.status = .verified then j.verification else none := by
  rw [verification?, job, Option.bind_some]

/-- What every job leaves, whatever the tools and the storage do, if the tools write only where a
call says. -/
theorem Visit.files_of_isOf (run : v.IsOf (runJob s mock bound)) (block : v.block = n)
    (named : v.before.tools.WritesNamed) : v.Files s n := by
  obtain ⟨ds, hs, w₀, outside, job, course⟩ := runJob_does s mock bound n v.before
  have ran : (runJob s mock bound n).runIn v.before = (v.outcome, v.after) := block ▸ run
  rw [ran] at hs course
  have before : w₀.files = v.before.files := congrArg Outside.files outside
  have started : w₀.started? = some v.before.clock := by
    rw [World.started?, job]
    rfl
  have others : ∀ root, s.resultsRoot = .ok root → ∀ m, m ≠ n →
      v.before.files.resultAt v.after.files root m =
        v.before.files.resultAt v.before.files root m :=
    fun root _ m other => jobCourse_spares course before hs named (.inl other) root
  have here : v.after.files.here = v.before.files.here := hs.here_eq
  have tools : v.after.tools = v.before.tools := hs.tools_eq
  rcases jobCourse_cases course with ⟨i, j, failed, stages, record, isOpen⟩ |
    ⟨p, w₁, j, stages, record, isOpen, finish⟩
  · -- A stage failed, so that no file was moved and the record is open.
    have unverified : v.verification? = none := by
      rw [verification?_eq record, if_neg isOpen.unverified]
    have still := (stagesCourse_end stages).still_of_error
    refine ⟨here, tools, ?_, ?_, ?_, fun _ root _ => ?_, others⟩
    · intro succeeded
      cases failed.symm.trans succeeded
    · simp [unverified]
    · simp [unverified]
    · exact jobCourse_spares course before hs named (.inr still) root
  · -- All stages succeeded, so that the payload is in its file, and the end of the job closes the
    -- record.
    have time := (stagesCourse_end stages).started?_of_ok.trans started
    obtain ⟨-, same, closed, -⟩ := id finish
    rw [record, Option.map_some] at closed
    have after : v.after.files = w₁.files := congrArg Outside.files same
    cases stagesCourse_end stages with
    | @filed _ _ _ root result _ _ _ verified _ place there _ entry _ =>
      have verification : v.verification? = some result := by
        rw [verification?_eq closed, if_pos rfl]
        exact entry j record
      refine ⟨here, tools, ?_, ?_, ?_, ?_, others⟩
      · simp [verification]
      · intro _
        cases outcome : v.outcome with
        | ok x => exact .inl rfl
        | error i =>
          rw [outcome] at finish
          exact .inr (not_isFinite_of_finishConduct finish record time)
      · intro result' found
        rw [verification] at found
        obtain rfl := Option.some.inj found
        refine ⟨verified.2, root, place, ?_⟩
        rw [FileTree.resultAt, ← FileTree.target_congr here, after]
        exact FileTree.bytesAt_of_readBytes there
      · simp [verification]

end Job

/-! ### Many jobs -/

/-- What the files with verifications hold after visits that were begun in some files. -/
structure Durable (s : Settings) (t₀ : FileTree) (vs : List Visit) (t : FileTree) : Prop where
  /-- A block whose job succeeded counts as verified. -/
  succeeded : ∀ v ∈ vs, v.outcome = .ok () → v.verification?.isSome = true
  /-- A block whose job failed does not, unless the time of the job was not finite. -/
  failed : ∀ v ∈ vs, v.verification?.isSome = true →
    v.outcome = .ok () ∨ (v.after.clock - v.before.clock).isFinite = false
  /-- The file of a verified block holds the payload with which its job verified it. -/
  verified : ∀ v ∈ vs, ∀ result, v.verification? = some result → result.verdict = .verified ∧
    ∃ root b, s.resultsRoot = .ok root ∧ v.block = (b : Nat) ∧
      t₀.resultAt t root b = some (Utf8.ofString result.payload)
  /-- The file of every other block holds what it held. -/
  other : ∀ b : Nat, (∀ v ∈ vs, v.block = b → v.verification? = none) →
    ∀ root, s.resultsRoot = .ok root → t₀.resultAt t root b = t₀.resultAt t₀ root b

theorem Durable.nil (s : Settings) (t : FileTree) : Durable s t [] t where
  succeeded := by simp
  failed := by simp
  verified := by simp
  other := fun _ _ _ _ => rfl

theorem FileTree.resultAt_congr {t t' : FileTree} (here : t'.here = t.here) (u : FileTree)
    (root : Path) (n : Nat) : t'.resultAt u root n = t.resultAt u root n := by
  rw [resultAt, resultAt, target_congr here]

/-- One more job, for a block that is not among those before. -/
theorem Durable.concat {s : Settings} {t₀ : FileTree} {vs : List Visit} {v : Visit} {n : Nat}
    (h : Durable s t₀ vs v.before.files) (here : v.before.files.here = t₀.here)
    (new : ∀ u ∈ vs, u.block ≠ n) (block : v.block = n) (files : v.Files s n) :
    Durable s t₀ (vs ++ [v]) v.after.files := by
  have others : ∀ root, s.resultsRoot = .ok root → ∀ m, m ≠ n →
      t₀.resultAt v.after.files root m = t₀.resultAt v.before.files root m := by
    intro root place m other
    rw [← FileTree.resultAt_congr here, ← FileTree.resultAt_congr here]
    exact files.others root place m other
  refine ⟨?_, ?_, ?_, ?_⟩
  · intro u visited
    rcases List.mem_append.mp visited with earlier | last
    · exact h.succeeded u earlier
    · rw [List.mem_singleton.mp last]
      exact files.succeeded
  · intro u visited
    rcases List.mem_append.mp visited with earlier | last
    · exact h.failed u earlier
    · rw [List.mem_singleton.mp last]
      exact files.failed
  · intro u visited result found
    rcases List.mem_append.mp visited with earlier | last
    · obtain ⟨verdict, root, b, place, same, holds⟩ := h.verified u earlier result found
      refine ⟨verdict, root, b, place, same, ?_⟩
      rw [others root place b, holds]
      rintro rfl
      exact new u earlier same
    · obtain rfl := List.mem_singleton.mp last
      obtain ⟨verdict, root, place, holds⟩ := files.verified result found
      refine ⟨verdict, root, n, place, block, ?_⟩
      rw [← FileTree.resultAt_congr here]
      exact holds
  · intro b none root place
    have earlier := h.other b (fun u visited => none u (List.mem_append_left _ visited)) root place
    rw [← earlier]
    by_cases own : b = n
    · subst own
      rw [← FileTree.resultAt_congr here, ← FileTree.resultAt_congr here]
      exact files.unverified (none v (by simp) block) root place
    · exact others root place b own

namespace Rounds

variable {s : Settings} {mock : Bool} {polls : Nat} {r : Rounds}

theorem files_leaves (v : Visit) : (leaves v).files = v.after.files := by
  rw [leaves]
  cases v.malformed? <;> rfl

theorem tools_leaves (v : Visit) : (leaves v).tools = v.after.tools := by
  rw [leaves]
  cases v.malformed? <;> rfl

/-- One more visit of a job after visits to blocks before its own. -/
theorem durable_visit {t₀ : FileTree} {done : List Visit} {v : Visit}
    (run : v.IsOf (runJob s mock polls)) (nonneg : 0 ≤ v.block)
    (named : v.before.tools.WritesNamed) (here : v.before.files.here = t₀.here)
    (before : ∀ u ∈ done, u.block < v.block) (durable : Durable s t₀ done v.before.files) :
    Durable s t₀ (done ++ [v]) v.after.files ∧ v.after.tools.WritesNamed ∧
      v.after.files.here = t₀.here := by
  obtain ⟨n, block⟩ := Int.eq_ofNat_of_zero_le nonneg
  have files : v.Files s n := Visit.files_of_isOf run block named
  have new : ∀ u ∈ done, u.block ≠ n := fun u visited => by
    have less := before u visited
    omega
  refine ⟨durable.concat here new block files, ?_, files.here.trans here⟩
  rw [files.tools]
  exact named

/-- A single visit is the only one to look at. -/
theorem forall_split_singleton {P : List Visit → Visit → Prop} {v : Visit} (h : P [] v) :
    ∀ us u rest, [v] = us ++ u :: rest → P us u := by
  rintro (_ | ⟨u', us⟩) u rest split
  · cases split
    exact h
  · simp at split

/-- Rounds of jobs from a block on, after visits to blocks before it, are durable at the end of each
job and at their own end. -/
theorem Course.durable {k : Nat} {t : Tally} {n : Int} {w w' : World} {vs : List Visit}
    {x : Except Interruption Tally} {t₀ : FileTree} {done : List Visit}
    (h : r.Course (runJob s mock polls) k t n w vs x w') (nonneg : 0 ≤ n)
    (named : w.tools.WritesNamed) (here : w.files.here = t₀.here) (before : ∀ u ∈ done, u.block < n)
    (durable : Durable s t₀ done w.files) :
    (∀ us v rest, vs = us ++ v :: rest → Durable s t₀ (done ++ us ++ [v]) v.after.files) ∧
      Durable s t₀ (done ++ vs) w'.files := by
  -- By induction on the course, where the visits already done grow by one in each round.
  induction h generalizing done with
  | bounded | stopped | full =>
    rw [List.append_nil]
    exact ⟨fun us v rest split => by simp at split, durable⟩
  | failed _ run =>
    obtain ⟨kept, -⟩ := durable_visit run nonneg named here before durable
    refine ⟨forall_split_singleton ?_, kept⟩
    rwa [List.append_nil]
  | @done k t v _ run =>
    obtain ⟨kept, -⟩ := durable_visit run nonneg named here before durable
    rw [files_leaves]
    refine ⟨forall_split_singleton ?_, kept⟩
    rwa [List.append_nil]
  | @went k t vs x w' v _ run _ _ _ ih =>
    obtain ⟨kept, named', here'⟩ := durable_visit run nonneg named here before durable
    have before' : ∀ u ∈ done ++ [v], u.block < v.block + 1 := by
      intro u visited
      rcases List.mem_append.mp visited with earlier | last
      · have less := before u earlier
        omega
      · rw [List.mem_singleton.mp last]
        omega
    rw [← tools_leaves] at named'
    rw [← files_leaves] at here'
    have kept' := kept
    rw [← files_leaves] at kept'
    obtain ⟨each, last⟩ := ih (by omega) named' here' before' kept'
    refine ⟨?_, ?_⟩
    · rintro (_ | ⟨u', us⟩) u rest split
      · cases split
        rw [List.append_nil]
        exact kept
      · rw [List.cons_append, List.cons.injEq] at split
        obtain ⟨rfl, split⟩ := split
        have later := each us u rest split
        rwa [List.append_assoc done, List.singleton_append] at later
    · rwa [List.append_assoc, List.singleton_append] at last

/-- Rounds that follow the chain with jobs, whatever the tools and the storage do, if the tools
write only where a call says: at the end of each job, and at the end of the rounds however they end,
the file of every block that was verified so far holds the payload of its job, and the file of every
other block holds what it held at the beginning. -/
theorem follow_durable (s : Settings) (mock : Bool) (polls start bound : Nat)
    (chain : Option ChainClient) (halt : Bool) (limit : Option Int) (w : World)
    (named : w.tools.WritesNamed) :
    ∃ vs, Conducted ⟨.follow, some start, chain, halt, limit⟩ (runJob s mock polls) bound start w vs
        ((run ⟨.follow, some start, chain, halt, limit⟩ (runJob s mock polls) bound).runIn w).1
        ((run ⟨.follow, some start, chain, halt, limit⟩ (runJob s mock polls) bound).runIn w).2 ∧
      (∀ us v rest, vs = us ++ v :: rest → Durable s w.files (us ++ [v]) v.after.files) ∧
      Durable s w.files vs
        ((run ⟨.follow, some start, chain, halt, limit⟩ (runJob s mock polls) bound).runIn
          w).2.files := by
  let r : Rounds := ⟨.follow, some start, chain, halt, limit⟩
  obtain ⟨vs, course⟩ := r.runFrom_course (runJob s mock polls) bound .empty start w
  have opened : r.first.runIn w = (.ok (start : Int), w) := rfl
  have ran : (r.run (runJob s mock polls) bound).runIn w =
      (r.runFrom (runJob s mock polls) bound .empty start).runIn w := runIn_bind_ok opened _
  rw [← ran] at course
  obtain ⟨each, last⟩ :=
    course.durable (Int.natCast_nonneg start) named rfl (by simp) (.nil s w.files)
  exact ⟨vs, course.conducted, each, last⟩

/-- Rounds that end after two blocks, which are both verified. -/
theorem follow_durable_sample :
    sampleWorld.tools.WritesNamed ∧
      ((run ⟨.follow, some (5 : Nat), none, true, some 2⟩ (runJob sampleSettings false 1)
        3).runIn sampleWorld).1.toOption = some ⟨[5, 6], []⟩ ∧
      ∃ vs, Durable sampleSettings sampleWorld.files vs
        ((run ⟨.follow, some (5 : Nat), none, true, some 2⟩ (runJob sampleSettings false 1)
          3).runIn sampleWorld).2.files := by
  obtain ⟨vs, -, -, durable⟩ :=
    follow_durable sampleSettings false 1 5 3 none true (some 2) sampleWorld writesNamed_sampleTools
  exact ⟨writesNamed_sampleTools, by decide +kernel, vs, durable⟩

end Rounds

end ProofRelay

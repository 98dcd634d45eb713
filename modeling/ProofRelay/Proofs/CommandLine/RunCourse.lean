import ProofRelay.Proofs.CommandLine.Frontend
import ProofRelay.Proofs.Job.InStep
import ProofRelay.Proofs.Rounds.Visits
import ProofRelay.Proofs.Settings.Usable

/-!
# The course of a run

The command that runs jobs takes requests to stop, lets the rounds run, and turns their end into
one of its own: a fault that the operator can do something about gives a status, and so do the
blocks that were done, once they are drawn.  Nothing between the command line and the rounds can
fail, since the arguments and the settings were checked when they were read.

So everything about a run follows from the course of its rounds.  They find a first block or not,
and from there on they visit one block after the other.  Rounds are done when there are as many
visits as the operator asked for and each was passed; what else may become of them is that a visit
was not passed, that there was a request to stop, or that nothing ends them.  The number of visits
never exceeds the one that was asked for, and that decides which of these it is.

## Main definitions

* `endOf` : the end of the command after an end of its rounds.
* `RunTask.Course` : the courses of the rounds of the command.
* `RunTask.requested` : the number of blocks that the command is asked for.
* `RunTask.Completed`, `RunTask.EndedBy`, `RunTask.Unending` : what may become of the rounds.
* `Begins` : command lines that begin a run.

## Main results

* `RunTask.runIn_perform` : the command is its rounds and their end.
* `RunTask.exists_course` : the rounds take one of the courses.
* `RunTask.Course.of_ok`, `RunTask.Course.of_error` : what is true of rounds that gave their
  blocks, and of those that did not.
* `Begins.runIn_commandLine` : a run of the command line is the rounds and their end.
-/

namespace ProofRelay.CommandLine

open Activity Settings

/-! ### The end of the command -/

/-- The status for a stage that failed. -/
def statusOfStage (f : StageFault) : ExitStatus :=
  match f.cause with
  | .malformed .. => .malformed
  | .cancelled => .cancelled
  | _ => .failed

/-- The status for the blocks that were done. -/
def statusOfTally (tally : Tally) : ExitStatus :=
  if tally.malformed.isEmpty then .ok else .malformed

/-- How the command ends after its rounds: what was done is drawn, or there is a fault instead. -/
def endOf (drawn : Tally → Except Fault (List String)) :
    Except Interruption Tally → Except Interruption ExitStatus
  | .ok tally =>
    match drawn tally with
    | .ok _ => .ok (statusOfTally tally)
    | .error f => .error (.fault f)
  | .error (.fault (.setting _)) => .ok .notSet
  | .error (.fault (.stage f)) => .ok (statusOfStage f)
  | .error i => .error i

namespace RunTask

variable {t : RunTask} {s : Settings} {bound : Nat} {w w' : World}

theorem runIn_endAt (f : Fault) (drawn : Tally → Except Fault (List String)) (w : World) :
    ((endAt f).runIn w).1 = endOf drawn (.error (.fault f)) ∧
      ((endAt f).runIn w).2.stopDue = w.stopDue := by
  cases f with
  | setting | file | defect => exact ⟨rfl, rfl⟩
  | stage f =>
    rw [endAt, endOf, statusOfStage]
    cases f.cause <;> exact ⟨rfl, rfl⟩

/-- A world in which requests to stop are taken. -/
def takingRequests (w : World) : World :=
  { w with stop := some (w.stop.getD ⟨false, none⟩) }

/-- The command is its rounds and their end. -/
theorem runIn_perform (drawn : List (String × String) → Table → Except Fault (List String))
    (sound : t.IsSound) (usable : s.poll.refusal? = none) (bound : Nat) (w : World) :
    ((t.perform drawn s bound).runIn w).1 =
        endOf (fun tally => drawn w.environment (summary tally))
          ((t.rounds (t.onTopOf s) bound).runIn (takingRequests w)).1 ∧
      ((t.perform drawn s bound).runIn w).2.stopDue =
        ((t.rounds (t.onTopOf s) bound).runIn (takingRequests w)).2.stopDue := by
  have kept := (rounds_inStep t (t.onTopOf s) bound).stays (takingRequests w)
  have taken : (modify fun w : World => { w with stop := some (w.stop.getD ⟨false, none⟩) } :
      Activity Unit).runIn w = (.ok (), takingRequests w) := rfl
  rw [perform, settingsOver_eq sound usable]
  change ((pure (t.onTopOf s) >>= _ : Activity ExitStatus).runIn w).1 = _ ∧
    ((pure (t.onTopOf s) >>= _ : Activity ExitStatus).runIn w).2.stopDue = _
  rw [pure_bind, runIn_bind_ok taken, runIn_bind, runIn_attempt]
  rcases ran : (t.rounds (t.onTopOf s) bound).runIn (takingRequests w) with ⟨(f | _) | tally, v⟩
  · exact runIn_endAt f _ v
  · exact ⟨rfl, rfl⟩
  · rw [ran] at kept
    have environment : v.environment = w.environment := kept.1
    dsimp only
    rw [runIn_bind_ok (runIn_get v), environment, runIn_bind, runIn_ofExcept, endOf]
    cases drawn w.environment (summary tally) <;> exact ⟨rfl, rfl⟩

/-! ### The course of the rounds -/

/-- How the command gets to the chain, which it needs for the latest block only. -/
inductive Connected (t : RunTask) (s : Settings) (w : World) : Option ChainClient → World → Prop
  /-- There is no need for the chain. -/
  | unneeded (mode : t.mode ≠ .latest) : Connected t s w none w
  /-- The address of the chain's service is set. -/
  | connected {address} (mode : t.mode = .latest) (given : s.rpcUrl.given? = some address) :
      Connected t s w (some ⟨address⟩) (w.note (.provider address ChainClient.standardTimeout))

/-- The rounds of the command. -/
def roundsWith (t : RunTask) (s : Settings) (chain : Option ChainClient) : Rounds :=
  ⟨t.mode, t.start <|> some s.startBlock, chain, s.haltOnMalformed, t.limit⟩

/-- The courses of the rounds of the command: what becomes of the first block, and the visits from
there on. -/
inductive Course (t : RunTask) (s : Settings) (bound : Nat) (w : World) :
    Except Interruption Int → List Visit → Except Interruption Tally → World → Prop
  /-- The address of the chain's service is not set. -/
  | unconnected {message} (mode : t.mode = .latest) (absent : s.rpcUrl.given? = none) :
      Course t s bound w (.error (.fault (.setting message))) []
        (.error (.fault (.setting message))) w
  /-- The first block is not found. -/
  | unopened {chain w₁ i w₂} (connected : t.Connected s w chain w₁)
      (opening : (t.roundsWith s chain).Opening w₁ (.error i) w₂) :
      Course t s bound w (.error i) [] (.error i) w₂
  /-- There are rounds from the first block on. -/
  | opened {chain w₁ n w₂ vs x w'} (connected : t.Connected s w chain w₁)
      (opening : (t.roundsWith s chain).Opening w₁ (.ok n) w₂)
      (conducted : (t.roundsWith s chain).Conducted (runJob s t.mock bound) bound n w₂ vs x w') :
      Course t s bound w (.ok n) vs x w'

theorem course_of_connected {chain : Option ChainClient} {w₁ : World}
    (connected : t.Connected s w chain w₁) :
    ∃ first vs, t.Course s bound w first vs
      (((t.roundsWith s chain).run (runJob s t.mock bound) bound).runIn w₁).1
      (((t.roundsWith s chain).run (runJob s t.mock bound) bound).runIn w₁).2 := by
  obtain ⟨first, w₂, opening, -, went⟩ :=
    (t.roundsWith s chain).run_conducted (runJob s t.mock bound) bound w₁
  cases first with
  | error i =>
    have went : ((t.roundsWith s chain).run (runJob s t.mock bound) bound).runIn w₁ =
      (.error i, w₂) := went
    rw [went]
    exact ⟨.error i, [], .unopened connected opening⟩
  | ok n =>
    obtain ⟨vs, conducted⟩ := went
    exact ⟨.ok n, vs, .opened connected opening conducted⟩

/-- The rounds of the command take one of the courses. -/
theorem exists_course (t : RunTask) (s : Settings) (bound : Nat) (w : World) :
    ∃ first vs, t.Course s bound w first vs ((t.rounds s bound).runIn w).1
      ((t.rounds s bound).runIn w).2 := by
  rw [rounds]
  by_cases mode : t.mode = .latest
  · rw [if_pos mode, ChainClient.connect]
    cases given : s.rpcUrl.given? with
    | none => exact ⟨_, [], .unconnected mode given⟩
    | some address => exact course_of_connected (.connected mode given)
  · rw [if_neg mode]
    exact course_of_connected (.unneeded mode)

/-! ### How the rounds end -/

theorem processed_foldl_count (vs : List Visit) (tally : Tally) :
    (vs.foldl Tally.count tally).processed = tally.processed + vs.length := by
  induction vs generalizing tally with
  | nil => rfl
  | cons v vs ih =>
    rw [List.foldl_cons, ih, Tally.processed_count, List.length_cons]
    omega

/-- The number of blocks that the command is asked for, if there is one. -/
def requested (t : RunTask) : Option Int :=
  if t.mode = .follow then t.limit else some 1

theorem one_le_of_requested (sound : t.IsSound) {n : Int} (asked : t.requested = some n) :
    1 ≤ n := by
  rw [requested] at asked
  split at asked
  · exact sound.limit n asked
  · cases asked
    decide

/-- Whether the rounds go on after a visit. -/
def Passes (s : Settings) (v : Visit) : Prop :=
  v.outcome = .ok () ∨ v.malformed?.isSome = true ∧ s.haltOnMalformed = false

/-- The rounds are done: as many blocks as were asked for, and each was passed. -/
structure Completed (t : RunTask) (s : Settings) (vs : List Visit) : Prop where
  /-- There are as many visits as were asked for. -/
  all : t.requested = some (vs.length : Int)
  /-- Each was passed. -/
  passed : ∀ v ∈ vs, Passes s v

/-- What ended the rounds early: there was no first block, or this became of the last job. -/
inductive EndedBy (s : Settings) (first : Except Interruption Int) (vs : List Visit)
    (i : Interruption) : Prop
  /-- There was no first block. -/
  | opening (unfound : first = .error i)
  /-- The last job did not succeed, and it was not a malformed verification to be passed. -/
  | job {us v} (last : vs = us ++ [v]) (outcome : v.outcome = .error i)
      (halts : i.malformed?.isSome = true → s.haltOnMalformed = true)

/-- Nothing ends the rounds before the bound on them is reached. -/
structure Unending (t : RunTask) (s : Settings) (bound : Nat) (first : Except Interruption Int)
    (vs : List Visit) : Prop where
  /-- There is a first block. -/
  begun : ∃ n, first = .ok n
  /-- There is no number of blocks that was asked for. -/
  open_ended : t.requested = none
  /-- Each visit was passed. -/
  passed : ∀ v ∈ vs, Passes s v
  /-- There are as many visits as the bound allows. -/
  reaches : vs.length = bound

theorem malformed?_of_error {v : Visit} {i : Interruption} (outcome : v.outcome = .error i) :
    v.malformed? = i.malformed? := by
  rw [Visit.malformed?, outcome]

/-- A job that failed is passed only if it was a malformed verification that is to be passed. -/
theorem not_passes_iff {v : Visit} {i : Interruption} (outcome : v.outcome = .error i) :
    ¬ Passes s v ↔ (i.malformed?.isSome = true → s.haltOnMalformed = true) := by
  rw [Passes, outcome, malformed?_of_error outcome]
  simp

namespace Course

variable {first : Except Interruption Int} {vs : List Visit} {x : Except Interruption Tally}
  {tally : Tally} {i : Interruption}

/-- No more blocks are visited than were asked for. -/
theorem length_le (h : t.Course s bound w first vs x w') (sound : t.IsSound) {n : Int}
    (asked : t.requested = some n) : (vs.length : Int) ≤ n := by
  have positive := one_le_of_requested sound asked
  cases h with
  | unconnected | unopened => exact Int.le_trans (by decide) positive
  | opened _ _ conducted =>
    rw [requested] at asked
    split at asked
    · by_cases none : vs.length = 0
      · omega
      · have last := conducted.limited n asked (vs.length - 1) (by omega)
        omega
    · next once =>
      have one := conducted.once once
      omega

/-- When there are enough blocks, then there are as many as were asked for. -/
theorem requested_eq_of_full (h : t.Course s bound w first vs x w') (sound : t.IsSound)
    {r : Rounds} (limit : r.limit = t.limit)
    (full : r.isFull (vs.foldl Tally.count .empty) = true) :
    t.requested = some (vs.length : Int) := by
  have atMost := fun n => h.length_le sound (n := n)
  have processed : (vs.foldl Tally.count .empty).processed = vs.length := by
    rw [processed_foldl_count, Tally.processed, Tally.empty, List.length_nil]
    omega
  rw [Rounds.isFull, limit, processed] at full
  rw [requested] at atMost ⊢
  cases wanted : t.limit with
  | none => rw [wanted] at full; cases full
  | some l =>
    rw [wanted] at full atMost
    have enough : l ≤ (vs.length : Int) := of_decide_eq_true full
    have positive := sound.limit l wanted
    split at atMost
    · rw [if_pos ‹_›, Int.le_antisymm enough (atMost l rfl)]
    · have one := atMost 1 rfl
      rw [if_neg ‹_›, show (vs.length : Int) = 1 by omega]

/-- Rounds that gave their blocks counted all visits and passed each; they did all that was asked
for, or there was a request to stop before that. -/
theorem of_ok (h : t.Course s bound w first vs (.ok tally) w') (sound : t.IsSound) :
    tally = vs.foldl Tally.count .empty ∧ (∀ v ∈ vs, Passes s v) ∧
      (t.requested = some (vs.length : Int) ∨
        w'.stopDue = true ∧ ∀ n, t.requested = some n → (vs.length : Int) < n) := by
  have atMost := fun n => h.length_le sound (n := n)
  have full := fun r => h.requested_eq_of_full sound (r := r)
  cases h with
  | opened _ _ conducted =>
    have ending := conducted.ending
    obtain ⟨counted, passed⟩ := ending.of_ok
    refine ⟨counted, passed, ?_⟩
    cases ending with
    | full _ enough => exact .inl (full _ rfl enough)
    | done _ once one =>
      have single : t.mode ≠ .follow := once
      rw [requested, if_neg single, one]
      exact .inl rfl
    | stopped _ due =>
      by_cases all : t.requested = some (vs.length : Int)
      · exact .inl all
      · refine .inr ⟨due, fun n asked => ?_⟩
        rcases Int.lt_or_eq_of_le (atMost n asked) with less | rfl
        · exact less
        · exact absurd asked all

/-- What ended the rounds early is what they give. -/
theorem eq_of_endedBy (h : t.Course s bound w first vs x w') (ended : EndedBy s first vs i) :
    x = .error i := by
  cases h with
  | unconnected | unopened =>
    cases ended with
    | opening unfound => cases unfound; rfl
    | job last => simp at last
  | opened _ _ conducted =>
    cases ended with
    | opening unfound => cases unfound
    | job last outcome halts =>
      have unpassed := (not_passes_iff outcome).mpr halts
      have mem : _ ∈ vs := last ▸ List.mem_append_right _ List.mem_cons_self
      cases conducted.ending with
      | stopped all | full all | done all | bounded all => exact absurd (all _ mem) unpassed
      | failed last' _ _ outcome' =>
        obtain ⟨-, same⟩ := List.append_inj' (last.symm.trans last') rfl
        obtain rfl := List.singleton_injective same
        rw [outcome] at outcome'
        cases outcome'
        rfl

/-- Rounds that gave no blocks were ended early, unless nothing would have ended them. -/
theorem of_error (h : t.Course s bound w first vs (.error i) w') (sound : t.IsSound)
    (enough : ∀ n, t.requested = some n → n < bound) :
    EndedBy s first vs i ∨ i = .endless ∧ t.Unending s bound first vs := by
  have atMost := fun n => h.length_le sound (n := n)
  cases h with
  | unconnected | unopened => exact .inl (.opening rfl)
  | opened _ _ conducted =>
    cases conducted.ending with
    | failed last _ halts outcome =>
      exact .inl (.job last outcome ((not_passes_iff outcome).mp halts))
    | bounded passed reaches =>
      refine .inr ⟨rfl, ⟨_, rfl⟩, ?_, passed, reaches⟩
      cases asked : t.requested with
      | none => rfl
      | some n =>
        have less := enough n asked
        have atMost := atMost n asked
        omega

/-- A fault of the rounds is what ended them early. -/
theorem eq_fault_iff (h : t.Course s bound w first vs x w') (sound : t.IsSound)
    (enough : ∀ n, t.requested = some n → n < bound) (f : Fault) :
    x = .error (.fault f) ↔ EndedBy s first vs (.fault f) := by
  refine ⟨?_, h.eq_of_endedBy⟩
  rintro rfl
  exact (h.of_error sound enough).resolve_right fun unending => Interruption.noConfusion unending.1

/-- Without a request to stop, rounds that nothing ends reach the bound on them. -/
theorem eq_endless_of_unending (h : t.Course s bound w first vs x w') (sound : t.IsSound)
    (calm : w'.stopDue = false) (unending : t.Unending s bound first vs) :
    x = .error .endless := by
  obtain ⟨⟨n, rfl⟩, asked, passed, reaches⟩ := unending
  have full := fun r => h.requested_eq_of_full sound (r := r)
  rw [asked] at full
  cases h with
  | opened _ _ conducted =>
    cases conducted.ending with
    | stopped _ due => exact absurd (calm.symm.trans due) (by decide)
    | full _ enough => cases full _ rfl enough
    | done _ once =>
      have single : t.mode ≠ .follow := once
      rw [requested, if_neg single] at asked
      cases asked
    | failed last _ halts =>
      exact absurd (passed _ (last ▸ List.mem_append_right _ List.mem_cons_self)) halts
    | bounded => rfl

/-- Rounds that passed all visits before the bound was reached give their blocks. -/
theorem eq_ok_of_passed (h : t.Course s bound w first vs x w') {n : Int} (begun : first = .ok n)
    (passed : ∀ v ∈ vs, Passes s v) (within : vs.length < bound) :
    x = .ok (vs.foldl Tally.count .empty) := by
  cases h with
  | unconnected | unopened => cases begun
  | opened _ _ conducted =>
    cases conducted.ending with
    | stopped | full | done => rfl
    | failed last _ halts =>
      exact absurd (passed _ (last ▸ List.mem_append_right _ List.mem_cons_self)) halts
    | bounded _ reaches => omega

/-- Rounds that are done give their blocks. -/
theorem eq_ok_of_completed (h : t.Course s bound w first vs x w') (sound : t.IsSound)
    (enough : ∀ n, t.requested = some n → n < bound) (done : t.Completed s vs) :
    x = .ok (vs.foldl Tally.count .empty) := by
  cases first with
  | error i =>
    have positive := one_le_of_requested sound done.all
    cases h <;> exact absurd positive (by decide)
  | ok n =>
    have within := enough _ done.all
    exact h.eq_ok_of_passed rfl done.passed (by omega)

end Course

end RunTask

/-! ### The command line -/

/-- A command line that begins a run: what is told to the group and to the command, and the settings
that are loaded. -/
structure Begins (c : Frontend) (w : World) (arguments : List String) (i : Invocation)
    (t : RunTask) (s : Settings) (w₁ : World) : Prop where
  /-- The command is looked up. -/
  read : c.invocation w.files arguments = .ok i
  /-- It is the one that runs jobs. -/
  page : i.page = .run
  /-- The settings are loaded. -/
  loads : (load i.group.settingsFile (i.group.workspace.map w.files.resolve)).runIn w = (.ok s, w₁)
  /-- The arguments of the command are read. -/
  told : c.runTask i.arguments = .ok t

theorem Frontend.runIn_commandLine {c : Frontend} {w : World} {arguments : List String}
    {i : Invocation} (program : String) (bound : Nat)
    (read : c.invocation w.files arguments = .ok i) :
    (c.commandLine program bound arguments).runIn w = (c.run i program bound).runIn w := by
  rw [commandLine, runIn_bind_ok (runIn_get w), read]

/-- An invocation of the command that runs jobs. -/
theorem Frontend.perform_run {c : Frontend} {i : Invocation} {t : RunTask} (page : i.page = .run)
    (told : c.runTask i.arguments = .ok t) (program : String) (s : Settings) (bound : Nat) :
    c.perform i program s bound = t.perform c.draw s bound := by
  rw [perform, page]
  dsimp only
  rw [told]
  rfl

/-- The command behind no options of the group: the settings are loaded, then it runs. -/
theorem runIn_commandLine_run {rest : List String} {t : RunTask}
    (told : readAll RunTask.parameters .initial rest = .ok t) (program : String) (bound : Nat)
    (w : World) :
    (commandLine program bound ("run" :: rest)).runIn w =
      ((do
        match ← attempt (load none none) with
        | .error (.setting message) => endWithProblem .notSet message
        | .error f => fail f
        | .ok s => t.perform Screen.draw s bound : Activity ExitStatus)).runIn w := by
  have read : Frontend.usual.invocation w.files ("run" :: rest) = .ok ⟨.initial, .run, rest⟩ :=
    Invocation.read_run w.files rest
  have performed : ∀ s, Frontend.usual.perform ⟨.initial, .run, rest⟩ program s bound =
      t.perform Screen.draw s bound := fun s => Frontend.perform_run rfl told program s bound
  rw [commandLine, Frontend.runIn_commandLine program bound read, Frontend.run,
    runIn_bind_ok (runIn_get w)]
  simp only [performed]
  rfl

namespace Begins

variable {c : Frontend} {w w₁ : World} {arguments : List String} {i : Invocation} {t : RunTask}
  {s : Settings}

/-- The run is the rounds of the command and their end. -/
theorem runIn_commandLine (h : Begins c w arguments i t s w₁) (sound : t.IsSound)
    (program : String) (bound : Nat) :
    let rounds := (t.rounds (t.onTopOf s) bound).runIn (RunTask.takingRequests w₁)
    let ended := (c.commandLine program bound arguments).runIn w
    ended.1 = endOf (c.drawn w.environment) rounds.1 ∧
      ended.2.stopDue = rounds.2.stopDue := by
  obtain ⟨⟨lines, -, rfl⟩, usable⟩ := of_load_ok h.loads
  rw [Frontend.runIn_commandLine program bound h.read, Frontend.run,
    runIn_bind_ok (runIn_get w), runIn_bind, runIn_attempt, h.loads]
  dsimp only
  rw [Frontend.perform_run h.page h.told]
  exact RunTask.runIn_perform c.draw sound usable bound (w.withLines lines)

end Begins

end ProofRelay.CommandLine

import ProofRelay.Proofs.CommandLine.RunCourse

/-!
# The exit status of a run

Without a request to stop, the exit status of a run tells what became of its jobs: a missing
setting, a malformed verification or another stage that ended the run each has a status of its
own, whatever was passed before, and a run that is done is a success exactly when each of its
blocks is verified.  A run that is done draws its blocks before it has a status; this is no part of
the run, so that it is assumed that they can be drawn.

A request to stop is looked for at two places.  One that cuts short the polls of a job has a
status of its own, but one that is found between two blocks only ends the rounds: the run then has
the status for the blocks that were done before, and may be a success though blocks that the
operator asked for are left.

## Main definitions

* `RunTask.Orderly` : the first block is looked for and the jobs run without a request to stop.
* `RunTask.Tells` : how the status of a run follows from what became of its first block and of its
  jobs.
* `RunTask.Stops` : how a run ends when there may be a request to stop.

## Main results

* `commandLine_tells` : the status of a run without a request to stop.
* `commandLine_stops` : what a success means, and where a request to stop shows in the status.
-/

namespace ProofRelay.CommandLine

open Activity Settings RunTask

/-! ### Statuses -/

section Statuses

variable {drawn : Tally → Except Fault (List String)} {x : Except Interruption Tally}
  {status : ExitStatus}
  {ended : Except Interruption ExitStatus} {f : StageFault}

theorem exitNumber_eq_iff : exitNumber ended = some status.number ↔ ended = .ok status := by
  cases ended with
  | error i => exact ⟨nofun, nofun⟩
  | ok other =>
    simp only [exitNumber, Option.some.injEq, Except.ok.injEq]
    cases other <;> cases status <;> decide

/-- Which ends of the rounds lead to a status. -/
theorem endOf_eq_ok_iff :
    endOf drawn x = .ok status ↔
      (∃ message, x = .error (.fault (.setting message)) ∧ .notSet = status) ∨
        (∃ f, x = .error (.fault (.stage f)) ∧ statusOfStage f = status) ∨
        ∃ tally, x = .ok tally ∧ (∃ lines, drawn tally = .ok lines) ∧
          statusOfTally tally = status := by
  rcases x with ((message | f | f | ⟨kind, message⟩) | _) | tally
  case ok => cases lines : drawn tally <;> simp [endOf, lines]
  all_goals simp [endOf]

@[simp] theorem statusOfStage_eq_malformed_iff :
    statusOfStage f = .malformed ↔ (Interruption.fault (.stage f)).malformed?.isSome = true := by
  rw [statusOfStage, Interruption.malformed?]
  cases f.cause <;> simp

@[simp] theorem statusOfStage_eq_cancelled_iff :
    statusOfStage f = .cancelled ↔ f.cause = .cancelled := by
  rw [statusOfStage]
  cases f.cause <;> simp

@[simp] theorem statusOfStage_eq_failed_iff :
    statusOfStage f = .failed ↔
      (Interruption.fault (.stage f)).malformed? = none ∧ f.cause ≠ .cancelled := by
  rw [statusOfStage, Interruption.malformed?]
  cases f.cause <;> simp

@[simp] theorem statusOfStage_ne_notSet : statusOfStage f ≠ .notSet := by
  rw [statusOfStage]
  cases f.cause <;> simp

@[simp] theorem statusOfStage_ne_ok : statusOfStage f ≠ .ok := by
  rw [statusOfStage]
  cases f.cause <;> simp

@[simp] theorem statusOfTally_ne_notSet {tally : Tally} : statusOfTally tally ≠ .notSet := by
  rw [statusOfTally]
  split <;> nofun

@[simp] theorem statusOfTally_ne_cancelled {tally : Tally} : statusOfTally tally ≠ .cancelled := by
  rw [statusOfTally]
  split <;> nofun

@[simp] theorem statusOfTally_ne_failed {tally : Tally} : statusOfTally tally ≠ .failed := by
  rw [statusOfTally]
  split <;> nofun

/-- Visits are counted to a success exactly when each is verified. -/
@[simp] theorem statusOfTally_eq_ok_iff {vs : List Visit} :
    statusOfTally (vs.foldl Tally.count .empty) = .ok ↔ ∀ v ∈ vs, v.outcome = .ok () := by
  have none : (vs.foldl Tally.count .empty).malformed.isEmpty = true ↔
      ∀ v ∈ vs, v.outcome = .ok () := by
    rw [Tally.foldl_count]
    simp [Tally.empty, List.filter_eq_nil_iff, Visit.isVerified_iff]
  rw [← none, statusOfTally]
  cases (vs.foldl Tally.count .empty).malformed.isEmpty <;> simp

/-- Otherwise, if they were all passed, one of them is malformed. -/
theorem statusOfTally_eq_malformed_iff {s : Settings} {vs : List Visit}
    (passed : ∀ v ∈ vs, Passes s v) :
    statusOfTally (vs.foldl Tally.count .empty) = .malformed ↔
      ∃ v ∈ vs, v.malformed?.isSome = true := by
  have either : ∀ tally, statusOfTally tally = .malformed ↔ statusOfTally tally ≠ .ok := by
    intro tally
    rw [statusOfTally]
    split <;> simp
  rw [either, Ne, statusOfTally_eq_ok_iff]
  push Not
  refine exists_congr fun v => and_congr_right fun visited => ⟨?_, fun bad verified => ?_⟩
  · exact fun unverified => ((passed v visited).resolve_left unverified).1
  · simp [Visit.malformed?, verified] at bad

end Statuses

/-! ### Runs without a request to stop -/

namespace RunTask

variable {t : RunTask} {s : Settings} {bound : Nat} {w w' : World}
  {first : Except Interruption Int} {vs : List Visit} {x : Except Interruption Tally}
  {drawn : Tally → Except Fault (List String)}

/-- Whether the first block is found or the chain does not tell it, and each job succeeds or fails
for another reason than a request to stop. -/
structure Orderly (first : Except Interruption Int) (vs : List Visit) : Prop where
  /-- Where there is no first block, then a setting is missing or the chain does not tell its
  head. -/
  opening : ∀ i, first = .error i →
    (∃ message, i = .fault (.setting message)) ∨ ∃ f, i = .fault (.stage f) ∧ f.cause = .chain
  /-- A job that does not succeed is refused a setting, or fails at a stage. -/
  jobs : ∀ v ∈ vs, ∀ i, v.outcome = .error i →
    (∃ message, i = .fault (.setting message)) ∨ ∃ f, i = .fault (.stage f) ∧ f.cause ≠ .cancelled

theorem EndedBy.orderly {i : Interruption} (h : EndedBy s first vs i) (orderly : Orderly first vs) :
    (∃ message, i = .fault (.setting message)) ∨
      ∃ f, i = .fault (.stage f) ∧ f.cause ≠ .cancelled := by
  cases h with
  | opening unfound =>
    refine (orderly.opening i unfound).imp_right ?_
    rintro ⟨f, rfl, chain⟩
    exact ⟨f, rfl, by rw [chain]; nofun⟩
  | job last outcome =>
    exact orderly.jobs _ (last ▸ List.mem_append_right _ List.mem_cons_self) i outcome

/-- How the exit status follows from what became of the first block and of the jobs. -/
structure Tells (t : RunTask) (s : Settings) (bound : Nat) (first : Except Interruption Int)
    (vs : List Visit) (ended : Except Interruption ExitStatus) : Prop where
  /-- A setting was missing. -/
  notSet : exitNumber ended = some 2 ↔ ∃ message, EndedBy s first vs (.fault (.setting message))
  /-- A malformed verification ended the run, or the run was done and passed one. -/
  malformed : exitNumber ended = some 3 ↔
    (∃ f, EndedBy s first vs (.fault (.stage f)) ∧
      (Interruption.fault (.stage f)).malformed?.isSome = true) ∨
    t.Completed s vs ∧ ∃ v ∈ vs, v.malformed?.isSome = true
  /-- Another stage ended the run, whatever was passed before. -/
  failed : exitNumber ended = some 1 ↔
    ∃ f, EndedBy s first vs (.fault (.stage f)) ∧ (Interruption.fault (.stage f)).malformed? = none
  /-- The run was done, and each block was verified. -/
  verified : exitNumber ended = some 0 ↔ t.Completed s vs ∧ ∀ v ∈ vs, v.outcome = .ok ()
  /-- Nothing ends the run. -/
  unending : ended = .error .endless ↔ t.Unending s bound first vs
  /-- There is no other end. -/
  answered : ∀ f, ended ≠ .error (.fault f)

namespace Course

/-- Rounds that gave their blocks were orderly. -/
theorem orderly {tally : Tally} (h : t.Course s bound w first vs (.ok tally) w')
    (sound : t.IsSound) : Orderly first vs where
  opening := by
    rintro i rfl
    cases h
  jobs := by
    intro v visited i outcome
    obtain ⟨-, passed, -⟩ := h.of_ok sound
    rcases passed v visited with verified | ⟨malformed, -⟩
    · rw [outcome] at verified
      cases verified
    · rw [malformed?_of_error outcome] at malformed
      rcases i with (message | f | f | ⟨kind, message⟩) | _
      case fault.stage =>
        refine .inr ⟨f, rfl, fun cut => ?_⟩
        rw [Interruption.malformed?, cut] at malformed
        cases malformed
      all_goals cases malformed

/-- Without a request to stop, rounds give their blocks exactly when they are done. -/
theorem eq_ok_iff (h : t.Course s bound w first vs x w') (sound : t.IsSound)
    (enough : ∀ n, t.requested = some n → n < bound) (calm : w'.stopDue = false) (tally : Tally) :
    x = .ok tally ↔ t.Completed s vs ∧ tally = vs.foldl Tally.count .empty := by
  constructor
  · rintro rfl
    obtain ⟨counted, passed, all | ⟨due, -⟩⟩ := h.of_ok sound
    · exact ⟨⟨all, passed⟩, counted⟩
    · rw [calm] at due
      cases due
  · rintro ⟨done, rfl⟩
    exact h.eq_ok_of_completed sound enough done

/-- Which courses lead to a status, without a request to stop. -/
theorem status_iff (h : t.Course s bound w first vs x w') (sound : t.IsSound)
    (drawable : ∀ tally, ∃ lines, drawn tally = .ok lines)
    (enough : ∀ n, t.requested = some n → n < bound) (calm : w'.stopDue = false)
    {status : ExitStatus} :
    endOf drawn x = .ok status ↔
      (∃ message, EndedBy s first vs (.fault (.setting message)) ∧ .notSet = status) ∨
        (∃ f, EndedBy s first vs (.fault (.stage f)) ∧ statusOfStage f = status) ∨
        t.Completed s vs ∧ statusOfTally (vs.foldl Tally.count .empty) = status := by
  rw [endOf_eq_ok_iff]
  simp only [h.eq_fault_iff sound enough, h.eq_ok_iff sound enough calm, drawable, true_and]
  simp only [and_assoc, exists_and_left, exists_eq_left]

/-- A run without a request to stop has no status only if nothing ends it. -/
theorem of_endOf_eq_error (h : t.Course s bound w first vs x w') (sound : t.IsSound)
    (drawable : ∀ tally, ∃ lines, drawn tally = .ok lines)
    (enough : ∀ n, t.requested = some n → n < bound) (orderly : Orderly first vs)
    {i : Interruption} (ended : endOf drawn x = .error i) :
    i = .endless ∧ t.Unending s bound first vs := by
  cases x with
  | error j =>
    rcases h.of_error sound enough with early | ⟨rfl, unending⟩
    · rcases early.orderly orderly with ⟨message, rfl⟩ | ⟨f, rfl, -⟩ <;> cases ended
    · cases ended
      exact ⟨rfl, unending⟩
  | ok tally =>
    obtain ⟨lines, given⟩ := drawable tally
    rw [endOf, given] at ended
    cases ended

/-- The status of a run without a request to stop tells what became of its jobs. -/
theorem tells (h : t.Course s bound w first vs x w') (sound : t.IsSound)
    (drawable : ∀ tally, ∃ lines, drawn tally = .ok lines)
    (enough : ∀ n, t.requested = some n → n < bound) (calm : w'.stopDue = false)
    (orderly : Orderly first vs) : t.Tells s bound first vs (endOf drawn x) := by
  have status : ∀ status : ExitStatus, exitNumber (endOf drawn x) = some status.number ↔ _ :=
    fun _ => exitNumber_eq_iff.trans (h.status_iff sound drawable enough calm)
  have other : ∀ {i}, endOf drawn x = .error i → _ :=
    h.of_endOf_eq_error sound drawable enough orderly
  have uncut : ∀ f, EndedBy s first vs (.fault (.stage f)) → f.cause ≠ .cancelled := by
    intro f early
    rcases early.orderly orderly with ⟨_, other⟩ | ⟨_, same, cause⟩
    · cases other
    · cases same
      exact cause
  exact
    { notSet := (status .notSet).trans (by simp)
      malformed := by
        have counted := fun done : t.Completed s vs => statusOfTally_eq_malformed_iff done.passed
        refine (status .malformed).trans ?_
        simp only [reduceCtorEq, and_false, exists_false, false_or, statusOfStage_eq_malformed_iff]
        exact or_congr_right (and_congr_right fun done => counted done)
      failed := by
        refine (status .failed).trans ?_
        simp only [reduceCtorEq, and_false, exists_false, false_or, or_false,
          statusOfTally_ne_failed, statusOfStage_eq_failed_iff]
        refine exists_congr fun f => and_congr_right fun early => ?_
        exact and_iff_left (uncut f early)
      verified := (status .ok).trans (by simp)
      unending := by
        refine ⟨fun ended => (other ended).2, fun unending => ?_⟩
        rw [h.eq_endless_of_unending sound calm unending]
        rfl
      answered := fun f ended => Interruption.noConfusion (other ended).1 }

end Course

end RunTask

/-- A world in which the variables of the environment hold all that a job needs, and others. -/
def sampleRun (more : List (String × String)) : World :=
  { sampleWorld with
    environment :=
      [("KATLA_ENDPOINT", "http://localhost:8545"), ("PARAMS_PATH", "/params.bin"),
        ("PROVER_HASH", "aa"), ("VERIFIER_HASH", "bb")] ++ more }

theorem exists_begins {w : World} {rest : List String} {t : RunTask}
    (told : readAll RunTask.parameters .initial rest = .ok t)
    (loaded : ((load none none).runIn w).1.toOption.isSome = true) :
    ∃ s w₁, Begins .usual w ("run" :: rest) ⟨.initial, .run, rest⟩ t s w₁ := by
  rcases loads : (load none none).runIn w with ⟨_ | s, w₁⟩
  · rw [loads] at loaded
    cases loaded
  · exact ⟨s, w₁, Invocation.read_run w.files rest, rfl, loads, told⟩

theorem readAll_seven :
    readAll RunTask.parameters .initial ["7"] = .ok { initial with start := some 7 } :=
  readAll_start (by decide) (by decide +kernel)

/-- The status of a run without a request to stop tells what became of its jobs, where the blocks
that were done can be drawn; whether a malformed verification ends it is told by the last of the two
options for that, or else by the settings. -/
theorem commandLine_tells {c : Frontend} (checks : c.ChecksNumbers) (heeds : c.HeedsLast)
    {w w₁ : World} (drawable : c.DrawsSummaries w.environment) {arguments : List String}
    {i : Invocation} {t : RunTask} {s : Settings} (begins : Begins c w arguments i t s w₁)
    (program : String) (bound : Nat) (enough : ∀ n, t.requested = some n → n < bound)
    (calm : ((c.commandLine program bound arguments).runIn w).2.stopDue = false) :
    let rounds := (t.rounds (t.onTopOf s) bound).runIn (takingRequests w₁)
    (∃ a, readArguments (RunTask.parameters.filterMap (·.form)) true i.arguments = .ok a ∧
      (t.onTopOf s).haltOnMalformed = (saidAboutMalformed a).getD s.haltOnMalformed) ∧
      ∃ first vs, t.Course (t.onTopOf s) bound (takingRequests w₁) first vs rounds.1 rounds.2 ∧
        (Orderly first vs → t.Tells (t.onTopOf s) bound first vs
          ((c.commandLine program bound arguments).runIn w).1) := by
  intro rounds
  have sound := checks _ _ begins.told
  obtain ⟨a, read, said⟩ := heeds _ _ begins.told
  obtain ⟨first, vs, course⟩ := t.exists_course (t.onTopOf s) bound (takingRequests w₁)
  obtain ⟨ended, due⟩ := begins.runIn_commandLine sound program bound
  rw [due] at calm
  rw [ended]
  exact ⟨⟨a, read, by rw [onTopOf, said]⟩, first, vs, course,
    course.tells sound drawable enough calm⟩

theorem commandLine_tells_sample :
    let w := sampleRun []
    let ran := (Frontend.usual.commandLine "relay" 3 ["run", "7"]).runIn w
    Frontend.usual.ChecksNumbers ∧ Frontend.usual.HeedsLast ∧
      Frontend.usual.DrawsSummaries w.environment ∧ exitNumber ran.1 = some 0 ∧
      ran.2.stopDue = false ∧
      ∃ i t s w₁, Begins .usual w ["run", "7"] i t s w₁ ∧
        (∀ n, t.requested = some n → n < 3) ∧
        ∃ first vs, Orderly first vs ∧ t.Tells (t.onTopOf s) 3 first vs ran.1 := by
  intro w ran
  have drawable : Frontend.usual.DrawsSummaries w.environment :=
    Frontend.usual_drawsSummaries (by decide +kernel)
  obtain ⟨success, calm⟩ : exitNumber ran.1 = some 0 ∧ ran.2.stopDue = false := by
    have run : ran = _ := runIn_commandLine_run readAll_seven "relay" 3 w
    rw [run]
    decide +kernel
  obtain ⟨s, w₁, begins⟩ := exists_begins readAll_seven (w := w) (by decide +kernel)
  have sound : RunTask.IsSound _ := Frontend.usual_checksNumbers _ _ begins.told
  have enough : ∀ n, RunTask.requested { initial with start := some 7 } = some n → n < 3 := by
    rintro _ ⟨⟩
    decide
  obtain ⟨-, first, vs, course, tells⟩ := commandLine_tells Frontend.usual_checksNumbers
    Frontend.usual_heedsLast drawable begins "relay" 3 enough calm
  have orderly : Orderly first vs := by
    obtain ⟨ended, -⟩ := begins.runIn_commandLine sound "relay" 3
    have succeeded : ran.1 = .ok .ok := exitNumber_eq_iff.mp success
    have ended := ended.symm.trans succeeded
    rw [endOf_eq_ok_iff] at ended
    simp only [reduceCtorEq, and_false, exists_false, false_or, statusOfStage_ne_ok] at ended
    obtain ⟨tally, given, -⟩ := ended
    rw [given] at course
    exact course.orderly sound
  exact ⟨Frontend.usual_checksNumbers, Frontend.usual_heedsLast, drawable, success, calm, _, _, s,
    w₁, begins, enough, first, vs, orderly, tells orderly⟩

/-! ### Runs with a request to stop -/

/-- How a run ends when there may be a request to stop. -/
structure RunTask.Stops (t : RunTask) (s : Settings)
    (drawn : Tally → Except Fault (List String)) (first : Except Interruption Int)
    (vs : List Visit) (due : Bool) (ended : Except Interruption ExitStatus) : Prop where
  /-- After a success each block that was visited is verified, and these are all that were asked for
  unless there was a request to stop. -/
  verified : exitNumber ended = some 0 → (∀ v ∈ vs, v.outcome = .ok ()) ∧
    (t.requested = some (vs.length : Int) ∨
      due = true ∧ ∀ n, t.requested = some n → (vs.length : Int) < n)
  /-- A run that is done has the status for its blocks once they are drawn, whether or not there is
  a request. -/
  done : t.Completed s vs → ∀ lines, drawn (vs.foldl Tally.count .empty) = .ok lines →
    exitNumber ended = some (statusOfTally (vs.foldl Tally.count .empty)).number
  /-- The status of a stopped run is that of a job whose polls were cut short. -/
  cut : exitNumber ended = some 130 ↔
    ∃ f, EndedBy s first vs (.fault (.stage f)) ∧ f.cause = .cancelled
  /-- A run that was stopped between two blocks has the status for the blocks before. -/
  between : ∀ n, t.requested = some n → (vs.length : Int) < n → (∀ v ∈ vs, Passes s v) →
    (∃ b, first = .ok b) → due = true ∧
      ∀ lines, drawn (vs.foldl Tally.count .empty) = .ok lines →
        exitNumber ended = some (statusOfTally (vs.foldl Tally.count .empty)).number

theorem RunTask.Course.stops {t : RunTask} {s : Settings} {bound : Nat} {w w' : World}
    {first : Except Interruption Int} {vs : List Visit} {x : Except Interruption Tally}
    {drawn : Tally → Except Fault (List String)} (h : t.Course s bound w first vs x w')
    (sound : t.IsSound) (enough : ∀ n, t.requested = some n → n < bound) :
    t.Stops s drawn first vs w'.stopDue (endOf drawn x) where
  verified := by
    intro zero
    have success : endOf drawn x = .ok .ok := exitNumber_eq_iff.mp zero
    rw [endOf_eq_ok_iff] at success
    simp only [reduceCtorEq, and_false, exists_false, false_or, statusOfStage_ne_ok] at success
    obtain ⟨tally, rfl, -, verified⟩ := success
    obtain ⟨rfl, -, all⟩ := h.of_ok sound
    exact ⟨statusOfTally_eq_ok_iff.mp verified, all⟩
  done := by
    intro done lines given
    rw [h.eq_ok_of_completed sound enough done, endOf, given]
    rfl
  cut := by
    have status : exitNumber (endOf drawn x) = some ExitStatus.cancelled.number ↔ _ :=
      exitNumber_eq_iff.trans endOf_eq_ok_iff
    refine status.trans ?_
    simp only [h.eq_fault_iff sound enough, reduceCtorEq, and_false, exists_false, false_or,
      or_false, statusOfStage_eq_cancelled_iff, statusOfTally_ne_cancelled]
  between := by
    rintro n asked less passed ⟨b, rfl⟩
    have within := enough n asked
    obtain rfl := h.eq_ok_of_passed rfl passed (by omega)
    refine ⟨?_, ?_⟩
    · obtain ⟨-, -, all | ⟨due, -⟩⟩ := h.of_ok sound
      · rw [asked] at all
        cases all
        omega
      · exact due
    · intro lines given
      rw [endOf, given]
      rfl

/-- A world in which the operator asks to stop while the transaction is looked up, with what is
answered then. -/
def signalledRun (leaf : String) : World :=
  { sampleRun [] with
    tools := ⟨fun _ t c =>
      if c.purpose? = some .tree then ⟨1, [], false, true, .exited 0 leaf ""⟩
      else sampleReply t c, false⟩ }

/-- A run that is stopped in the polls of a job has a status of its own, but one that is stopped
between two blocks ends like one that is done. -/
theorem commandLine_stops {c : Frontend} (checks : c.ChecksNumbers) {w w₁ : World}
    {arguments : List String} {i : Invocation} {t : RunTask} {s : Settings}
    (begins : Begins c w arguments i t s w₁) (program : String) (bound : Nat)
    (enough : ∀ n, t.requested = some n → n < bound) :
    let rounds := (t.rounds (t.onTopOf s) bound).runIn (takingRequests w₁)
    let ran := (c.commandLine program bound arguments).runIn w
    ∃ first vs, t.Course (t.onTopOf s) bound (takingRequests w₁) first vs rounds.1 rounds.2 ∧
      t.Stops (t.onTopOf s) (c.drawn w.environment) first vs ran.2.stopDue ran.1 := by
  intro rounds ran
  have sound := checks _ _ begins.told
  obtain ⟨first, vs, course⟩ := t.exists_course (t.onTopOf s) bound (takingRequests w₁)
  obtain ⟨ended, due⟩ := begins.runIn_commandLine sound program bound
  refine ⟨first, vs, course, ?_⟩
  have stops : t.Stops _ (c.drawn w.environment) first vs _ _ := course.stops sound enough
  rwa [← ended, ← due] at stops

theorem commandLine_stops_sample :
    let w := signalledRun ""
    let ran := (Frontend.usual.commandLine "relay" 3 ["run", "7"]).runIn w
    Frontend.usual.ChecksNumbers ∧ exitNumber ran.1 = some 130 ∧
      ∃ i t s w₁, Begins .usual w ["run", "7"] i t s w₁ ∧
        (∀ n, t.requested = some n → n < 3) ∧
        ∃ first vs, t.Stops (t.onTopOf s) (Frontend.usual.drawn w.environment) first vs
          ran.2.stopDue ran.1 := by
  intro w ran
  have stopped : exitNumber ran.1 = some 130 := by
    have run : ran = _ := runIn_commandLine_run readAll_seven "relay" 3 w
    rw [run]
    decide +kernel
  obtain ⟨s, w₁, begins⟩ := exists_begins readAll_seven (w := w) (by decide +kernel)
  have enough : ∀ n, RunTask.requested { initial with start := some 7 } = some n → n < 3 := by
    rintro _ ⟨⟩
    decide
  obtain ⟨first, vs, -, stops⟩ :=
    commandLine_stops Frontend.usual_checksNumbers begins "relay" 3 enough
  exact ⟨Frontend.usual_checksNumbers, stopped, _, _, s, w₁, begins, enough, first, vs, stops⟩

/-- A run that was asked for two blocks and is stopped after the first one is a success. -/
theorem stopped_run_succeeds :
    let ran := (commandLine "relay" 3 ["run", "--mode", "follow", "--count", "2", "7"]).runIn
      (signalledRun "Leaf: 78")
    (∃ i t s w₁, Begins .usual (signalledRun "Leaf: 78")
        ["run", "--mode", "follow", "--count", "2", "7"] i t s w₁ ∧ t.requested = some 2) ∧
      ran.2.stopDue = true ∧ (ran.2.calls.filter (·.purpose? = some .capture)).length = 1 ∧
      exitNumber ran.1 = some 0 := by
  intro ran
  have told : readAll RunTask.parameters .initial ["--mode", "follow", "--count", "2", "7"] =
      .ok { initial with start := some 7, mode := .follow, limit := some 2 } :=
    readAll_follow (by decide) (by decide +kernel) (by decide +kernel)
  refine ⟨?_, ?_⟩
  · obtain ⟨s, w₁, begins⟩ := exists_begins told (w := signalledRun "Leaf: 78") (by decide +kernel)
    exact ⟨_, _, s, w₁, begins, rfl⟩
  · have run : ran = _ := runIn_commandLine_run told "relay" 3 (signalledRun "Leaf: 78")
    rw [run]
    decide +kernel

end ProofRelay.CommandLine

import ProofRelay.Proofs.Decimal.Reading
import ProofRelay.Proofs.Job.Ledger

/-!
# A run at its plan

A run that has come to the stage of the plan holds a witness that was published: its checksum, its
name and its address are texts with characters, so that nothing is missing in the record, and its
number is short, as it stands in the name of a file.

From there the run is the stage of the plan and what follows it.  The stage gives the plan of the
record, or finds a setting missing and marks the record; nothing after it, and nothing before it,
marks the record with the stage of the plan.  The first question that follows is the submission.

## Main definitions

* `Settings.unsetForPlan?` : the first setting that is missing for a plan.
* `Job.PlanStands` : the records in which the stage of the plan has not failed.
* `upToPlan`, `runFromPlan` : a job up to its plan, and from the submission on.

## Main results

* `Published.checksum_ne_empty`, `Published.address`, `Published.short` : what is known of a
  published witness.
* `Job.Holds.witness_eq_ok` : a record that holds a witness gives it.
* `jobPlan_eq` : the plan of a record that gives its witness.
* `runIn_makePlan_ok`, `runIn_makePlan_unset` : the stage of the plan.
* `takeWitness_keepsPlan`, `runFromPlan_keepsPlan` : the other stages leave no mark for it.
* `runFromPlan_does` : the submission comes first.
* `runJob_eq_upToPlan`, `runIn_runJob_of_upToPlan` : a run that has come to the plan goes on from
  there.
-/

namespace ProofRelay

open Activity ProofRelay.Text Fault

/-! ### The witness in hand -/

/-- A run of characters that is a value has at least one. -/
theorem Checksum.ne_nil_of_valueRun? {s v : List Char} (h : valueRun? s = some v) : v ≠ [] := by
  rw [valueRun?] at h
  split at h
  · cases h
  · next some =>
    cases h
    exact fun none => some none

theorem Checksum.ne_nil_of_ofLine? {line v : List Char} (h : ofLine? line = some v) : v ≠ [] := by
  rw [ofLine?] at h
  obtain ⟨s, -, h⟩ := Option.bind_eq_some_iff.1 h
  split at h
  · exact ne_nil_of_valueRun? h
  · cases h

theorem Checksum.ne_nil_of_ofSentence? {inWord : Bool} {s v : List Char}
    (h : ofSentence? inWord s = some v) : v ≠ [] := by
  induction s generalizing inWord with
  | nil => cases h
  | cons c s ih =>
    rw [ofSentence?] at h
    split at h
    · next here =>
      cases h
      split at here
      · cases here
      · obtain ⟨t, -, here⟩ := Option.bind_eq_some_iff.1 here
        exact ne_nil_of_valueRun? here
    · exact ih h

/-- A checksum is not empty. -/
theorem Checksum.ne_empty_of_read {output checksum : String} (h : read output = .ok checksum) :
    checksum ≠ "" := by
  rw [read] at h
  split at h
  · next v found =>
    cases h
    obtain ⟨line, -, found⟩ := List.exists_of_findSome?_eq_some found
    simpa using ne_nil_of_ofLine? found
  · split at h
    · next found =>
      cases h
      simpa using ne_nil_of_ofSentence? found
    · cases h

/-- The address of a witness is not empty. -/
theorem ne_empty_of_objectUrl {s : StorageSettings} {n : Nat} {url : String}
    (h : s.objectUrl (witnessName n) = .ok url) : url ≠ "" := by
  rw [StorageSettings.objectUrl] at h
  cases base : s.urlBase with
  | error f =>
    rw [base] at h
    cases h
  | ok root =>
    rw [base] at h
    cases h
    obtain ⟨rest, first⟩ : ∃ rest, (witnessName n).toList = 'w' :: rest := by
      rw [witnessName, String.toList_append, String.toList_append]
      exact ⟨_, rfl⟩
    rw [first]
    intro empty
    have chars := congrArg String.toList empty
    rw [String.toList_append, String.toList_ofList] at chars
    exact absurd (List.append_eq_nil_iff.1 chars).2 nofun

theorem Json.given?_str {t : String} (h : t ≠ "") : (Json.str t).given? = some (.str t) := by
  rw [given?, isFalsy, if_neg]
  simpa using h

/-- The witness of a record that holds one without an empty part. -/
theorem Job.Holds.witness_eq_ok {j : Job} {checksum name url : String}
    (holds : j.Holds checksum name url) (hc : checksum ≠ "") (hn : name ≠ "") (hu : url ≠ "") :
    j.witness = .ok ⟨.str checksum, .str name, .str url⟩ := by
  rw [witness, holds.1, holds.2.1, holds.2.2, Json.given?_str hc, Json.given?_str hn,
    Json.given?_str hu]

section Published

variable {s : Settings} {n : Nat} {ds : List Deed} {checksum url : String}

theorem Published.address (h : Published s n ds checksum url) :
    s.storage.objectUrl (witnessName n) = .ok url := by
  cases h
  assumption

theorem Published.checksum_ne_empty (h : Published s n ds checksum url) : checksum ≠ "" := by
  cases h with | intro _ _ _ _ read _ _ =>
  exact Checksum.ne_empty_of_read read

/-- The name of a published witness is the name of a file, so that its number has few digits. -/
theorem Published.short (h : Published s n ds checksum url) :
    (toString n).toList.length ≤ Decimal.digitLimit := by
  cases h with | @intro p _ _ _ _ _ _ _ _ files captured there _ _ _ _ _ =>
  obtain ⟨root, -, place⟩ := exists_root_of_witnessPath captured.path
  have part : witnessName n ∈ p.parts := by
    rw [place, Path.join_of_isName (isName_witnessName n)]
    exact List.mem_append_right _ (List.mem_singleton_self _)
  have small : (witnessName n).utf8ByteSize ≤ FileTree.nameLimit :=
    files.utf8ByteSize_le_of_isFile there _ part (isName_witnessName n).proper.2.2
  rw [witnessName, String.utf8ByteSize_append, String.utf8ByteSize_append] at small
  calc (toString n).toList.length
      ≤ (toString n).utf8ByteSize := length_le_utf8ByteSize _
    _ ≤ FileTree.nameLimit := by omega
    _ ≤ Decimal.digitLimit := by decide

end Published

/-! ### The stage of the plan -/

/-- A plan that was made has passed its check. -/
theorem Witness.check_of_plan_eq_ok {w : Witness} {prover verifier parameters : Json}
    {p : Plan Json} (h : w.plan prover verifier parameters = .ok p) : p.check = .ok () := by
  rw [plan] at h
  cases checked : (w.tasks prover verifier parameters).check with
  | error e =>
    rw [checked] at h
    cases h
  | ok u =>
    rw [checked] at h
    cases h
    exact checked

theorem required_of_isFalsy {v : Json} (h : v.isFalsy = true) (name : String) :
    required v name = .error (.setting (name ++ " is not configured")) := by
  rw [required, Json.given?, if_pos h]

theorem required_of_not_isFalsy {v : Json} (h : v.isFalsy = false) (name : String) :
    required v name = .ok v := by
  rw [required, Json.given?, if_neg (by simp [h])]

/-- The name of the first setting that a plan needs and that is not set, in the order in which a run
asks for them. -/
def Settings.unsetForPlan? (s : Settings) : Option String :=
  if s.proverHash.isFalsy then some "programs.prover_hash (PROVER_HASH)"
  else if s.verifierHash.isFalsy then some "programs.verifier_hash (VERIFIER_HASH)"
  else if s.taskParametersPath.isFalsy then some "witness.params_path (PARAMS_PATH)"
  else none

/-- Nothing is missing for a plan exactly if all three settings are set. -/
theorem Settings.unsetForPlan?_eq_none_iff {s : Settings} : s.unsetForPlan? = none ↔
    s.proverHash.isFalsy = false ∧ s.verifierHash.isFalsy = false ∧
      s.taskParametersPath.isFalsy = false := by
  rw [unsetForPlan?]
  cases s.proverHash.isFalsy <;> cases s.verifierHash.isFalsy <;>
    cases s.taskParametersPath.isFalsy <;> simp

/-- A record that gives its witness has the plan of the witness, unless a setting is missing. -/
theorem jobPlan_eq {s : Settings} {j : Job} {witness : Witness} (held : j.witness = .ok witness) :
    jobPlan s j =
      match s.unsetForPlan? with
      | some name => .error (.setting (name ++ " is not configured"))
      | none => witness.plan s.proverHash s.verifierHash s.taskParametersPath := by
  rw [jobPlan, held, Settings.unsetForPlan?]
  cases prover : s.proverHash.isFalsy with
  | true =>
    rw [required_of_isFalsy prover]
    rfl
  | false =>
    rw [required_of_not_isFalsy prover]
    cases verifier : s.verifierHash.isFalsy with
    | true =>
      rw [required_of_isFalsy verifier]
      rfl
    | false =>
      rw [required_of_not_isFalsy verifier]
      cases parameters : s.taskParametersPath.isFalsy with
      | true =>
        rw [required_of_isFalsy parameters]
        rfl
      | false =>
        rw [required_of_not_isFalsy parameters]
        rfl

section Stage

variable {α : Type} {n : Int} {stage : JobStage} {a : Activity α} {w w' : World}

theorem runIn_inStage_ok {x : α} (h : a.runIn (w.entering n stage) = (.ok x, w')) :
    (inStage n stage a).runIn w = (.ok x, w') :=
  (runIn_bind_ok (runIn_note _ w) _).trans (runIn_onFault_ok h)

/-- A stage that finds a setting missing marks the record. -/
theorem runIn_inStage_setting {message : String}
    (h : a.runIn (w.entering n stage) = (.error (.fault (.setting message)), w')) :
    (inStage n stage a).runIn w =
      (.error (.fault (.setting message)), ((markFailed stage).runIn w').2) :=
  (runIn_bind_ok (runIn_note _ w) _).trans (runIn_onFault_fault h)

end Stage

section MakePlan

variable {s : Settings} {n : Int} {w : World} {j : Job}

theorem runIn_currentJob (job : w.job = some j) : (currentJob n).runIn w = (.ok j, w) := by
  change (Except.ok (w.job.getD _), w) = _
  rw [job, Option.getD_some]

/-- The plan of the job in hand. -/
theorem runIn_makePlan_ok {p : Plan Json} (job : w.job = some j) (plan : jobPlan s j = .ok p) :
    ∃ w', (makePlan s n).runIn w = (.ok p, w') ∧ w'.outside = w.outside ∧
      w'.job = some { j with plan := some p, status := .planned } := by
  have found : (currentJob n).runIn (w.entering n .plan) = (.ok j, w.entering n .plan) :=
    runIn_currentJob job
  have made : (ofExcept (jobPlan s j)).runIn (w.entering n .plan) =
      (.ok p, w.entering n .plan) := by
    rw [plan]
    rfl
  refine ⟨_, runIn_inStage_ok ((runIn_bind_ok found _).trans ((runIn_bind_ok made _).trans rfl)),
    rfl, ?_⟩
  change w.job.map _ = _
  rw [job, Option.map_some]

/-- A plan for which a setting is missing. -/
theorem runIn_makePlan_unset {message : String} (job : w.job = some j)
    (unset : jobPlan s j = .error (.setting message)) :
    ∃ w', (makePlan s n).runIn w = (.error (.fault (.setting message)), w') ∧
      w'.outside = w.outside ∧ w'.job = some (j.marked .plan) := by
  have found : (currentJob n).runIn (w.entering n .plan) = (.ok j, w.entering n .plan) :=
    runIn_currentJob job
  have refused : (ofExcept (jobPlan s j)).runIn (w.entering n .plan) =
      (.error (.fault (.setting message)), w.entering n .plan) := by
    rw [unset]
    rfl
  refine ⟨_, runIn_inStage_setting ((runIn_bind_ok found _).trans (runIn_bind_error refused _)),
    rfl, ?_⟩
  rw [job_markFailed]
  change w.job.map (Job.marked .plan) = _
  rw [job, Option.map_some]

end MakePlan

/-! ### The other stages -/

/-- The records in which the stage of the plan has not failed. -/
def Job.PlanStands (j : Job) : Prop :=
  j.failedStage ≠ some .plan

theorem updateJob_keepsPlan {change : Job → Job}
    (same : ∀ j, (change j).failedStage = j.failedStage) :
    (updateJob change).Keeps Job.PlanStands :=
  .update fun j stands => by rwa [Job.PlanStands, same]

/-- A failure in another stage is no failure of the plan. -/
theorem inStage_keepsPlan {α : Type} {block : Int} {stage : JobStage} {a : Activity α}
    (other : stage ≠ .plan) (h : a.Keeps Job.PlanStands) :
    (inStage block stage a).Keeps Job.PlanStands :=
  inStage_keeps h (.update fun _ _ same => other (Option.some.inj same))

theorem takeWitness_keepsPlan (s : Settings) (n : Int) :
    (takeWitness s n).Keeps Job.PlanStands := by
  rw [takeWitness]
  refine .bind (inStage_keepsPlan (by decide) ?captured) fun p =>
    .bind (inStage_keepsPlan (by decide) ?hashed) fun _ => inStage_keepsPlan (by decide) ?sent
  case captured =>
    exact .bind (captureWitness_keeps s n) fun p =>
      .bind (updateJob_keepsPlan fun _ => rfl) fun _ => .pure _
  case hashed =>
    exact .bind (witnessChecksum_keeps s n) fun checksum => updateJob_keepsPlan fun _ => rfl
  case sent => exact .bind (publish_keeps _ _ _) fun url => updateJob_keepsPlan fun _ => rfl

/-- A job from the submission of its plan on. -/
def runFromPlan (s : Settings) (bound : Nat) (n : Int) (p : Plan Json) : Activity Unit :=
  submitJob s n p >>= fun transaction =>
    awaitVerification s n transaction bound >>= fun result =>
      persistResult s n result.payload >>= finishJob n

theorem runFromPlan_keepsPlan (s : Settings) (bound : Nat) (n : Int) (p : Plan Json) :
    (runFromPlan s bound n p).Keeps Job.PlanStands := by
  refine .bind ?submitted fun transaction => .bind ?awaited fun result =>
    .bind ?filed fun file => ?finished
  case submitted =>
    refine inStage_keepsPlan (by decide) (.bind (submitPlan_keeps s p) fun transaction => ?_)
    exact .bind (updateJob_keepsPlan fun _ => rfl) fun _ => .pure _
  case awaited =>
    refine inStage_keepsPlan (by decide) ?_
    refine .bind (waitForVerdict_keeps s transaction bound) fun result => ?_
    refine .bind (updateJob_keepsPlan fun _ => rfl) fun _ => ?_
    split
    · exact .bind (updateJob_keepsPlan fun _ => rfl) fun _ => .fail _
    · exact .pure _
  case filed =>
    refine inStage_keepsPlan (by decide) (.bind (.ofExcept _) fun q => .bind ?_ fun _ => ?_)
    · refine (writePayload_keeps q result.payload).onFault fun f => ?_
      cases f <;> exact .fail _
    · exact .bind (updateJob_keepsPlan fun _ => rfl) fun _ => .pure _
  case finished =>
    rw [finishJob]
    refine .bind (updateJob_keepsPlan fun _ => rfl) fun _ => ?_
    refine .bind (.bind .get fun w => .pure _) fun j => .bind (.of_quiet quiet_now) fun time => ?_
    exact .bind (.of_quiet (quiet_wholeSeconds _)) fun _ => .log _ _ _

/-- The submission of a plan asks one question. -/
theorem submitPlan_asks (s : Settings) (p : Plan Json) (w : World) :
    (submitPlan s p).Does w fun ds _ _ => ∃ reply, ds = [.call (submitCall s p) reply] := by
  rw [submitPlan]
  refine .note_bind (.runTool_bind (fun reply _ _ _ _ => ⟨reply, rfl⟩)
    fun reply said v _ _ => ?_) rfl
  cases Label.value? transactionLabel said.out with
  | none => exact .fail ⟨reply, rfl⟩
  | some transaction => exact .note_bind (.pure ⟨reply, rfl⟩) rfl

theorem submitJob_asks (s : Settings) (n : Int) (p : Plan Json) (w : World) :
    (submitJob s n p).Does w fun ds _ _ => ∃ reply, ds = [.call (submitCall s p) reply] := by
  refine inStage_does (fun _ _ _ _ _ => id) fun v _ _ => .bind ((submitPlan_asks s p v).mono ?_)
  rintro _ r v₁ ⟨reply, rfl⟩
  cases r with
  | error i => exact ⟨reply, rfl⟩
  | ok transaction => exact .modify_bind (.pure ⟨reply, rfl⟩) rfl

/-- A job from the submission on asks for the submission first. -/
theorem runFromPlan_does (s : Settings) (bound : Nat) (n : Int) (p : Plan Json) (w : World) :
    (runFromPlan s bound n p).Does w fun ds _ _ =>
      ∃ reply more, ds = .call (submitCall s p) reply :: more := by
  refine .bind ((submitJob_asks s n p w).mono ?_)
  rintro _ r w₁ ⟨reply, rfl⟩
  cases r with
  | error i => exact ⟨reply, [], rfl⟩
  | ok transaction =>
    refine ((awaitVerification_does s n transaction bound w₁).andThen fun _ result w₂ _ =>
      (persistResult_does s n result.payload w₂).andThen fun _ q w₃ _ =>
        finishJob_does n q w₃).mono fun ds _ _ _ => ⟨reply, ds, rfl⟩

/-- A job up to its plan. -/
def upToPlan (s : Settings) (mock : Bool) (block : Int) : Activity Unit := do
  if block < 0 then
    fail (.value ("block number must be non-negative, got " ++ toString block))
  startJob block
  if mock then takeMockWitness block else takeWitness s block

/-- A job is what it does up to its plan, the stage of the plan, and what it does behind it. -/
theorem runJob_eq_upToPlan (s : Settings) (mock : Bool) (bound : Nat) (block : Int) :
    runJob s mock bound block = upToPlan s mock block >>= fun _ =>
      makePlan s block >>= runFromPlan s bound block := by
  rw [runJob, upToPlan]
  by_cases negative : block < 0
  · rw [if_pos negative, if_pos negative]
    rfl
  · rw [if_neg negative, if_neg negative]
    cases mock with
    | true =>
      simp only [bind_assoc, if_true]
      rfl
    | false =>
      simp only [bind_assoc, Bool.false_eq_true, if_false]
      rfl

/-- A job that comes to its plan has no negative number. -/
theorem exists_nat_of_upToPlan {s : Settings} {mock : Bool} {block : Int} {w w₁ : World}
    (reached : (upToPlan s mock block).runIn w = (.ok (), w₁)) : ∃ n : Nat, block = n ∧
      (startJob n >>= fun _ => if mock then takeMockWitness n else takeWitness s n).runIn w =
        (.ok (), w₁) := by
  rw [upToPlan] at reached
  by_cases negative : block < 0
  · rw [if_pos negative] at reached
    cases reached
  · rw [if_neg negative] at reached
    obtain ⟨n, rfl⟩ := Int.eq_ofNat_of_zero_le (Int.not_lt.mp negative)
    exact ⟨n, rfl, reached⟩

/-- A run that has come to the plan goes on from there. -/
theorem runIn_runJob_of_upToPlan {s : Settings} {mock : Bool} {block : Int} {w w₁ : World}
    (reached : (upToPlan s mock block).runIn w = (.ok (), w₁)) (bound : Nat) :
    (runJob s mock bound block).runIn w =
      (makePlan s block >>= runFromPlan s bound block).runIn w₁ := by
  rw [runJob_eq_upToPlan, runIn_bind_ok reached]

/-- A run that has come to the plan with a captured witness goes on from there. -/
theorem runIn_runJob_of_reached {s : Settings} {n : Nat} {w w₁ : World}
    (reached : (startJob n >>= fun _ => takeWitness s n).runIn w = (.ok (), w₁)) (bound : Nat) :
    (runJob s false bound n).runIn w = (makePlan s n >>= runFromPlan s bound n).runIn w₁ := by
  refine runIn_runJob_of_upToPlan (Eq.trans ?_ reached) bound
  rw [upToPlan, if_neg (by omega)]
  rfl

end ProofRelay

import ProofRelay.Proofs.Job.Planning

/-!
# The stage of the plan

A run that comes to the stage of the plan, with a witness of its own or the one that stands in for
it, holds a witness whose name, checksum and address are texts with characters: the reader of
checksums takes no empty one, and the address of an object ends in its name.  The record therefore
gives its witness.

The tasks of a witness fit together, as long as the prover's program is a value that equals itself,
as every text does; then the check of a plan has nothing to refuse.  All that is left to go wrong is
a setting that is not set.  The first one that is missing ends the run, before a plan is submitted.

## Main definitions

* `Settings.AreTexts` : settings that are texts or not set.
* `AtPlan` : what is known of a run that has come to the plan.

## Main results

* `exists_holdsWhole_of_upToPlan` : the witness of a run that has come to the plan.
* `Settings.AreTexts.exists_plan` : the plan of a witness passes its check.
* `atPlan_of_upToPlan` : the stage of the plan fails for missing settings only.
-/

namespace ProofRelay

open Activity ProofRelay.Text Fault

/-! ### Texts -/

/-- Settings that are texts, also where half of a surrogate pair stands alone in one, or not set. -/
def Settings.AreTexts (s : Settings) : Prop :=
  ∀ v ∈ s.values, v = .null ∨ ∃ text, v.text? = some text

/-- A text equals itself. -/
theorem Json.same_self_of_text? {v : Json} (text : v = .null ∨ ∃ t, v.text? = some t) :
    v.same v = true := by
  cases v with
  | null => rfl
  | str t => exact (Json.same_str t t).trans (beq_self_eq_true t)
  | torn ps =>
    rw [same, sameAt]
    exact beq_self_eq_true ps
  | _ =>
    rcases text with same | ⟨_, none⟩
    · cases same
    · cases none

/-- The plan of a witness is made, and passes its check. -/
theorem Settings.AreTexts.exists_plan {s : Settings} (texts : s.AreTexts) (witness : Witness) :
    ∃ p, witness.plan s.proverHash s.verifierHash s.taskParametersPath = .ok p ∧
      p.check = .ok () := by
  have prover : s.proverHash.same s.proverHash = true :=
    Json.same_self_of_text? (texts _ (by simp [Settings.values]))
  have made := witness.plan_eq_ok s.proverHash s.verifierHash s.taskParametersPath prover
  exact ⟨_, made, Witness.check_of_plan_eq_ok made⟩

/-! ### The witness -/

/-- A record that holds a witness without an empty part. -/
structure Job.HoldsWhole (j : Job) (checksum name url : String) : Prop where
  /-- The parts are texts. -/
  holds : j.Holds checksum name url
  /-- There is a checksum. -/
  checksum_ne : checksum ≠ ""
  /-- There is a name. -/
  name_ne : name ≠ ""
  /-- There is an address. -/
  url_ne : url ≠ ""

/-- The witness that stands in for a captured one has no empty part. -/
theorem Witness.exists_mock_eq : ∃ checksum name url,
    mock = ⟨.str checksum, .str name, .str url⟩ ∧ checksum ≠ "" ∧ name ≠ "" ∧ url ≠ "" :=
  ⟨_, _, _, rfl, by decide, by decide, by decide⟩

/-- The witness that stands in is in the record, and nothing was asked for it. -/
theorem exists_holdsWhole_of_mock {w w' : World} {j : Job} {ds : List Deed}
    {r : Except Interruption Unit} (job : w.job = some j) (h : mockConduct w ds r w') :
    ds = [] ∧ ∃ j' checksum name url, w'.job = some j' ∧ j'.HoldsWhole checksum name url := by
  obtain ⟨checksum, name, url, same, full⟩ := Witness.exists_mock_eq
  obtain ⟨none, -, job'⟩ := h
  rw [job, same] at job'
  exact ⟨none, _, checksum, name, url, job', ⟨⟨rfl, rfl, rfl⟩, full.1, full.2.1, full.2.2⟩⟩

/-- A witness that was published is in the record, and no plan was submitted. -/
theorem exists_holdsWhole_of_witnessCourse {s : Settings} {n : Nat} {w w' : World} {j : Job}
    {ds : List Deed} (job : w.job = some j) (history : History w.outside ds w'.outside)
    (h : witnessCourse s n w ds (.ok ()) w') :
    (∀ d ∈ ds, d.purpose? ≠ some .submission) ∧
      ∃ j' checksum name url, w'.job = some j' ∧ j'.HoldsWhole checksum name url := by
  obtain ⟨checksum, url, published, j', job', holds⟩ := witnessCourse_published job h
  have opened : Opened s n [.capture, .checksum, .upload] w.outside ds :=
    witnessCourse_opens s n w _ _ _ history h
  refine ⟨fun d there asked => ?unsubmitted, j', checksum, witnessName n, url, job', holds,
    published.checksum_ne_empty, (isName_witnessName n).proper.1,
    ne_empty_of_objectUrl published.address⟩
  case unsubmitted =>
    have action : d ∈ actions ds := List.mem_filter.mpr ⟨there, Deed.isAction_of_purpose? asked⟩
    have purposes : d.purpose? ∈ (actions ds).map Deed.purpose? := List.mem_map_of_mem action
    rw [opened.purposes, asked] at purposes
    simp at purposes

section Reached

variable {s : Settings} {mock : Bool} {block : Int} {w w₁ : World}

/-- A run that has come to the plan holds a witness without an empty part, and has submitted
nothing. -/
theorem exists_holdsWhole_of_upToPlan
    (reached : (upToPlan s mock block).runIn w = (.ok (), w₁)) :
    (∃ before, History w.outside before w₁.outside ∧
        ∀ d ∈ before, d.purpose? ≠ some .submission) ∧
      ∃ j checksum name url, w₁.job = some j ∧ j.HoldsWhole checksum name url := by
  obtain ⟨n, rfl, ran⟩ := exists_nat_of_upToPlan reached
  obtain ⟨v, started, outside, job⟩ : ∃ v, (startJob n).runIn w = (.ok (), v) ∧
      v.outside = w.outside ∧ v.job = some (.start n w.clock) := ⟨_, rfl, rfl, rfl⟩
  rw [runIn_bind_ok started] at ran
  rw [← outside]
  cases mock with
  | true =>
    obtain ⟨before, history, course⟩ := takeMockWitness_does n v
    rw [if_pos rfl] at ran
    rw [ran] at history course
    obtain ⟨rfl, held⟩ := exists_holdsWhole_of_mock job course
    exact ⟨⟨[], history, List.forall_mem_nil _⟩, held⟩
  | false =>
    obtain ⟨before, history, course⟩ := takeWitness_does s n v
    rw [if_neg Bool.false_ne_true] at ran
    rw [ran] at history course
    obtain ⟨unsubmitted, held⟩ := exists_holdsWhole_of_witnessCourse job history course
    exact ⟨⟨before, history, unsubmitted⟩, held⟩

/-! ### The stage -/

/-- What is known of a run that has come to the plan, with a given record. -/
structure AtPlan (s : Settings) (mock : Bool) (bound : Nat) (block : Int) (w w₁ : World) (j : Job) :
    Prop where
  /-- The record gives its witness, of which no part is empty. -/
  witness : ∃ checksum name url, j.HoldsWhole checksum name url ∧
    j.witness = .ok ⟨.str checksum, .str name, .str url⟩
  /-- No plan has been submitted. -/
  unsubmitted : ∃ before, History w.outside before w₁.outside ∧
    ∀ d ∈ before, d.purpose? ≠ some .submission
  /-- The stage gives a plan exactly if the three settings are set. -/
  planned_iff : (∃ p w₂, (makePlan s block).runIn w₁ = (.ok p, w₂)) ↔
    s.proverHash.isFalsy = false ∧ s.verifierHash.isFalsy = false ∧
      s.taskParametersPath.isFalsy = false
  /-- The plan passes its check and is in the record, which is planned; the stage asks nothing
  outside, and the run goes on with the submission. -/
  planned : ∀ p w₂, (makePlan s block).runIn w₁ = (.ok p, w₂) → p.check = .ok () ∧
    w₂.job = some { j with plan := some p, status := .planned } ∧ w₂.outside = w₁.outside ∧
      (runJob s mock bound block).runIn w = (runFromPlan s bound block p).runIn w₂
  /-- Where the stage ends otherwise, it names the first setting that is missing; the record is
  marked, nothing was asked outside, and the run is over. -/
  refused : ∀ i w₂, (makePlan s block).runIn w₁ = (.error i, w₂) →
    ∃ name, s.unsetForPlan? = some name ∧
      i = .fault (.setting (name ++ " is not configured")) ∧ w₂.job = some (j.marked .plan) ∧
        w₂.outside = w₁.outside ∧ (runJob s mock bound block).runIn w = (.error i, w₂)

/-- The stage of the plan fails for missing settings only: in every run that comes to it the record
gives a witness, and the plan of the witness passes its check. -/
theorem atPlan_of_upToPlan (texts : s.AreTexts)
    (reached : (upToPlan s mock block).runIn w = (.ok (), w₁)) (bound : Nat) :
    ∃ j, w₁.job = some j ∧ AtPlan s mock bound block w w₁ j := by
  obtain ⟨before, j, checksum, name, url, job, whole⟩ := exists_holdsWhole_of_upToPlan reached
  have held := whole.holds.witness_eq_ok whole.checksum_ne whole.name_ne whole.url_ne
  obtain ⟨p, made, checked⟩ := texts.exists_plan ⟨.str checksum, .str name, .str url⟩
  have plan := jobPlan_eq (s := s) held
  have goesOn := runIn_runJob_of_upToPlan reached bound
  refine ⟨j, job, ?_⟩
  cases unset : s.unsetForPlan? with
  | none =>
    rw [unset] at plan
    obtain ⟨w₂, run, outside, job₂⟩ := runIn_makePlan_ok (n := block) job (plan.trans made)
    refine ⟨⟨checksum, name, url, whole, held⟩, before, ⟨fun _ => ?set, fun _ => ?stage⟩,
      fun p' w' ran => ?planned, fun i w' ran => ?refused⟩
    case set => exact Settings.unsetForPlan?_eq_none_iff.mp unset
    case stage => exact ⟨p, w₂, run⟩
    case planned =>
      cases run.symm.trans ran
      exact ⟨checked, job₂, outside, goesOn.trans (runIn_bind_ok run _)⟩
    case refused => cases run.symm.trans ran
  | some missing =>
    rw [unset] at plan
    obtain ⟨w₂, run, outside, job₂⟩ := runIn_makePlan_unset (n := block) job plan
    refine ⟨⟨checksum, name, url, whole, held⟩, before, ⟨?set, fun set => ?stage⟩,
      fun p' w' ran => ?planned, fun i w' ran => ?refused⟩
    case set =>
      rintro ⟨p', w', ran⟩
      cases run.symm.trans ran
    case stage =>
      rw [Settings.unsetForPlan?_eq_none_iff.mpr set] at unset
      cases unset
    case planned => cases run.symm.trans ran
    case refused =>
      cases run.symm.trans ran
      exact ⟨missing, unset, rfl, job₂, outside, goesOn.trans (runIn_bind_error run _)⟩

/-! ### A run with its own witness, and one with the other -/

/-- Settings without the verifier's program. -/
def verifierlessSettings : Settings :=
  { sampleSettings with verifierHash := .null }

theorem areTexts_of_isTextual {s : Settings} (texts : s.isTextual = true) : s.AreTexts := by
  intro v there
  have text := Settings.isTextual_of_mem texts there
  cases v with
  | null => exact .inl rfl
  | str t => exact .inr ⟨t, rfl⟩
  | _ => cases text

/-- With all settings a run plans the witness that was published; without the verifier's program a
run with the other witness ends there. -/
theorem atPlan_of_upToPlan_sample :
    sampleSettings.AreTexts ∧ verifierlessSettings.AreTexts ∧ ∃ w₁ w₂ j₁ j₂,
      (upToPlan sampleSettings false 5).runIn sampleWorld = (.ok (), w₁) ∧
      (upToPlan verifierlessSettings true 5).runIn sampleWorld = (.ok (), w₂) ∧
      w₁.job = some j₁ ∧ AtPlan sampleSettings false 1 5 sampleWorld w₁ j₁ ∧
      w₂.job = some j₂ ∧ AtPlan verifierlessSettings true 1 5 sampleWorld w₂ j₂ ∧
      sampleSettings.unsetForPlan? = none ∧
      verifierlessSettings.unsetForPlan? = some "programs.verifier_hash (VERIFIER_HASH)" := by
  have texts : sampleSettings.AreTexts := areTexts_of_isTextual (by decide)
  have texts' : verifierlessSettings.AreTexts := areTexts_of_isTextual (by decide)
  obtain ⟨w₁, reached⟩ : ∃ w₁, (upToPlan sampleSettings false 5).runIn sampleWorld =
      (.ok (), w₁) := by
    refine ⟨_, runIn_eq_of_toOption ?_⟩
    decide +kernel
  obtain ⟨w₂, reached'⟩ : ∃ w₂, (upToPlan verifierlessSettings true 5).runIn sampleWorld =
      (.ok (), w₂) := by
    refine ⟨_, runIn_eq_of_toOption ?_⟩
    decide +kernel
  obtain ⟨j₁, job, planned⟩ := atPlan_of_upToPlan texts reached 1
  obtain ⟨j₂, job', refused⟩ := atPlan_of_upToPlan texts' reached' 1
  exact ⟨texts, texts', w₁, w₂, j₁, j₂, reached, reached', job, planned, job', refused,
    by decide, by decide⟩

end Reached

end ProofRelay

import ProofRelay.Proofs.CommandLine.Result
import ProofRelay.Proofs.Job.Planning

/-!
# Showing a plan

The command that shows a plan makes the one that a run submits.  A run that has come to the plan
holds a witness with the name of its block, the checksum that the network's tool told and the
address of the object; the command is given the checksum and the block, and finds the name and the
address by itself.  Both ask for the same settings then, the run one after the other and the command
all at once, and both make the plan of the same witness.

What the command writes is the document that the run passes to the network's tool, or the same value
with one item on a line, which is read back to the plan.  No control sequence is in it, so that it
comes through whatever the first channel makes of one.

## Main definitions

* `Settings.PlanIsPlain` : settings for plans without numbers.
* `Plan.WrittenAs` : what the command writes of a plan.
* `Previews` : how the command stands to a run.

## Main results

* `jobPlan_cases`, `PlanTask.runIn_perform_unset`, `PlanTask.runIn_perform_set` : the run and the
  command ask for the same settings and make the same plan.
* `plan_previews_run` : the command shows what a run submits.
-/

namespace ProofRelay

open Activity ProofRelay.Text Fault CommandLine

/-- The command for the witness of a block. -/
theorem CommandLine.Frontend.perform_plan {c : Frontend} (values : c.TakesValues)
    {group : GroupTask} {program checksum : String} {s : Settings} {bound n : Nat} {pretty : Bool}
    (short : (toString n).toList.length ≤ Decimal.digitLimit) :
    c.perform ⟨group, .plan, PlanTask.argumentsFor checksum (toString n) pretty⟩ program s bound =
      (⟨checksum, some n, none, none, pretty⟩ : PlanTask).perform s (witnessName n) := by
  have file : witnessFileName n = .ok (witnessName n) := if_neg (by omega)
  have named : (⟨checksum, some n, none, none, pretty⟩ : PlanTask).witnessName =
      .ok (witnessName n) := by
    simp only [PlanTask.witnessName, present, Option.filter, file]
  rw [Frontend.perform]
  dsimp only
  rw [values checksum pretty n short, readThen, named, readThen]

/-! ### The plan -/

/-- Settings for plans without numbers: what stands in a plan are texts, as a setting is meant to
be, or values made of texts.  All settings that are set as texts are of this kind, also when half of
a surrogate pair stands alone in one, and so are those that are not set. -/
structure Settings.PlanIsPlain (s : Settings) : Prop where
  /-- The prover's program. -/
  prover : s.proverHash.IsPlain
  /-- The verifier's program. -/
  verifier : s.verifierHash.IsPlain
  /-- The parameter file as the sandbox sees it. -/
  parameters : s.taskParametersPath.IsPlain

section Plan

variable {s : Settings}

/-- Settings that are texts, or not set, are for plans without numbers. -/
theorem Settings.PlanIsPlain.of_isTextual (texts : s.isTextual = true) : s.PlanIsPlain := by
  have plain : ∀ v : Json, v.isTextual = true → v.IsPlain := by
    intro v text
    cases v with
    | null | str => trivial
    | _ => cases text
  have text : ∀ v ∈ s.values, v.isTextual = true := fun v => Settings.isTextual_of_mem texts
  refine ⟨plain _ (text _ (by simp [Settings.values])),
    plain _ (text _ (by simp [Settings.values])), plain _ (Json.isTextual_orElse ?_ ?_)⟩
  · exact text s.sandboxParametersPath (by simp [Settings.values])
  · exact text s.parametersPath (by simp [Settings.values])

/-- The plan of a witness whose parts are texts is made of plain values, and its tasks fit. -/
theorem Settings.PlanIsPlain.exists_plan (plain : s.PlanIsPlain) (checksum name url : String) :
    ∃ p : Plan Json, p.IsPlain ∧
      (⟨.str checksum, .str name, .str url⟩ : Witness).plan s.proverHash s.verifierHash
        s.taskParametersPath = .ok p ∧ p.check = .ok () := by
  have made := Witness.plan_eq_ok ⟨.str checksum, .str name, .str url⟩ s.proverHash s.verifierHash
    s.taskParametersPath (Json.same_self plain.prover)
  refine ⟨_, ⟨⟨plain.prover, fun a ha => ?_, fun b hb => ?_⟩,
    ⟨plain.verifier, fun a ha => ?_, fun b hb => ?_⟩⟩, made, ?_⟩
  · simp only [Witness.tasks, List.mem_cons, List.not_mem_nil, or_false] at ha
    rcases ha with rfl | rfl | rfl
    · exact ⟨trivial, plain.parameters⟩
    · exact ⟨trivial, trivial⟩
    · exact ⟨trivial, trivial⟩
  · rw [List.mem_singleton.1 hb]
    exact ⟨trivial, trivial, trivial⟩
  · rw [List.mem_singleton.1 ha]
    exact ⟨trivial, trivial⟩
  · rw [List.mem_singleton.1 hb]
    exact ⟨plain.prover, trivial⟩
  · exact Witness.check_of_plan_eq_ok made

/-- The command finds a setting missing exactly if there is a first one. -/
theorem CommandLine.PlanTask.missing_eq_nil_iff :
    PlanTask.missing s = [] ↔ s.unsetForPlan? = none := by
  rw [Settings.unsetForPlan?_eq_none_iff]
  cases prover : s.proverHash.isFalsy <;> cases verifier : s.verifierHash.isFalsy <;>
    cases parameters : s.taskParametersPath.isFalsy <;>
      simp [missing, prover, verifier, parameters]

/-- A run asks for the settings of a plan one after the other, the command for all at once: one
finds a setting missing exactly when the other does. -/
theorem jobPlan_cases {j : Job} {witness : Witness} (held : j.witness = .ok witness) :
    (PlanTask.missing s ≠ [] ∧ ∃ message, jobPlan s j = .error (.setting message)) ∨
      (PlanTask.missing s = [] ∧
        jobPlan s j = witness.plan s.proverHash s.verifierHash s.taskParametersPath) := by
  rw [ne_eq, PlanTask.missing_eq_nil_iff, jobPlan_eq held]
  cases unset : s.unsetForPlan? with
  | some name => exact .inl ⟨nofun, _, rfl⟩
  | none => exact .inr ⟨rfl, rfl⟩

end Plan

namespace CommandLine.PlanTask

variable {s : Settings} {t : PlanTask} {name url : String}

/-- The command without a setting that a plan needs. -/
theorem runIn_perform_unset (address : t.witnessUrl s name = .ok url) (unset : missing s ≠ [])
    (v : World) : ∃ report, (t.perform s name).runIn v = (.ok .notSet, v.note (.err report)) := by
  have given : (ofExcept (.ok url)).runIn v = (.ok url, v) := rfl
  rw [perform, address, runIn_bind_ok given]
  dsimp only
  rw [if_neg (by simpa using unset)]
  exact ⟨_, rfl⟩

/-- The command with all settings that a plan needs. -/
theorem runIn_perform_set {p : Plan Json} {text : String}
    (address : t.witnessUrl s name = .ok url) (set : missing s = [])
    (plan : (⟨.str t.checksum, .str name, .str url⟩ : Witness).plan s.proverHash s.verifierHash
      s.taskParametersPath = .ok p) (shown : t.shown p = .ok text) (v : World) :
    (t.perform s name).runIn v = (.ok .ok, v.note (.out (text ++ "\n"))) := by
  have given : (ofExcept (.ok url)).runIn v = (.ok url, v) := rfl
  have made : (ofExcept (.ok p)).runIn v = (.ok p, v) := rfl
  rw [perform, address, runIn_bind_ok given]
  dsimp only
  rw [if_pos (by simp [set]), plan, runIn_bind_ok made, shown]
  rfl

/-- What is written of a plan: its document, or its value with one item on a line. -/
theorem shown_of_isPlain {p : Plan Json} (plain : p.IsPlain) (t : PlanTask) :
    t.shown p = .ok (if t.pretty then p.toJson.indented else p.document) := by
  rw [shown, Plan.document, Json.read_compact plain.toJson]
  cases t.pretty <;> rfl

/-- No control sequence is in it, so that it is written as it is. -/
theorem pass_of_isPlain {p : Plan Json} (plain : p.IsPlain) (pretty : Bool) (echo : Echo) :
    echo.pass ((if pretty then p.toJson.indented else p.document) ++ "\n") =
      (if pretty then p.toJson.indented else p.document) ++ "\n" := by
  have printable : ¬ Json.IsPrintable Styling.escape := by decide
  refine echo.pass_eq_self fun escaped => ?_
  rw [String.toList_append, List.mem_append] at escaped
  rcases escaped with escaped | escaped
  · cases pretty with
    | true =>
      rcases Json.isLaidOut_of_mem_indented _ plain.toJson _ escaped with h | h
      · exact printable h
      · exact absurd h (by decide)
    | false => exact printable (Json.isPrintable_of_mem_compact _ plain.toJson _ escaped)
  · exact absurd escaped (by decide)

end CommandLine.PlanTask

/-! ### The command and the run -/

/-- What is written of a plan: its document, or a text over several lines that is read to the same
plan as the document. -/
def Plan.WrittenAs (p : Plan Json) : (pretty : Bool) → String → Prop
  | false, text => text = p.document ++ "\n"
  | true, text => text = p.toJson.indented ++ "\n" ∧ Plan.read text = .ok p ∧
      Plan.read p.document = .ok p

/-- How the command, begun in any world, stands to the rest of a run that has come to the plan. -/
structure Previews (s : Settings) (asked : List Deed) (ended : Except Interruption Unit × World)
    (pretty : Bool) (v : World) (shown : Except Interruption ExitStatus × World) : Prop where
  /-- The command finds a setting missing exactly when the run does, in the stage of the plan. -/
  unset : exitNumber shown.1 = some 2 ↔ ∃ message j, ended.1 = .error (.fault (.setting message)) ∧
    ended.2.job = some j ∧ j.failedStage = some .plan
  /-- Otherwise the run goes on with the submission of a plan, and the command writes this plan. -/
  submitted : exitNumber shown.1 ≠ some 2 → ∃ p reply more,
    asked = .call (submitCall s p) reply :: more ∧
      (submitCall s p).arguments =
        [.str "--jsonurl", s.networkUrl, .str "exec", .str "--tasks", .str p.document] ∧
      exitNumber shown.1 = some 0 ∧
      ∃ text, (∀ echo, shown.2.shown echo = v.shown echo ++ text) ∧ p.WrittenAs pretty text
  /-- The command asks nothing outside and changes nothing there. -/
  outside : shown.2.outside = v.outside

section Run

variable {s : Settings} {n : Nat} {checksum url : String} {w₁ : World} {j : Job}

theorem writtenAs_of_isPlain {p : Plan Json} (plain : p.IsPlain) (checked : p.check = .ok ())
    (pretty : Bool) :
    p.WrittenAs pretty ((if pretty then p.toJson.indented else p.document) ++ "\n") := by
  have read : ∀ text, Json.read text = .ok p.toJson → Plan.read text = .ok p := by
    intro text h
    rw [Plan.read_of_toJson h, checked]
    rfl
  cases pretty with
  | false => rfl
  | true =>
    exact ⟨rfl, read _ (Json.read_indented plain.toJson), read _ (Json.read_compact plain.toJson)⟩

/-- The command previews the rest of a run that has come to the plan with a witness in the
record. -/
theorem previews_of_holds (bound : Nat) (plain : s.PlanIsPlain) (job : w₁.job = some j)
    (held : j.witness = .ok ⟨.str checksum, .str (witnessName n), .str url⟩) (stands : j.PlanStands)
    (address : s.storage.objectUrl (witnessName n) = .ok url) :
    ∃ after,
      History w₁.outside after ((makePlan s n >>= runFromPlan s bound n).runIn w₁).2.outside ∧
        ∀ pretty v, Previews s (actions after) ((makePlan s n >>= runFromPlan s bound n).runIn w₁)
          pretty v (((⟨checksum, some n, none, none, pretty⟩ : PlanTask).perform s
            (witnessName n)).runIn v) := by
  rcases jobPlan_cases (s := s) held with ⟨missing, message, unset⟩ | ⟨set, made⟩
  · obtain ⟨w₂, run, outside, job₂⟩ := runIn_makePlan_unset (n := n) job unset
    rw [runIn_bind_error run]
    refine ⟨[], outside, fun pretty v => ?_⟩
    obtain ⟨report, shown⟩ := PlanTask.runIn_perform_unset
      (t := ⟨checksum, some n, none, none, pretty⟩) address missing v
    rw [shown]
    exact ⟨⟨fun _ => ⟨message, _, rfl, job₂, rfl⟩, fun _ => rfl⟩, fun other => absurd rfl other,
      rfl⟩
  · obtain ⟨p, tasks, plan, checked⟩ := plain.exists_plan checksum (witnessName n) url
    obtain ⟨w₂, run, outside, job₂⟩ := runIn_makePlan_ok (n := n) job (made.trans plan)
    obtain ⟨after, history, reply, more, rfl⟩ := runFromPlan_does s bound n p w₂
    obtain ⟨j', job', stands'⟩ := runFromPlan_keepsPlan s bound n p w₂ _ job₂ stands
    rw [runIn_bind_ok run, ← outside]
    refine ⟨_, history, fun pretty v => ?_⟩
    rw [PlanTask.runIn_perform_set (t := ⟨checksum, some n, none, none, pretty⟩) address set plan
      (PlanTask.shown_of_isPlain tasks _) v]
    refine ⟨⟨nofun, ?_⟩, fun _ => ⟨p, reply, actions more, rfl, rfl, rfl, _, fun echo => ?_,
      writtenAs_of_isPlain tasks checked pretty⟩, rfl⟩
    · rintro ⟨message, j, -, job'', failed⟩
      cases job'.symm.trans job''
      exact absurd failed stands'
    · rw [World.shown_note_out, PlanTask.pass_of_isPlain tasks]

/-- The command shows what a run submits.  A run that has come to the plan has a witness with a
checksum that the network's tool told; given this checksum and the block, the command tells a
missing setting exactly when the run ends with one there, and otherwise writes the plan that the run
submits. -/
theorem plan_previews_run {c : Frontend} (values : c.TakesValues) (s : Settings)
    (plain : s.PlanIsPlain) (n bound : Nat) (w w₁ : World)
    (reached : (startJob n >>= fun _ => takeWitness s n).runIn w = (.ok (), w₁)) :
    ∃ before after checksum url, History w.outside before w₁.outside ∧
      History w₁.outside after ((runJob s false bound n).runIn w).2.outside ∧
      Published s n (actions before) checksum url ∧
      ∀ pretty group program b v,
        Previews s (actions after) ((runJob s false bound n).runIn w) pretty v
          ((c.perform ⟨group, .plan, PlanTask.argumentsFor checksum (toString n) pretty⟩ program s
            b).runIn v) := by
  obtain ⟨v, started, outside, job⟩ : ∃ v, (startJob n).runIn w = (.ok (), v) ∧
      v.outside = w.outside ∧ v.job = some (.start n w.clock) := ⟨_, rfl, rfl, rfl⟩
  have ran := reached
  rw [runIn_bind_ok started] at ran
  obtain ⟨before, history, course⟩ := takeWitness_does s n v
  obtain ⟨j, job₁, stands⟩ := takeWitness_keepsPlan s n v _ job nofun
  rw [ran] at history course job₁
  obtain ⟨checksum, url, published, j', job', holds⟩ := witnessCourse_published job course
  cases job₁.symm.trans job'
  have held := holds.witness_eq_ok published.checksum_ne_empty (isName_witnessName n).proper.1
    (ne_empty_of_objectUrl published.address)
  obtain ⟨after, history', previews⟩ :=
    previews_of_holds bound plain job₁ held stands published.address
  rw [runIn_runJob_of_reached reached]
  refine ⟨before, after, checksum, url, outside ▸ history, history', published,
    fun pretty group program b u => ?_⟩
  rw [Frontend.perform_plan values published.short]
  exact previews pretty u

theorem plan_previews_run_sample :
    Frontend.usual.TakesValues ∧ sampleSettings.PlanIsPlain ∧ ∃ w₁,
      (startJob (5 : Nat) >>= fun _ => takeWitness sampleSettings (5 : Nat)).runIn sampleWorld =
        (.ok (), w₁) ∧
      ∃ before after checksum url, History sampleWorld.outside before w₁.outside ∧
        History w₁.outside after
          ((runJob sampleSettings false 1 (5 : Nat)).runIn sampleWorld).2.outside ∧
        Published sampleSettings 5 (actions before) checksum url ∧
        ∀ pretty group program b v,
          Previews sampleSettings (actions after)
            ((runJob sampleSettings false 1 (5 : Nat)).runIn sampleWorld) pretty v
            ((Frontend.usual.perform
              ⟨group, .plan, PlanTask.argumentsFor checksum (toString 5) pretty⟩ program
              sampleSettings b).runIn v) := by
  have plain : sampleSettings.PlanIsPlain := .of_isTextual (by decide)
  obtain ⟨w₁, reached⟩ : ∃ w₁,
      (startJob (5 : Nat) >>= fun _ => takeWitness sampleSettings (5 : Nat)).runIn sampleWorld =
        (.ok (), w₁) := by
    refine ⟨_, runIn_eq_of_toOption ?_⟩
    decide +kernel
  exact ⟨Frontend.usual_takesValues, plain, w₁, reached,
    plan_previews_run Frontend.usual_takesValues sampleSettings plain 5 1 sampleWorld w₁ reached⟩

end Run

end ProofRelay

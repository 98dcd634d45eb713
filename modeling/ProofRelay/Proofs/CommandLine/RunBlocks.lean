import ProofRelay.Proofs.CommandLine.RunStatus

/-!
# The blocks of a run

A run hands one block to a job, or one after the other from a first one on, so that no block is
negative as long as the first one is not.  The first block has one of three sources: the command
line, the settings, or the head of the chain.  Only what the command line says is looked at when it
is read, and there a negative number is a mistake.

A negative first block from one of the two other sources gets as far as a job.  The job refuses it
before anything is done, with a bare fault, and the run ends without a status.

## Main definitions

* `RunTask.Source` : the sources of a first block.
* `RunTask.Numbers` : the blocks that a run hands to its jobs.

## Main results

* `RunTask.Course.source`, `RunTask.Course.le_block` : where the first block of a course comes from,
  and the others.
* `RunTask.Course.refused` : what becomes of a negative first block.
* `commandLine_numbers` : the blocks of all runs of the command line.
-/

namespace ProofRelay.CommandLine

open Activity Settings

namespace RunTask

variable {t : RunTask} {s : Settings} {bound : Nat} {w w' : World} {n : Int} {vs : List Visit}
  {first : Except Interruption Int} {x : Except Interruption Tally}

/-! ### The first block -/

/-- The sources of a first block. -/
inductive Source (t : RunTask) (s : Settings) (w : World) : Int → Prop
  /-- It is given on the command line. -/
  | argument {m : Int} (mode : t.mode ≠ .latest) (given : t.start = some m) : Source t s w m
  /-- It is the one of the settings. -/
  | setting (mode : t.mode ≠ .latest) (absent : t.start = none) : Source t s w s.startBlock
  /-- It is the head of the chain. -/
  | chain {address : Json} {m : Int} (mode : t.mode = .latest)
      (url : s.rpcUrl.given? = some address)
      (told : ChainClient.number ⟨address⟩ (w.chain w.headReads) = .ok m) : Source t s w m

namespace Course

/-- A first block that is found has one of the sources. -/
theorem source (h : t.Course s bound w (.ok n) vs x w') : t.Source s w n := by
  cases h with
  | opened connected opening =>
    cases opening with
    | given mode start =>
      change (t.start <|> some s.startBlock) = some n at start
      cases given : t.start with
      | some m =>
        rw [given] at start
        cases start
        exact .argument mode given
      | none =>
        rw [given] at start
        cases start
        exact .setting mode given
    | read mode chain number =>
      cases connected with
      | unneeded => cases chain
      | @connected address mode url =>
        cases chain
        have unread : (w.note (.provider address ChainClient.standardTimeout)).headReads =
            w.headReads := by
          simp [World.headReads, World.note]
        rw [unread] at number
        exact .chain mode url number

/-- The blocks of a course follow its first one. -/
theorem le_block (h : t.Course s bound w (.ok n) vs x w') : ∀ v ∈ vs, n ≤ v.block := by
  intro v visited
  cases h with
  | opened _ _ conducted =>
    have block : v.block ∈ vs.map Visit.block := List.mem_map_of_mem visited
    rw [conducted.blocks] at block
    obtain ⟨i, -, next⟩ := List.mem_map.mp block
    omega

/-- A negative first block is refused by its job, which has done nothing, and that ends the course.
-/
theorem refused (h : t.Course s bound w (.ok n) vs x w') (negative : n < 0) {v : Visit}
    (visited : v ∈ vs) :
    vs = [v] ∧ v.block = n ∧ v.after = v.before ∧
      x = .error (.fault (.value ("block number must be non-negative, got " ++ toString n))) := by
  cases h with
  | opened _ _ conducted =>
    obtain ⟨u, rest, rfl⟩ := List.exists_cons_of_ne_nil (List.ne_nil_of_mem visited)
    have block : u.block = n := by
      have blocks := congrArg List.head? conducted.blocks
      simpa [List.range_succ_eq_map] using blocks
    -- The job of the first visit meets the block before it does anything.
    have run : (runJob s t.mock bound u.block).runIn u.before = (u.outcome, u.after) :=
      conducted.isOf u List.mem_cons_self
    rw [block, runIn_runJob_of_neg negative] at run
    obtain ⟨outcome, same⟩ := Prod.mk.inj run
    have halts : ∀ r : Rounds, ¬ r.Passes u := by
      rintro r (verified | ⟨malformed, -⟩)
      · rw [← outcome] at verified
        cases verified
      · rw [malformed?_of_error outcome.symm] at malformed
        cases malformed
    cases conducted.ending with
    | stopped all | full all | done all | bounded all =>
      exact absurd (all u List.mem_cons_self) (halts _)
    | @failed us v' i last earlier _ outcome' =>
      cases us with
      | nil =>
        obtain ⟨rfl, rfl⟩ := List.cons.inj last
        obtain rfl := List.mem_singleton.mp visited
        rw [← outcome] at outcome'
        cases outcome'
        exact ⟨rfl, block, same.symm, rfl⟩
      | cons u' us =>
        obtain ⟨rfl, -⟩ := List.cons.inj last
        exact absurd (earlier u List.mem_cons_self) (halts _)

end Course

/-! ### All blocks -/

/-- The blocks that a run hands to its jobs, and how it ends at a negative one. -/
structure Numbers (t : RunTask) (s : Settings) (w : World) (first : Except Interruption Int)
    (vs : List Visit) (ended : Except Interruption ExitStatus) : Prop where
  /-- Without a first block there are no others. -/
  unfound : ∀ i, first = .error i → vs = []
  /-- The first block has one of the three sources. -/
  source : ∀ n, first = .ok n → t.Source s w n
  /-- The others follow it, so that none is negative unless the first one is. -/
  rising : ∀ n, first = .ok n → ∀ v ∈ vs, n ≤ v.block
  /-- A first block from the command line is not negative, and so no block is. -/
  argument : t.mode ≠ .latest → t.start ≠ none → ∀ v ∈ vs, 0 ≤ v.block
  /-- A first block that is negative is the only one; nothing is done for it, and the run ends
  without a status. -/
  refused : ∀ n, first = .ok n → n < 0 → ∀ v ∈ vs, vs = [v] ∧ v.block = n ∧ v.after = v.before ∧
    ended = .error (.fault (.value ("block number must be non-negative, got " ++ toString n)))

theorem Course.numbers (h : t.Course s bound w first vs x w') (sound : t.IsSound)
    (drawn : Tally → Except Fault (List String)) : t.Numbers s w first vs (endOf drawn x) where
  unfound := by
    rintro _ rfl
    cases h <;> rfl
  source := by
    rintro _ rfl
    exact h.source
  rising := by
    rintro _ rfl
    exact h.le_block
  argument := by
    intro mode given v visited
    obtain ⟨m, start⟩ := Option.ne_none_iff_exists'.mp given
    cases first with
    | error i => cases h <;> cases visited
    | ok n =>
      cases h.source with
      | argument _ given => exact Int.le_trans (sound.start n given) (h.le_block v visited)
      | setting _ absent => exact absurd absent given
      | chain latest => exact absurd latest mode
  refused := by
    rintro n rfl negative v visited
    obtain ⟨one, block, same, rfl⟩ := h.refused negative visited
    exact ⟨one, block, same, rfl⟩

end RunTask

/-- The first block of the settings is the one of the document that they are read from. -/
theorem readStart_of_ofFields {fields : Json.Fields} {dir : Path} {s : Settings}
    (h : ofFields fields dir = .ok s) : readStart fields = .ok s.startBlock := by
  rw [ofFields] at h
  iterate 15 obtain ⟨_, -, h⟩ := exists_of_bind_eq_ok h
  obtain ⟨n, start, h⟩ := exists_of_bind_eq_ok h
  obtain rfl := Except.ok.inj h
  exact start

variable {c : Frontend} {w w₁ : World} {arguments : List String} {i : Invocation} {t : RunTask}
  {s : Settings}

/-- The first block of the settings is read from the layers that are loaded. -/
theorem Begins.exists_document (h : Begins c w arguments i t s w₁) :
    ∃ fields, (gather i.group.settingsFile (i.group.workspace.map w.files.resolve)).Finds w
      (.ok fields) ∧ readStart fields = .ok s.startBlock := by
  obtain ⟨lines, -, run⟩ :=
    load_finds i.group.settingsFile (i.group.workspace.map w.files.resolve) w
  have gathered := gather_finds i.group.settingsFile (i.group.workspace.map w.files.resolve) w
  rw [h.loads] at run
  obtain ⟨loaded, -⟩ := Prod.mk.inj run
  cases found : document w i.group.settingsFile (i.group.workspace.map w.files.resolve) with
  | error f =>
    rw [found] at loaded
    cases loaded
  | ok fields =>
    rw [found] at loaded gathered
    refine ⟨fields, gathered, ?_⟩
    cases read : ofFields fields
        ((i.group.workspace.map w.files.resolve).getD (FileTree.pathOf w.files.here)) with
    | error f =>
      change _ = (ofFields fields _).mapError Interruption.fault at loaded
      rw [read] at loaded
      cases loaded
    | ok s' =>
      change _ = (ofFields fields _).mapError Interruption.fault at loaded
      rw [read] at loaded
      cases loaded
      exact readStart_of_ofFields read

/-- The blocks of a run from the command line, whatever the files, the environment, the tools and
the chain are: none is negative when the first one is given on the command line, and otherwise none
is unless the settings or the head of the chain say so. -/
theorem commandLine_numbers (checks : c.ChecksNumbers) (begins : Begins c w arguments i t s w₁)
    (program : String) (bound : Nat) :
    let rounds := (t.rounds (t.onTopOf s) bound).runIn (RunTask.takingRequests w₁)
    (∃ fields, (gather i.group.settingsFile (i.group.workspace.map w.files.resolve)).Finds w
      (.ok fields) ∧ readStart fields = .ok (t.onTopOf s).startBlock) ∧
    ∃ first vs,
      t.Course (t.onTopOf s) bound (RunTask.takingRequests w₁) first vs rounds.1 rounds.2 ∧
        t.Numbers (t.onTopOf s) (RunTask.takingRequests w₁) first vs
          ((c.commandLine program bound arguments).runIn w).1 := by
  intro rounds
  have sound := checks _ _ begins.told
  obtain ⟨first, vs, course⟩ := t.exists_course (t.onTopOf s) bound (RunTask.takingRequests w₁)
  refine ⟨begins.exists_document, first, vs, course, ?_⟩
  rw [(begins.runIn_commandLine sound program bound).1]
  exact course.numbers sound _

theorem commandLine_numbers_sample :
    Frontend.usual.ChecksNumbers ∧
      ∃ i t s w₁, Begins .usual (sampleRun []) ["run", "7"] i t s w₁ ∧
        ∃ first vs, t.Numbers (t.onTopOf s) (RunTask.takingRequests w₁) first vs
          ((Frontend.usual.commandLine "relay" 3 ["run", "7"]).runIn (sampleRun [])).1 ∧
            ∀ v ∈ vs, 0 ≤ v.block := by
  obtain ⟨s, w₁, begins⟩ := exists_begins readAll_seven (w := sampleRun []) (by decide +kernel)
  obtain ⟨-, first, vs, -, numbers⟩ :=
    commandLine_numbers Frontend.usual_checksNumbers begins "relay" 3
  exact ⟨Frontend.usual_checksNumbers, _, _, s, w₁, begins, first, vs, numbers,
    numbers.argument nofun nofun⟩

/-- No arguments. -/
theorem readAll_nil : readAll RunTask.parameters .initial [] = .ok .initial := by
  refine readAll_eq (.help :: RunTask.parameters.dropLast) (a := ⟨[], []⟩) rfl ?_ rfl rfl
  simp [RunTask.parameters, List.mergeSort, List.MergeSort.Internal.splitInTwo, Parameter.rank,
    Parameter.place, Parameter.help, Parameter.switch, Parameter.option, RunTask.startParameter,
    RunTask.haltParameter]

/-- A negative first block in the environment is handed to a job, and the run ends without a
status. -/
theorem negative_start_escapes :
    let w := sampleRun [("BLOCKPROVER_START_BLOCK", "-5")]
    faultOf ((commandLine "relay" 3 ["run"]).runIn w).1 =
      some (.value "block number must be non-negative, got -5") := by
  intro w
  rw [runIn_commandLine_run readAll_nil]
  decide +kernel

end ProofRelay.CommandLine

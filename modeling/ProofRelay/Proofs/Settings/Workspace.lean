import ProofRelay.CommandLine.Run
import ProofRelay.Proofs.Settings.Merge

/-!
# The working directory as the workspace

A command that is told no workspace works in the working directory: relative directories are taken
from there, as they are when the working directory is told as the workspace.  The settings of a
workspace are another matter.  The file with them is looked for only in a workspace that is told, so
that the one in the working directory counts in one case and not in the other.

The two ways to invoke a command therefore find the same settings, faults included, as long as this
file says nothing new: when it is missing or empty, when it holds what the operator's file holds,
and when the variables say something of each option that it changes.

## Main definitions

* `Settings.AddsNothing` : a file of the working directory with nothing beyond the operator's.
* `Settings.IsMasked` : a file of which nothing counts under the variables.

## Main results

* `Settings.ofFields_congr` : settings are a function of the options.
* `Settings.load_here` : what the working directory as the workspace changes.
* `Settings.file_here_unread` : a file in the working directory that is not read.
-/

namespace ProofRelay.Settings

open Json CommandLine

/-! ### Settings as a function of options -/

variable {fields fields' : Fields} {name : String}

/-- What is looked up in a known section is what the document holds there. -/
theorem fieldOf?_area {a : String} (sections : IsSectioned fields) (known : a ∈ areas)
    (name : String) :
    (area fields a).fieldOf? name = .ok ((Place.within ⟨a, name⟩).of? fields) := by
  rw [area, Place.of?]
  cases held : get? a fields with
  | none => rfl
  | some v =>
    obtain ⟨fs, rfl⟩ := sections a known v held
    rfl

/-- Documents that agree on the options give the same settings. -/
theorem ofFields_congr (sections : IsSectioned fields) (sections' : IsSectioned fields')
    (same : ∀ p : Place, p.IsOption → p.of? fields' = p.of? fields) (dir : Path) :
    ofFields fields' dir = ofFields fields dir := by
  have inside : ∀ a ∈ areas, ∀ name,
      (area fields' a).fieldOf? name = (area fields a).fieldOf? name := by
    intro a known name
    rw [fieldOf?_area sections' known, fieldOf?_area sections known, same (.within ⟨a, name⟩) known]
  have chain := inside "chain" (by decide)
  have witness := inside "witness" (by decide)
  have network := inside "network" (by decide)
  have storage := inside "storage" (by decide)
  have programs := inside "programs" (by decide)
  have poll := inside "poll" (by decide)
  have paths := inside "paths" (by decide)
  have beside : ∀ name, name ∉ areas → get? name fields' = get? name fields := fun name =>
    same (.top name)
  have halt := beside "halt_on_malformed" (by decide)
  have start := beside "default_start_block" (by decide)
  simp only [ofFields, readStorage, readPoll, readStart, setting, settingOr, numberOr, chain,
    witness, network, storage, programs, poll, paths, halt, start]

/-! ### Sections under the variables -/

theorem IsSectioned.put (sections : IsSectioned fields) {v : Json}
    (object : name ∈ areas → ∃ fs, v = .obj fs) : IsSectioned (Json.put name v fields) := by
  intro a known u held
  rw [get?_put] at held
  split at held
  · next same =>
    obtain rfl := Option.some.inj held
    exact object (same ▸ known)
  · exact sections a known u held

theorem IsSectioned.assign (sections : IsSectioned fields) {key : SettingKey} {v : Json}
    (h : assign fields key v = .ok fields') : IsSectioned fields' := by
  rw [Settings.assign] at h
  split at h
  · cases h
    exact sections.put fun _ => ⟨_, rfl⟩
  · cases h
  · cases h

theorem IsSectioned.assignAll (sections : IsSectioned fields) {writes : List (SettingKey × Json)}
    (h : assignAll fields writes = .ok fields') : IsSectioned fields' := by
  induction writes generalizing fields with
  | nil =>
    cases h
    exact sections
  | cons e writes ih =>
    rw [Settings.assignAll, List.foldlM_cons] at h
    cases done : Settings.assign fields e.1 e.2 with
    | error f =>
      rw [done] at h
      cases h
    | ok between =>
      rw [done] at h
      exact ih (sections.assign done) h

/-- Under the variables the known sections stay objects. -/
theorem IsSectioned.overlaid {w : World} (sections : IsSectioned fields)
    (h : overlaid w fields = .ok fields') : IsSectioned fields' := by
  rw [Settings.overlaid] at h
  cases done : Settings.assignAll fields (writes w) with
  | error f =>
    rw [done] at h
    cases h
  | ok after =>
    rw [done] at h
    cases h
    have inside := sections.assignAll done
    have halted : IsSectioned (applyHalt w after) := by
      rw [applyHalt]
      split
      · exact inside.put fun known => absurd known (by decide)
      · exact inside
    unfold withStart
    split
    · exact halted.put fun known => absurd known (by decide)
    · exact halted

/-! ### The file of the working directory -/

variable {w : World} {asked : Option Path} {below above : Fields}

/-- Whether the file of the working directory is missing or empty, or holds what the operator's file
holds. -/
def AddsNothing (w : World) (asked : Option Path) : Prop :=
  ∀ file below, operatorFile w asked = .ok file → w.files.layerOf file = .ok below →
    ∃ above, w.files.layerAt (workspaceFile (FileTree.pathOf w.files.here)) = .ok above ∧
      (above = [] ∨ above = below)

/-- Whether each option that an upper layer changes has a variable that is set. -/
def IsMasked (w : World) (below above : Fields) : Prop :=
  ∀ p : Place, p.IsOption →
    (fromVariables w p).isSome = true ∨ fileValue? below above p = fileValue? below [] p

/-- A file with nothing beyond the operator's changes nothing in the document of all layers. -/
theorem document_of_addsNothing (h : AddsNothing w asked) :
    document w asked (some (FileTree.pathOf w.files.here)) = document w asked none := by
  rw [document, document]
  cases known : operatorFile w asked with
  | error f => rfl
  | ok file =>
    change (fileDocument w.files file _ >>= _) = (fileDocument w.files file none >>= _)
    rw [fileDocument, fileDocument]
    cases read : w.files.layerOf file with
    | error f => rfl
    | ok below =>
      obtain ⟨above, upper, new⟩ := h file below known read
      have settled : merge (merge defaultDocument below) above = merge defaultDocument below := by
        rcases new with rfl | rfl
        · exact merge_nil _
        · exact merge_merge (isNamed_layerOf read) _
      have told : w.files.layerOf ((some (FileTree.pathOf w.files.here)).map workspaceFile) =
          .ok above := upper
      rw [told]
      change overlaid w (merge (merge defaultDocument below) above) =
        overlaid w (merge (merge defaultDocument below) [])
      rw [settled, merge_nil]

/-- A document of layers with objects as their known sections has objects there. -/
theorem isSectioned_document {workspace : Option Path} (h : Layers w asked workspace below above)
    (found : document w asked workspace = .ok fields) : IsSectioned fields := by
  obtain ⟨file, known, read⟩ := h.operator
  have sections := (isSectioned_default.merge (isNamed_layerOf read) h.below_sectioned).merge
    (isNamed_layerOf h.workspace) h.above_sectioned
  rw [document, known] at found
  change (fileDocument w.files file workspace >>= fun layers => overlaid w layers.1) = _ at found
  rw [fileDocument, read, h.workspace] at found
  exact sections.overlaid found

/-- The layers without the upper file. -/
theorem Layers.lower {workspace : Option Path} (h : Layers w asked workspace below above) :
    Layers w asked none below [] :=
  ⟨h.operator, rfl, h.below_sectioned, isSectioned_of_forall (by simp)⟩

/-- Of two commands with the same file of the operator, one is told the working directory as its
workspace and the other none.  They find the same settings or the same fault when the file of the
working directory adds nothing, or is masked by the variables.  In any case both take relative paths
from the working directory, and every option is decided by its variables, then by the file of the
working directory for the first command only, and then by the operator's file. -/
theorem load_here {told untold : Invocation} (silent : untold.group.workspace = none)
    (here : told.group.workspace.map w.files.resolve = some (FileTree.pathOf w.files.here))
    (operator : told.group.settingsFile = untold.group.settingsFile) :
    ∃ x y,
      (load untold.group.settingsFile (untold.group.workspace.map w.files.resolve)).Finds w x ∧
      (load told.group.settingsFile (told.group.workspace.map w.files.resolve)).Finds w y ∧
      (AddsNothing w untold.group.settingsFile → x = y) ∧
      ∀ below above,
        Layers w untold.group.settingsFile (some (FileTree.pathOf w.files.here)) below above →
          (IsMasked w below above → x = y) ∧
          ∃ fields fields', x = ofFields fields (FileTree.pathOf w.files.here) ∧
            y = ofFields fields' (FileTree.pathOf w.files.here) ∧
            ∀ p : Place, p.IsOption →
              p.of? fields = (fromVariables w p).or (fileValue? below [] p) ∧
              p.of? fields' = (fromVariables w p).or (fileValue? below above p) := by
  rw [silent, here, operator, Option.map_none]
  refine ⟨_, _, load_finds _ none w, load_finds _ (some _) w, fun nothing => ?_,
    fun below above layers => ?_⟩
  · rw [document_of_addsNothing nothing]
    rfl
  · obtain ⟨fields, found, decided⟩ := document_of_layers layers.lower
    obtain ⟨fields', found', decided'⟩ := document_of_layers layers
    rw [found, found']
    refine ⟨fun masked => (ofFields_congr (isSectioned_document layers.lower found)
      (isSectioned_document layers found') (fun p option => ?_) _).symm,
      fields, fields', rfl, rfl, fun p option => ⟨decided p option, decided' p option⟩⟩
    rw [decided p option, decided' p option]
    rcases masked p option with set | same
    · obtain ⟨v, hv⟩ := Option.isSome_iff_exists.mp set
      rw [hv, Option.some_or, Option.some_or]
    · rw [same]

/-- A world with the working directory `/run`, in which there is a file with settings. -/
def workingWorld (environment : List (String × String)) : World :=
  { sampleWorld with
    files :=
      ⟨[(["run"], .directory FileTree.directoryMode),
        (["run", ".blockprover"], .directory FileTree.directoryMode),
        (["run", ".blockprover", "config.json"],
          .file (Text.Utf8.ofString "\x7b\"chain\": \x7b\"rpc_url\": \"http://w\"\x7d\x7d")
            FileTree.fileMode)], ["run"]⟩
    environment := environment }

/-- A command that is told no workspace. -/
def untoldCommand : Invocation := ⟨.initial, .doctor, []⟩

/-- The command that is told the working directory as its workspace. -/
def toldCommand : Invocation :=
  ⟨{ GroupTask.initial with workspace := some (.ofString ".") }, .doctor, []⟩

/-- The layer of the file in the working directory. -/
def workingLayer : Fields := [("chain", .obj [("rpc_url", .str "http://w")])]

/-- A variable of the only option of the file masks it. -/
theorem isMasked_workingLayer :
    IsMasked (workingWorld [("KATLA_ENDPOINT", "http://k")]) [] workingLayer := by
  intro p option
  by_cases own : p = .within ⟨"chain", "rpc_url"⟩
  · rw [own]
    exact .inl (by decide +kernel)
  · have absent : p.of? workingLayer = none := by
      cases p with
      | top name =>
        have other : "chain" ≠ name := by
          rintro rfl
          exact option (by decide)
        rw [Place.of?, workingLayer, get?, if_neg other, get?]
      | within key =>
        rw [Place.of?, workingLayer, get?]
        split
        · next area =>
          have other : "rpc_url" ≠ key.name := by
            intro name
            exact own (by rw [area, name])
          rw [Option.bind_some, field?, fields?, Option.bind_some, get?, if_neg other, get?]
        · rfl
    have nothing : p.of? [] = none := by cases p <;> rfl
    exact .inr (by rw [fileValue?, fileValue?, absent, nothing])

/-- In the home of the operator the file of the working directory is the operator's, and elsewhere a
variable may mask it. -/
theorem load_here_sample :
    let atHome := workingWorld [("HOME", "/run")]
    let away := workingWorld [("KATLA_ENDPOINT", "http://k")]
    toldCommand.group.workspace.map atHome.files.resolve =
        some (FileTree.pathOf atHome.files.here) ∧
      AddsNothing atHome none ∧
      (∃ x, (load none none).Finds atHome x ∧ (load none (some ⟨"/", ["run"]⟩)).Finds atHome x) ∧
      ((load none none).runIn atHome).1.toOption.map (·.rpcUrl.text?) = some (some "http://w") ∧
      Layers away none (some ⟨"/", ["run"]⟩) [] workingLayer ∧
      ∃ x, (load none none).Finds away x ∧ (load none (some ⟨"/", ["run"]⟩)).Finds away x := by
  intro atHome away
  have nothing : AddsNothing atHome none := by
    have known : operatorFile atHome none =
        .ok (some ⟨"/", ["run", ".blockprover", "config.json"]⟩) := by
      decide +kernel
    intro file below found read
    rw [known] at found
    cases found
    exact ⟨below, read, .inr rfl⟩
  have layers : Layers away none (some ⟨"/", ["run"]⟩) [] workingLayer :=
    ⟨⟨some (.ofString "/root/.blockprover/config.json"), by decide +kernel, by decide +kernel⟩,
      by decide +kernel, isSectioned_of_forall (by simp), isSectioned_of_forall (by decide)⟩
  obtain ⟨x, y, silent, told, same, -⟩ := @load_here atHome toldCommand untoldCommand rfl rfl rfl
  obtain ⟨x', y', silent', told', -, masked⟩ :=
    @load_here away toldCommand untoldCommand rfl rfl rfl
  obtain rfl := same nothing
  obtain rfl := (masked [] workingLayer layers).1 isMasked_workingLayer
  exact ⟨rfl, nothing, ⟨x, silent, told⟩, by decide +kernel, layers, x', silent', told'⟩

/-- A file in the working directory is not read when no workspace is told, although it is read when
the working directory is. -/
theorem file_here_unread :
    let w := workingWorld []
    let address := fun i : Invocation =>
      ((load i.group.settingsFile (i.group.workspace.map w.files.resolve)).runIn w).1.toOption.map
        (·.rpcUrl.text?)
    toldCommand.group.workspace.map w.files.resolve = some (FileTree.pathOf w.files.here) ∧
      address untoldCommand = some none ∧ address toldCommand = some (some "http://w") := by
  decide +kernel

end ProofRelay.Settings

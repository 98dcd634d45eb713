import ProofRelay.Proofs.Job.Schedule
import ProofRelay.Proofs.Plan.Codec

/-!
# What the actions of a job are about

The actions of a job are linked by what they name.  The file that is captured is the one that is
hashed and uploaded; its checksum, its name and the address of the object stand in the plan that is
submitted; the tree is asked for under the transaction that the submission printed, and an output
under the leaf that the tree printed right before it.

Each link is a fact about one stage: the stages in front of the submission leave the witness in the
job in hand, from which the plan is made, and every later call is made from what the call before it
printed.

## Main definitions

* `Json.isTextual`, `Settings.isTextual` : settings that are texts or not set.
* `Provenance`, `Published` : how a witness came to be published.
* `Plan.Carries` : the plans of a published witness.
* `IsPollOf` : what a call after a submission asks for.
* `Linked` : the links of a submission with the actions around it.
* `sampleSettings`, `sampleWorld` : a job that succeeds.

## Main results

* `Polls.isPollOf` : the calls of a wait ask for the transaction and for its leaves.
* `runJob_identity` : the links between the actions of a job.
-/

namespace ProofRelay

open ProofRelay.Text

/-! ### Settings that are texts -/

/-- Whether a value is a text, or nothing. -/
def Json.isTextual : Json → Bool
  | null => true
  | str _ => true
  | _ => false

namespace Settings

/-- The settings that may be values of any kind. -/
def values (s : Settings) : List Json :=
  [s.rpcUrl, s.proverCommand, s.parametersPath, s.witnessRpcUrl, s.sandboxParametersPath,
    s.networkCommand, s.networkUrl, s.networkLogFilter, s.proverHash, s.verifierHash,
    s.storage.endpoint, s.storage.bucket, s.storage.region, s.storage.accessKey,
    s.storage.secretKey, s.storage.access, s.storage.publicUrl, s.witnessDir, s.resultsDir]

/-- Whether all settings are texts or not set. -/
def isTextual (s : Settings) : Bool :=
  s.values.all Json.isTextual

variable {s : Settings}

theorem isTextual_of_mem {v : Json} (texts : s.isTextual = true) (h : v ∈ s.values) :
    v.isTextual = true :=
  List.all_eq_true.1 texts v h

end Settings

/-- What is given is the value itself. -/
theorem Json.eq_of_given? {v u : Json} (h : v.given? = some u) : u = v := by
  rw [given?] at h
  split at h
  · cases h
  · exact (Option.some.inj h).symm

/-- A text that is given is a text. -/
theorem Json.exists_of_given? {v u : Json} (text : v.isTextual = true) (h : v.given? = some u) :
    ∃ t, u = .str t := by
  rw [eq_of_given? h]
  cases v with
  | null => cases h
  | str t => exact ⟨t, rfl⟩
  | _ => cases text

theorem Json.isTextual_orElse {v u : Json} (hv : v.isTextual = true) (hu : u.isTextual = true) :
    (v.orElse u).isTextual = true := by
  rw [orElse]
  cases given : v.given? with
  | none => exact hu
  | some v' =>
    rw [Option.getD_some, eq_of_given? given]
    exact hv

/-! ### Witnesses -/

/-- The name of a block's witness. -/
def witnessName (n : Nat) : String :=
  "witness-" ++ toString n ++ ".json"

/-- How a witness came to be published, by the actions in front of its submission. -/
inductive Provenance (s : Settings) (n : Nat) :
    (mock : Bool) → List Deed → (checksum name url : String) → Prop
  /-- Nothing was done for the mock witness. -/
  | mock {checksum name url} (same : Witness.mock = ⟨.str checksum, .str name, .str url⟩) :
      Provenance s n true [] checksum name url
  /-- One file was captured, hashed and uploaded under its name. -/
  | captured {directory c₁ c₂ u parameters source r₁ r₂ said checksum url} {path : Path}
      (root : s.witnessDir = .str directory)
      (place : path = (s.workdir.join directory).join (witnessName n))
      (capture : c₁.arguments = [.str "witness_capture", .str "-b", .str (toString n), .str "-k",
        parameters, .str "-r", source, .str "-w", .str path.toString])
      (hash : c₂.arguments = [.str "--jsonurl", s.networkUrl, .str "calculate-hash",
        .str "--file", .str path.toString])
      (told : r₂.said? = some said) (read : Checksum.read said.out = .ok checksum)
      (file : u.file = path.toString) (key : u.key = witnessName n)
      (address : s.storage.objectUrl (witnessName n) = .ok url) :
      Provenance s n false [.call c₁ r₁, .call c₂ r₂, .upload u .stored] checksum (witnessName n)
        url

/-- The job in hand has a witness with given parts. -/
def Job.Holds (j : Job) (checksum name url : String) : Prop :=
  j.witnessChecksum = .str checksum ∧ j.witnessName = .str name ∧ j.witnessUrl = .str url

section Single

variable {α : Type} {asks : Deed → Prop} {gives : Deed → α → World → Prop} {ds : List Deed}
  {w : World}

/-- A question that was answered well is the only action. -/
theorem Post.single.actions_of_ok {x : α} (h : single asks gives ds (.ok x) w)
    (action : ∀ d, asks d → d.isAction = true) : ∃ d, actions ds = [d] ∧ gives d x w := by
  cases h with
  | given before asked answer => exact ⟨_, before.actions_concat (action _ asked), answer⟩

/-- A question that failed is the only action, if it was asked. -/
theorem Post.single.actions_of_error {i : Interruption} (h : single asks gives ds (.error i) w)
    (action : ∀ d, asks d → d.isAction = true) :
    actions ds = [] ∨ ∃ d, actions ds = [d] ∧ asks d := by
  cases h with
  | unasked before => exact .inl before.actions_eq_nil
  | failed before asked => exact .inr ⟨_, before.actions_concat (action _ asked), asked⟩

end Single

section Witness

variable {s : Settings} {n : Nat} {ds : List Deed} {w w' : World}

/-- The path of a block's witness, if there is one. -/
theorem exists_root_of_witnessPath {p : Path} (h : witnessPath s n = .ok p) :
    ∃ root, s.witnessRoot = .ok root ∧ p = root.join (witnessName n) := by
  rw [witnessPath, witnessFileName, if_neg (by omega)] at h
  cases found : s.witnessRoot with
  | error f =>
    rw [found] at h
    cases h
  | ok root =>
    rw [found] at h
    cases h
    exact ⟨root, rfl, rfl⟩

/-- The directory of the witnesses, if its setting is a text. -/
theorem exists_of_witnessRoot {root : Path} (texts : s.isTextual = true)
    (h : s.witnessRoot = .ok root) :
    ∃ directory, s.witnessDir = .str directory ∧ root = s.workdir.join directory := by
  have text := Settings.isTextual_of_mem texts (v := s.witnessDir) (by simp [Settings.values])
  rw [Settings.witnessRoot, Path.under] at h
  cases value : s.witnessDir with
  | str directory =>
    rw [value] at h
    cases h
    exact ⟨directory, rfl, rfl⟩
  | null =>
    rw [value] at h
    cases h
  | _ =>
    rw [value] at text
    cases text

theorem isName_witnessName (n : Nat) : Path.IsName (witnessName n) :=
  isName_numbered n (by decide) (by decide) (by decide)

/-- What was asked in front of the plan of a captured witness, whatever kinds of values the settings
are: one file was captured, hashed and uploaded under its name. -/
inductive Published (s : Settings) (n : Nat) : List Deed → (checksum url : String) → Prop
  /-- The path is the one of a file, as the capture left one there. -/
  | intro {p : Path} {d₁ d₂ d₃ : Deed} {r₁ r₂ : ToolReply} {said : ToolOutput}
      {checksum url : String} {files : FileTree} (capture : IsCapture s n p r₁ d₁)
      (there : files.isFile p = true) (hash : IsChecksum s n p r₂ d₂) (told : r₂.said? = some said)
      (read : Checksum.read said.out = .ok checksum)
      (upload : IsUpload s p (witnessName n) .stored d₃)
      (address : s.storage.objectUrl (witnessName n) = .ok url) :
      Published s n [d₁, d₂, d₃] checksum url

/-- The stages of the witness leave the witness in the job in hand that was published. -/
theorem witnessCourse_published {j : Job} (job : w.job = some j)
    (h : witnessCourse s n w ds (.ok ()) w') : ∃ checksum url,
      Published s n (actions ds) checksum url ∧
        ∃ j', w'.job = some j' ∧ j'.Holds checksum (witnessName n) url := by
  cases h with | @went _ _ p w₁ _ _ _ first _ rest =>
  cases rest with | went _ second _ third =>
  obtain ⟨d₁, only₁, ⟨there, job₁⟩, r₁, said₁, captured, -⟩ := first.actions_of_ok fun d hd =>
    Deed.isAction_of_purpose? hd.choose_spec.choose_spec.purpose?
  obtain ⟨d₂, only₂, q, r₂, said₂, checksum, ⟨hashed, told, read⟩, job₂⟩ :=
    second.actions_of_ok fun d hd =>
      Deed.isAction_of_purpose? hd.choose_spec.choose_spec.purpose?
  obtain ⟨d₃, only₃, url, ⟨sent, address⟩, job₃⟩ := third.actions_of_ok fun d hd =>
    Deed.isAction_of_purpose? hd.choose_spec.purpose?
  cases captured.path.symm.trans hashed.path
  obtain ⟨_, root, place⟩ := exists_root_of_witnessPath captured.path
  have name : p.name = witnessName n := by
    rw [place, Path.name_join (isName_witnessName n)]
  rw [name] at address job₁ sent
  refine ⟨checksum, url, ?_, ?_⟩
  · rw [actions_append, actions_append, only₁, only₂, only₃]
    exact .intro captured there hashed told read sent address
  · rw [job₃, job₂, job₁, job]
    exact ⟨_, rfl, rfl, rfl, rfl⟩

/-- The stages of the witness leave a witness in the job in hand that was published as it has to
be. -/
theorem witnessCourse_holds {j : Job} (texts : s.isTextual = true) (job : w.job = some j)
    (h : witnessCourse s n w ds (.ok ()) w') : ∃ checksum name url,
      Provenance s n false (actions ds) checksum name url ∧
        ∃ j', w'.job = some j' ∧ j'.Holds checksum name url := by
  obtain ⟨checksum, url, published, held⟩ := witnessCourse_published job h
  refine ⟨checksum, witnessName n, url, ?_, held⟩
  generalize actions ds = asked at published ⊢
  cases published with | intro captured there hashed told read sent address =>
  obtain ⟨path, parameters, source, -, -, rfl⟩ := captured
  obtain ⟨path', rfl⟩ := hashed
  subst sent
  obtain ⟨_, root, place⟩ := exists_root_of_witnessPath path
  obtain ⟨directory, value, rfl⟩ := exists_of_witnessRoot texts root
  exact .captured value place rfl rfl told read rfl rfl address

/-- The witness that a job holds when its plan is made was published as it has to be. -/
theorem witness_holds {mock : Bool} {j : Job} (texts : s.isTextual = true) (job : w.job = some j)
    (h : (if mock then mockConduct w else witnessCourse s n w) ds (.ok ()) w') :
    ∃ checksum name url, Provenance s n mock (actions ds) checksum name url ∧
      ∃ j', w'.job = some j' ∧ j'.Holds checksum name url := by
  cases mock with
  | true =>
    obtain ⟨rfl, -, job'⟩ := h
    refine ⟨_, _, _, .mock rfl, ?_⟩
    rw [job', job]
    exact ⟨_, rfl, rfl, rfl, rfl⟩
  | false => exact witnessCourse_holds texts job h

end Witness

/-! ### Plans -/

/-- The plans of a published witness: the prover fetches it to the path that its argument names, and
the verifier reads what the prover writes, where the prover's argument says. -/
structure Plan.Carries (p : Plan Json) (checksum name url : String) : Prop where
  /-- The prover's only input. -/
  input : p.prover.inputs = [.fetched (.str checksum) (.str ("/workspace/" ++ name)) (.str url)]
  /-- The prover's argument names the path of the input. -/
  argument : p.prover.value? "-w" = some (.str ("/workspace/" ++ name))
  /-- The verifier's only input. -/
  binding : ∃ proof, p.prover.value? "-p" = some proof ∧
    p.verifier.inputs = [.produced p.prover.program proof]

/-- The tasks of a witness whose parts are texts. -/
def textTasks (checksum name url prover verifier parameters : String) : Plan String where
  prover :=
    { program := prover
      arguments := [⟨parametersFlag, parameters⟩, ⟨proofFlag, proofPath⟩,
        ⟨witnessFlag, sandboxDirectory ++ "/" ++ name⟩]
      inputs := [.fetched checksum (sandboxDirectory ++ "/" ++ name) url] }
  verifier :=
    { program := verifier
      arguments := [⟨proofFlag, proofPath⟩]
      inputs := [.produced prover proofPath] }

section Texts

variable (checksum name url prover verifier parameters : String)

theorem tasks_str :
    (Witness.mk (.str checksum) (.str name) (.str url)).tasks (.str prover) (.str verifier)
      (.str parameters) = (textTasks checksum name url prover verifier parameters).map .str :=
  rfl

theorem carries_textTasks :
    ((textTasks checksum name url prover verifier parameters).map .str).Carries checksum name
      url := by
  refine ⟨rfl, ?_, .str proofPath, ?_, rfl⟩
  · change
      (Task.map .str (textTasks checksum name url prover verifier parameters).prover).value? _ = _
    rw [Task.value?_map_str]
    rfl
  · change
      (Task.map .str (textTasks checksum name url prover verifier parameters).prover).value? _ = _
    rw [Task.value?_map_str]
    rfl

end Texts

/-- A setting that a plan needs is given. -/
theorem given?_of_required {v u : Json} {name : String} (h : required v name = .ok u) :
    v.given? = some u := by
  rw [required] at h
  split at h
  · next given =>
    cases h
    exact given
  · cases h

/-- The witness of a job that holds one. -/
theorem Job.Holds.witness_eq {j : Job} {w : Witness} {checksum name url : String}
    (holds : j.Holds checksum name url) (h : j.witness = .ok w) :
    w = ⟨.str checksum, .str name, .str url⟩ := by
  obtain ⟨hc, hn, hu⟩ := holds
  rw [witness] at h
  split at h
  · next c m u given given' given'' =>
    cases h
    rw [Json.eq_of_given? given, Json.eq_of_given? given', Json.eq_of_given? given'', hc, hn, hu]
  · cases h

/-- The plan of a job that holds a witness carries the witness, and it is read back from its
document. -/
theorem jobPlan_carries {s : Settings} {j : Job} {p : Plan Json} {checksum name url : String}
    (texts : s.isTextual = true) (holds : j.Holds checksum name url) (h : jobPlan s j = .ok p) :
    p.Carries checksum name url ∧ Plan.read p.document = .ok p := by
  have text : ∀ v ∈ s.values, v.isTextual = true := fun v => Settings.isTextual_of_mem texts
  rw [jobPlan] at h
  obtain ⟨w, witness, h⟩ := exists_of_bind_eq_ok h
  obtain ⟨prover, hp, h⟩ := exists_of_bind_eq_ok h
  obtain ⟨verifier, hv, h⟩ := exists_of_bind_eq_ok h
  obtain ⟨parameters, hk, h⟩ := exists_of_bind_eq_ok h
  obtain ⟨prover, rfl⟩ := Json.exists_of_given?
    (text s.proverHash (by simp [Settings.values])) (given?_of_required hp)
  obtain ⟨verifier, rfl⟩ := Json.exists_of_given?
    (text s.verifierHash (by simp [Settings.values])) (given?_of_required hv)
  obtain ⟨parameters, rfl⟩ := Json.exists_of_given?
    (Json.isTextual_orElse (text s.sandboxParametersPath (by simp [Settings.values]))
      (text s.parametersPath (by simp [Settings.values]))) (given?_of_required hk)
  rw [holds.witness_eq witness] at h
  -- The check that made the plan is the one that is made again when its document is read.
  have checked := h
  rw [Witness.plan_eq_ok _ _ _ _ (by simp), tasks_str] at h
  cases h
  refine ⟨carries_textTasks .., ?_⟩
  rw [Plan.read_document]
  exact checked

/-! ### Calls after the submission -/

/-- What a call asks for that follows a submission with a given reply: a tree is asked for under
the transaction that the submission printed, an output under the leaf that the tree printed right
before it. -/
structure IsPollOf (s : Settings) (reply : ToolReply) (between : List Deed) (c : ToolCall) :
    Prop where
  /-- The tree of the transaction. -/
  tree : c.purpose? = some .tree → ∃ said transaction, reply.said? = some said ∧
    Label.value? transactionLabel said.out = some transaction ∧
      c.arguments = [.str "--jsonurl", s.networkUrl, .str "print-tx-tree", .str "--hash",
        .str transaction]
  /-- The output under the leaf of the tree before. -/
  output : c.purpose? = some .output → ∃ earlier c' reply' said leaf,
    between = earlier ++ [.call c' reply'] ∧ c'.purpose? = some .tree ∧
      reply'.said? = some said ∧ Label.value? leafLabel said.out = some leaf ∧
        c.arguments = [.str "--jsonurl", s.networkUrl, .str "get-tx-execution-output",
          .str "--hash", .str leaf]

section Polling

variable {s : Settings} {transaction : String} {reply reply' : ToolReply} {said : ToolOutput}
  {between ds late : List Deed} {c : ToolCall} {r : Except Interruption PollResult}

theorem IsPollOf.append_left (h : IsPollOf s reply between c) (more : List Deed) :
    IsPollOf s reply (more ++ between) c := by
  refine ⟨h.tree, fun output => ?_⟩
  obtain ⟨earlier, c', reply', said, leaf, rfl, found⟩ := h.output output
  exact ⟨more ++ earlier, c', reply', said, leaf, (List.append_assoc ..).symm, found⟩

theorem isPollOf_treeCall (told : reply.said? = some said)
    (found : Label.value? transactionLabel said.out = some transaction) (between : List Deed) :
    IsPollOf s reply between (treeCall s transaction) :=
  ⟨fun _ => ⟨said, transaction, told, found, rfl⟩, by rintro ⟨⟩⟩

theorem isPollOf_outputCall {leaf : String} (told : reply'.said? = some said)
    (found : Label.value? leafLabel said.out = some leaf) :
    IsPollOf s reply [.call (treeCall s transaction) reply'] (outputCall s leaf) :=
  ⟨by rintro ⟨⟩, fun _ => ⟨[], _, reply', said, leaf, rfl, rfl, told, found, rfl⟩⟩

/-- The calls of a poll ask for the transaction and for its leaf. -/
theorem PollOnce.isPollOf (h : PollOnce s transaction ds r) (told : reply.said? = some said)
    (found : Label.value? transactionLabel said.out = some transaction)
    (split : ds = between ++ .call c reply' :: late) : IsPollOf s reply between c := by
  obtain ⟨reply₁, rfl | ⟨said', leaf, reply₂, rfl, told', found'⟩⟩ := h.calls_eq
  · cases between with
    | nil =>
      cases split
      exact isPollOf_treeCall told found []
    | cons d between => simp at split
  · cases between with
    | nil =>
      cases split
      exact isPollOf_treeCall told found []
    | cons d between =>
      cases between with
      | nil =>
        cases split
        exact isPollOf_outputCall told' found'
      | cons d' between => simp at split

/-- The calls of a wait ask for the transaction and for its leaves. -/
theorem Polls.isPollOf (h : Polls s transaction ds r) (told : reply.said? = some said)
    (found : Label.value? transactionLabel said.out = some transaction)
    (split : ds = between ++ .call c reply' :: late) : IsPollOf s reply between c := by
  induction h generalizing between late with
  | unpolled => simp at split
  | failed poll => exact poll.isPollOf told found split
  | settled poll final => exact poll.isPollOf told found split
  | ended poll => exact poll.isPollOf told found split
  | @again ds es _ _ poll pending more ih =>
    -- The call is one of the later polls, or of the first one unless nothing of it is left.
    rcases List.append_eq_append_iff.1 split with ⟨between', rfl, split'⟩ | ⟨rest, rfl, split'⟩
    · exact (ih split').append_left ds
    · cases rest with
      | nil =>
        have first := (@ih [] _ split'.symm).append_left between
        rw [List.append_nil] at first
        exact first
      | cons d rest =>
        cases split'
        exact poll.isPollOf told found rfl

end Polling

/-! ### The whole job -/

/-- The links of a submission with the actions around it: what was published is what the submitted
plan carries, and the calls that follow ask for what was printed. -/
structure Linked (s : Settings) (mock : Bool) (n : Nat) (before : List Deed) (c : ToolCall)
    (reply : ToolReply) (after : List Deed) : Prop where
  /-- The only plan of the call carries the published witness. -/
  plan : ∃ checksum name url document p, Provenance s n mock before checksum name url ∧
    c.arguments = [.str "--jsonurl", s.networkUrl, .str "exec", .str "--tasks", .str document] ∧
      Plan.read document = .ok p ∧ p.Carries checksum name url
  /-- The calls that follow ask for the transaction and for its leaves. -/
  polls : ∀ between c' reply' late, after = between ++ .call c' reply' :: late →
    IsPollOf s reply between c'

section Job

variable {s : Settings} {mock : Bool} {n : Nat} {ds : List Deed} {w w' : World}
  {r : Except Interruption Unit}

/-- From its plan on a job asks nothing, or submits a plan of its witness and polls. -/
theorem planCourse_linked {j : Job} {before : List Deed} {checksum name url : String}
    {r : Except Interruption Path} (texts : s.isTextual = true)
    (published : Provenance s n mock before checksum name url) (job : w.job = some j)
    (holds : j.Holds checksum name url) (h : planCourse s n w ds r w') :
    actions ds = [] ∨ ∃ c reply after, actions ds = .call c reply :: after ∧
      (∀ d ∈ after, d.purpose? = some .tree ∨ d.purpose? = some .output) ∧
        Linked s mock n before c reply after := by
  have planned : ∀ p, jobPlan s j = .ok p → ∃ checksum name url document p',
      Provenance s n mock before checksum name url ∧
        (submitCall s p).arguments =
          [.str "--jsonurl", s.networkUrl, .str "exec", .str "--tasks", .str document] ∧
          Plan.read document = .ok p' ∧ p'.Carries checksum name url := by
    intro p hp
    obtain ⟨carries, read⟩ := jobPlan_carries texts holds hp
    exact ⟨checksum, name, url, p.document, p, published, rfl, read, carries⟩
  rcases h with plan | ⟨-, plan, -, submitted⟩
  · obtain ⟨rfl, -⟩ := plan
    exact .inl rfl
  obtain ⟨rfl, made⟩ := plan
  have made' := planned _ ((made _ rfl).1 j job)
  rw [List.nil_append]
  rcases submitted with submit | ⟨-, submit, -, closing⟩
  · rcases submit.actions_of_error fun d hd =>
      Deed.isAction_of_purpose? hd.choose_spec.purpose? with none | ⟨d, only, reply, asked⟩
    · exact .inl none
    · rw [asked] at only
      exact .inr ⟨_, reply, [], only, by simp, made', by simp⟩
  · obtain ⟨d, only, ⟨reply, said, asked, told, found⟩, -⟩ := submit.actions_of_ok fun d hd =>
      Deed.isAction_of_purpose? hd.choose_spec.purpose?
    obtain ⟨polls, tail, r', rfl, rounds, quiet, -⟩ := closingCourse_parts closing
    rw [asked] at only
    refine .inr ⟨_, reply, polls, ?_, rounds.purpose?, made', ?_⟩
    · rw [actions_append, actions_append, only, rounds.actions_eq, quiet, List.append_nil]
      rfl
    · intro between c' reply' late split
      exact rounds.isPollOf told found split

/-- No action of some purposes has another purpose. -/
theorem ne_purpose?_of_not_mem {k : Purpose} {ks : List Purpose} {es : List Deed}
    (h : es.map Deed.purpose? <+: ks.map some) (other : k ∉ ks) :
    ∀ d ∈ es, d.purpose? ≠ some k := by
  intro d hd purpose
  have there : some k ∈ ks.map some := by
    rw [← purpose]
    exact h.subset (List.mem_map_of_mem hd)
  simp only [List.mem_map, Option.some.injEq, exists_eq_right] at there
  exact other there

/-- A job submits nothing, or it submits one plan that is linked with the actions around it. -/
theorem jobCourse_linked {j : Job} (texts : s.isTextual = true) (job : w.job = some j)
    (hs : History w.outside ds w'.outside) (h : jobCourse s mock n w ds r w') :
    (∀ d ∈ actions ds, d.purpose? ≠ some .submission) ∨
      ∃ before c reply after, actions ds = before ++ .call c reply :: after ∧
        (∀ d ∈ before, d.purpose? ≠ some .submission) ∧
          (∀ d ∈ after, d.purpose? ≠ some .submission) ∧ Linked s mock n before c reply after := by
  have other : Purpose.submission ∉
      (if mock then [] else [.capture, .checksum, .upload] : List Purpose) := by
    cases mock <;> decide
  obtain ⟨r', w₁, outside, h⟩ := exists_stagesCourse h
  rw [outside] at hs
  rcases h with first | ⟨earlier, first, later, second⟩
  · exact .inl (ne_purpose?_of_not_mem (witness_opens s mock n w _ _ _ hs first).purposes other)
  have opened := witness_opens s mock n w _ _ _ earlier first
  have before := ne_purpose?_of_not_mem ⟨[], (List.append_nil _).trans opened.purposes⟩ other
  obtain ⟨checksum, name, url, published, j', job', holds⟩ := witness_holds texts job first
  rcases planCourse_linked texts published job' holds second with none |
    ⟨c, reply, after, found, polls, linked⟩
  · left
    rw [actions_append, none, List.append_nil]
    exact before
  · refine .inr ⟨_, c, reply, after, ?_, before, fun d hd => ?_, linked⟩
    · rw [actions_append, found]
    · rcases polls d hd with purpose | purpose <;> rw [purpose] <;> decide

/-- A list is cut at its only element with a property in one way. -/
theorem eq_of_append_cons {α : Type} {P : α → Prop} {xs ys xs' ys' : List α} {x x' : α}
    (h : xs ++ x :: ys = xs' ++ x' :: ys') (hx : P x) (before : ∀ z ∈ xs', ¬ P z)
    (after : ∀ z ∈ ys', ¬ P z) : xs = xs' ∧ x = x' ∧ ys = ys' := by
  rcases List.append_eq_append_iff.1 h with ⟨rest, rfl, split⟩ | ⟨rest, rfl, split⟩
  · cases rest with
    | nil =>
      cases split
      exact ⟨(List.append_nil xs).symm, rfl, rfl⟩
    | cons z rest =>
      cases split
      exact absurd hx (before _ (by simp))
  · cases rest with
    | nil =>
      cases split
      exact ⟨List.append_nil _, rfl, rfl⟩
    | cons z rest =>
      cases split
      exact absurd hx (after _ (by simp))

/-- The links between the actions of a job with settings that are texts, whatever the tools and the
storage do: wherever a plan is submitted, it carries the witness that was published in front of it
under one path, and every later call asks for what was printed before. -/
theorem runJob_identity (s : Settings) (texts : s.isTextual = true) (mock : Bool) (bound n : Nat)
    (w : World) :
    ∃ ds, History w.outside ds ((runJob s mock bound n).runIn w).2.outside ∧
      ∀ before c reply after, actions ds = before ++ .call c reply :: after →
        c.purpose? = some .submission → Linked s mock n before c reply after := by
  obtain ⟨ds, hs, w₀, outside, job, course⟩ := runJob_does s mock bound n w
  refine ⟨ds, hs, fun before c reply after split submission => ?_⟩
  rw [← outside] at hs
  rcases jobCourse_linked texts job hs course with none |
    ⟨before', c', reply', after', split', first, last, linked⟩
  · exact absurd submission (none (.call c reply) (by simp [split]))
  · obtain ⟨rfl, same, rfl⟩ := eq_of_append_cons (P := fun d => d.purpose? = some .submission)
      (split.symm.trans split') submission first last
    cases same
    exact linked

end Job

/-! ### A job that succeeds -/

/-- Settings with all that a job needs. -/
def sampleSettings : Settings :=
  { Settings.standard ⟨"/", ["run"]⟩ with
    rpcUrl := .str "http://localhost:8545"
    parametersPath := .str "/params.bin"
    proverHash := .str "aa"
    verifierHash := .str "bb" }

/-- The answer of tools that succeed; the capture writes the file that its call names. -/
def sampleReply (t : FileTree) (c : ToolCall) : ToolReply :=
  match c.purpose?, c.arguments with
  | some .capture, [_, _, _, _, _, _, _, .str "-w", .str text] =>
    ⟨1, [(t.target (.ofString text), .file [0x7b, 0x7d] FileTree.fileMode)], false, false,
      .exited 0 "" ""⟩
  | some .checksum, _ => ⟨1, [], false, false, .exited 0 "checksum: c0ffee" ""⟩
  | some .submission, _ => ⟨1, [], false, false, .exited 0 "Tx hash: 77" ""⟩
  | some .tree, _ => ⟨1, [], false, false, .exited 0 "Leaf: 78" ""⟩
  | some .output, _ =>
    ⟨1, [], false, false,
      .exited 0 "[\x7b\"kind\": \"Verification\", \"data\": \"e30=\"\x7d]" ""⟩
  | _, _ => ⟨0, [], false, false, .unknown⟩

/-- A world with tools and a storage that do what they are asked. -/
def sampleWorld : World where
  files := ⟨[(["run"], .directory FileTree.directoryMode)], []⟩
  environment := []
  host := ⟨some "/root", "/bin:/usr/bin"⟩
  denied := ⟨[], []⟩
  clock := 0
  stop := none
  tools := ⟨fun _ t c => sampleReply t c, false⟩
  storage := fun _ _ => .stored
  clientLines := fun _ _ => []
  chain := fun _ => .refused ""
  job := none
  journal := []

theorem runJob_identity_sample :
    sampleSettings.isTextual = true ∧
      ((runJob sampleSettings false 1 (5 : Nat)).runIn sampleWorld).2.calls.map
        ToolCall.purpose? =
          [some .output, some .tree, some .submission, some .checksum, some .capture] ∧
      ∃ ds, History sampleWorld.outside ds
          ((runJob sampleSettings false 1 (5 : Nat)).runIn sampleWorld).2.outside ∧
        ∀ before c reply after, actions ds = before ++ .call c reply :: after →
          c.purpose? = some .submission → Linked sampleSettings false 5 before c reply after :=
  ⟨by decide, by decide +kernel, runJob_identity sampleSettings (by decide) false 1 5 sampleWorld⟩

end ProofRelay

import ProofRelay.Proofs.Job.Stages

/-!
# The order of a job's actions

What a job asks outside is told by the arguments of its calls: the capture program, the hash of a
file, the submission of a plan, the tree of a transaction, the output under a leaf; uploads go to
the storage.  A job begins with the witness, goes on with the submission, and ends with rounds of
polls.  It may be cut short everywhere, but nothing is asked after an action that failed, and
nothing after a payload that is not blank.

## Main definitions

* `Purpose`, `Deed.purpose?` : what an action is for.
* `Schedule` : the actions of a job that is not cut short.
* `Deed.Succeeded` : what a stage needs of its action.
* `AllActions`, `AllButLast` : what holds of all actions where they stand, or of all but the last.

## Main results

* `runJob_schedule` : the order of the actions of a job.
-/

namespace ProofRelay

open ProofRelay.Text

/-! ### Purposes -/

/-- What an action is for. -/
inductive Purpose where
  /-- The witness is captured. -/
  | capture
  /-- It is hashed. -/
  | checksum
  /-- It is uploaded. -/
  | upload
  /-- The plan is submitted. -/
  | submission
  /-- The tree of the transaction is asked for. -/
  | tree
  /-- The output under its leaf is asked for. -/
  | output
  deriving DecidableEq, Repr

/-- What a call is for, by its arguments. -/
def ToolCall.purpose? (c : ToolCall) : Option Purpose :=
  match c.arguments with
  | .str "witness_capture" :: _ => some .capture
  | .str "--jsonurl" :: _ :: .str "calculate-hash" :: _ => some .checksum
  | .str "--jsonurl" :: _ :: .str "exec" :: _ => some .submission
  | .str "--jsonurl" :: _ :: .str "print-tx-tree" :: _ => some .tree
  | .str "--jsonurl" :: _ :: .str "get-tx-execution-output" :: _ => some .output
  | _ => none

/-- What a deed is for, if it asks something. -/
def Deed.purpose? : Deed → Option Purpose
  | call c _ => c.purpose?
  | upload .. => some .upload
  | _ => none

variable {s : Settings} {n : Int} {d : Deed} {k : Purpose}

theorem Deed.isAction_of_purpose? (h : d.purpose? = some k) : d.isAction = true := by
  cases d with
  | call | upload => rfl
  | head | made | wrote | moved => cases h

theorem Deed.isOwnFile_of_purpose? (h : d.purpose? = some k) : d.isOwnFile = false := by
  cases d with
  | call | upload => rfl
  | head | made | wrote | moved => cases h

theorem IsCapture.purpose? {p : Path} {reply : ToolReply} (h : IsCapture s n p reply d) :
    d.purpose? = some .capture := by
  obtain ⟨-, parameters, url, -, -, rfl⟩ := h
  rfl

theorem IsChecksum.purpose? {p : Path} {reply : ToolReply} (h : IsChecksum s n p reply d) :
    d.purpose? = some .checksum := by
  obtain ⟨-, rfl⟩ := h
  rfl

theorem IsUpload.purpose? {p : Path} {key : String} {reply : UploadReply}
    (h : IsUpload s p key reply d) : d.purpose? = some .upload := by
  subst h
  rfl

theorem IsSubmission.purpose? {p : Plan Json} {reply : ToolReply}
    (h : IsSubmission s p reply d) : d.purpose? = some .submission := by
  subst h
  rfl

/-! ### The schedule -/

/-- What a tool printed, however it ended. -/
def ToolReply.printed? (reply : ToolReply) : Option String :=
  match reply.ending with
  | .exited _ out _ => some out
  | _ => none

/-- The leaf that a tool printed. -/
def ToolReply.leaf? (reply : ToolReply) : Option String :=
  reply.printed?.bind (Label.value? leafLabel)

/-- Rounds of polls: an output is asked for exactly when the tree that was printed has a leaf. -/
inductive PollRounds : List Deed → Prop
  /-- No round. -/
  | none : PollRounds []
  /-- A tree without a leaf. -/
  | leafless {c reply ds} (tree : c.purpose? = some .tree) (bare : reply.leaf? = .none)
      (more : PollRounds ds) : PollRounds (.call c reply :: ds)
  /-- A tree with a leaf, and the output under it. -/
  | leaved {c reply c' reply' ds leaf} (tree : c.purpose? = some .tree)
      (found : reply.leaf? = some leaf) (output : c'.purpose? = some .output)
      (more : PollRounds ds) : PollRounds (.call c reply :: .call c' reply' :: ds)

/-- The actions in front of the polls, each of them once. -/
def openingPurposes (mock : Bool) : List Purpose :=
  if mock then [.submission] else [.capture, .checksum, .upload, .submission]

/-- The actions of a job that is not cut short: the witness, unless it is the mock one, the
submission, and rounds of polls. -/
def Schedule (mock : Bool) (ds : List Deed) : Prop :=
  ∃ opening rounds, ds = opening ++ rounds ∧
    opening.map Deed.purpose? = (openingPurposes mock).map some ∧ PollRounds rounds

/-! ### Actions that are followed by others -/

/-- What a stage needs of its action: the tool succeeded and said what was looked for, and where a
file was asked for it is there. -/
def Deed.Succeeded (s : Settings) (n : Int) (o : Outside) : Deed → Prop
  | call c reply => ∃ said, reply.said? = some said ∧
    match c.purpose? with
    | some .capture => ∃ p, witnessPath s n = .ok p ∧ o.files.isFile p = true
    | some .checksum => ∃ checksum, Checksum.read said.out = .ok checksum
    | some .submission => ∃ transaction, Label.value? transactionLabel said.out = some transaction
    | some .output => ∃ payload, Payload.ofOutput said.out = .ok payload
    | _ => True
  | upload u reply => reply = .stored ∧ ∃ url, s.storage.objectUrl u.key = .ok url
  | _ => True

/-- The payload of a reply, if there is one. -/
def ToolReply.payload? (reply : ToolReply) : Option String :=
  reply.said?.bind fun said => (Payload.ofOutput said.out).toOption

/-- Whether the payload of an action, if it is one that has a payload, is blank. -/
def Deed.IsBlank : Deed → Prop
  | call c reply => c.purpose? = some .output →
    ∀ payload, reply.payload? = some payload → trimStart payload.toList = []
  | _ => True

section Actions

variable {P : Outside → Deed → Prop} {o : Outside} {ds es : List Deed}

/-- What holds of all actions, each where it stands. -/
def AllActions (P : Outside → Deed → Prop) : Outside → List Deed → Prop
  | _, [] => True
  | o, d :: ds => (d.isAction = true → P (d.apply o) d) ∧ AllActions P (d.apply o) ds

/-- What holds of all actions that are followed by others, each where it stands. -/
def AllButLast (P : Outside → Deed → Prop) : Outside → List Deed → Prop
  | _, [] => True
  | o, d :: ds =>
    (d.isAction = true → actions ds ≠ [] → P (d.apply o) d) ∧ AllButLast P (d.apply o) ds

theorem AllActions.allButLast (h : AllActions P o ds) : AllButLast P o ds := by
  induction ds generalizing o with
  | nil => trivial
  | cons d ds ih => exact ⟨fun action _ => h.1 action, ih h.2⟩

theorem AllActions.append (h : AllActions P o ds) (h' : AllActions P (o.after ds) es) :
    AllActions P o (ds ++ es) := by
  induction ds generalizing o with
  | nil => exact h'
  | cons d ds ih => exact ⟨h.1, ih h.2 h'⟩

theorem AllActions.append_allButLast (h : AllActions P o ds)
    (h' : AllButLast P (o.after ds) es) : AllButLast P o (ds ++ es) := by
  induction ds generalizing o with
  | nil => exact h'
  | cons d ds ih => exact ⟨fun action _ => h.1 action, ih h.2 h'⟩

theorem allActions_of_actions_eq_nil (h : actions ds = []) (o : Outside) : AllActions P o ds := by
  induction ds generalizing o with
  | nil => trivial
  | cons d ds ih =>
    rw [actions, List.filter_eq_nil_iff] at h
    refine ⟨fun action => absurd action (h d List.mem_cons_self), ih ?_ _⟩
    rw [actions, List.filter_eq_nil_iff]
    exact fun e he => h e (List.mem_cons_of_mem d he)

theorem AllButLast.append (h : AllButLast P o ds) (h' : actions es = []) :
    AllButLast P o (ds ++ es) := by
  induction ds generalizing o with
  | nil => exact (allActions_of_actions_eq_nil h' o).allButLast
  | cons d ds ih =>
    have same : actions (ds ++ es) = actions ds := by
      rw [actions_append, h', List.append_nil]
    exact ⟨fun action later => h.1 action (same ▸ later), ih h.2⟩

/-- Only the last action may be an exception. -/
theorem AllButLast.of_eq_append {before after : List Deed} (h : AllButLast P o ds)
    (split : ds = before ++ d :: after) (action : d.isAction = true) (later : actions after ≠ []) :
    P (o.after (before ++ [d])) d := by
  subst split
  induction before generalizing o with
  | nil => exact h.1 action later
  | cons e before ih => exact ih h.2

end Actions

/-! ### The opening -/

/-- What holds of an action that does not end the job. -/
def Deed.GoesOn (s : Settings) (n : Int) (o : Outside) (d : Deed) : Prop :=
  d.Succeeded s n o ∧ d.IsBlank

/-- Deeds of an opening whose actions have given purposes and went well. -/
structure Opened (s : Settings) (n : Int) (ks : List Purpose) (o : Outside) (ds : List Deed) :
    Prop where
  /-- The actions have these purposes. -/
  purposes : (actions ds).map Deed.purpose? = ks.map some
  /-- They went well. -/
  well : AllActions (Deed.GoesOn s n) o ds
  /-- No file was written. -/
  noFile : ∀ d ∈ ds, d.isOwnFile = false

/-- Deeds of an opening that was cut short: only the last action may have failed. -/
structure CutShort (s : Settings) (n : Int) (ks : List Purpose) (o : Outside) (ds : List Deed) :
    Prop where
  /-- The actions have the first ones of these purposes. -/
  purposes : (actions ds).map Deed.purpose? <+: ks.map some
  /-- All but the last went well. -/
  well : AllButLast (Deed.GoesOn s n) o ds
  /-- No file was written. -/
  noFile : ∀ d ∈ ds, d.isOwnFile = false

section Opening

variable {ks ls : List Purpose} {o : Outside} {ds es : List Deed}

theorem CutShort.nil (ks : List Purpose) (o : Outside) : CutShort s n ks o [] :=
  ⟨List.nil_prefix, trivial, by simp⟩

theorem CutShort.append_purposes (h : CutShort s n ks o ds) (ls : List Purpose) :
    CutShort s n (ks ++ ls) o ds := by
  refine ⟨h.purposes.trans ?_, h.well, h.noFile⟩
  rw [List.map_append]
  exact List.prefix_append _ _

theorem Opened.append (h : Opened s n ks o ds) (h' : Opened s n ls (o.after ds) es) :
    Opened s n (ks ++ ls) o (ds ++ es) := by
  refine ⟨?_, h.well.append h'.well, fun d hd => ?_⟩
  · rw [actions_append, List.map_append, List.map_append, h.purposes, h'.purposes]
  · exact (List.mem_append.1 hd).elim (h.noFile d) (h'.noFile d)

theorem Opened.append_cutShort (h : Opened s n ks o ds) (h' : CutShort s n ls (o.after ds) es) :
    CutShort s n (ks ++ ls) o (ds ++ es) := by
  refine ⟨?_, h.well.append_allButLast h'.well, fun d hd => ?_⟩
  · rw [actions_append, List.map_append, List.map_append, h.purposes]
    exact (List.prefix_append_right_inj _).2 h'.purposes
  · exact (List.mem_append.1 hd).elim (h.noFile d) (h'.noFile d)

/-- Conducts that are an opening with given purposes. -/
def Post.Opens {α : Type} (s : Settings) (n : Int) (w : World) (P : Post α)
    (ks : List Purpose) : Prop :=
  ∀ ds r w', History w.outside ds w'.outside → P ds r w' →
    match r with
    | .ok _ => Opened s n ks w.outside ds
    | .error _ => CutShort s n ks w.outside ds

variable {α β : Type}

theorem Post.Opens.andThen {w : World} {P : Post α} {Q : α → World → Post β}
    (h : P.Opens s n w ks) (h' : ∀ x w₁, (Q x w₁).Opens s n w₁ ls) :
    (P.andThen w Q).Opens s n w (ks ++ ls) := by
  rintro _ _ w' hs (first | ⟨earlier, first, later, second⟩)
  · exact (h _ _ _ hs first).append_purposes ls
  · have opened := h _ _ _ earlier first
    have next := h' _ _ _ _ _ later second
    rw [earlier.eq_after] at next
    split
    · exact opened.append next
    · exact opened.append_cutShort next

theorem OnlyDirectories.actions_eq_nil (h : OnlyDirectories ds) : actions ds = [] :=
  List.filter_eq_nil_iff.2 (h.forall_mem fun _ => Bool.false_ne_true)

/-- A question behind new directories is the only action. -/
theorem OnlyDirectories.actions_concat (h : OnlyDirectories ds) (action : d.isAction = true) :
    actions (ds ++ [d]) = [d] := by
  rw [actions_append, h.actions_eq_nil, actions, List.filter_cons_of_pos action]
  rfl

/-- One question is an opening, if a good answer means that it went well. -/
theorem Post.opens_single {w : World} {asks : Deed → Prop} {gives : Deed → α → World → Prop}
    (asked : ∀ d, asks d → d.purpose? = some k)
    (answered : ∀ d x w', gives d x w' → d.GoesOn s n w'.outside) :
    (Post.single asks gives).Opens s n w [k] := by
  have only : ∀ ds d, OnlyDirectories ds → asks d → actions (ds ++ [d]) = [d] :=
    fun ds d before hd => before.actions_concat (Deed.isAction_of_purpose? (asked d hd))
  intro ds r w' hs single
  have noFile := single.forall_mem (P := fun d => d.isOwnFile = false) (fun _ => rfl)
    fun d hd => Deed.isOwnFile_of_purpose? (asked d hd)
  cases single with
  | unasked before =>
    refine ⟨?_, (allActions_of_actions_eq_nil before.actions_eq_nil _).allButLast, noFile⟩
    rw [before.actions_eq_nil]
    exact List.nil_prefix
  | failed before hd =>
    refine ⟨?_, (allActions_of_actions_eq_nil before.actions_eq_nil _).append_allButLast ?_,
      noFile⟩
    · rw [only _ _ before hd, List.map_singleton, asked _ hd]
      exact List.prefix_rfl
    · exact ⟨fun _ later => absurd rfl later, trivial⟩
  | given before hd answer =>
    refine ⟨?_, (allActions_of_actions_eq_nil before.actions_eq_nil _).append
      ⟨fun _ => ?_, trivial⟩, noFile⟩
    · rw [only _ _ before hd, List.map_singleton, asked _ hd]
      rfl
    · have well := answered _ _ _ answer
      rw [hs.eq_after, Outside.after_append] at well
      exact well

end Opening

theorem isBlank_of_purpose? (h : d.purpose? = some k) (other : k ≠ .output) : d.IsBlank := by
  cases d with
  | call c reply =>
    intro output
    exact absurd (Option.some.inj (h.symm.trans output)) other
  | _ => trivial

theorem captureConduct_opens (s : Settings) (n : Int) (w : World) :
    (captureConduct s n w).Opens s n w [.capture] := by
  refine Post.opens_single (fun d => ?_) fun d p w' => ?_
  · rintro ⟨p, reply, asked⟩
    exact asked.purpose?
  · rintro ⟨⟨there, -⟩, reply, said, asked, told⟩
    refine ⟨?_, isBlank_of_purpose? asked.purpose? (by decide)⟩
    obtain ⟨path, parameters, url, -, -, rfl⟩ := asked
    exact ⟨said, told, p, path, there⟩

theorem checksumConduct_opens (s : Settings) (n : Int) (w : World) :
    (checksumConduct s n w).Opens s n w [.checksum] := by
  refine Post.opens_single (fun d => ?_) fun d _ w' => ?_
  · rintro ⟨p, reply, asked⟩
    exact asked.purpose?
  · rintro ⟨p, reply, said, checksum, ⟨asked, told, read⟩, -⟩
    refine ⟨?_, isBlank_of_purpose? asked.purpose? (by decide)⟩
    obtain ⟨-, rfl⟩ := asked
    exact ⟨said, told, checksum, read⟩

theorem publishConduct_opens (s : Settings) (n : Int) (p : Path) (w : World) :
    (publishConduct s p w).Opens s n w [.upload] := by
  refine Post.opens_single (fun d => ?_) fun d _ w' => ?_
  · rintro ⟨reply, asked⟩
    exact asked.purpose?
  · rintro ⟨url, ⟨asked, address⟩, -⟩
    refine ⟨?_, isBlank_of_purpose? asked.purpose? (by decide)⟩
    subst asked
    exact ⟨rfl, url, address⟩

theorem witnessCourse_opens (s : Settings) (n : Int) (w : World) :
    (witnessCourse s n w).Opens s n w [.capture, .checksum, .upload] :=
  (captureConduct_opens s n w).andThen fun p w₁ =>
    (checksumConduct_opens s n w₁).andThen fun _ w₂ => publishConduct_opens s n p w₂

theorem submitConduct_opens (s : Settings) (n : Int) (p : Plan Json) (w : World) :
    (submitConduct s p w).Opens s n w [.submission] := by
  refine Post.opens_single (fun d => ?_) fun d transaction w' => ?_
  · rintro ⟨reply, asked⟩
    exact asked.purpose?
  · rintro ⟨⟨reply, said, asked, told, found⟩, -⟩
    refine ⟨?_, isBlank_of_purpose? asked.purpose? (by decide)⟩
    subst asked
    exact ⟨said, told, transaction, found⟩

theorem Opened.nil (o : Outside) : Opened s n [] o [] :=
  ⟨rfl, trivial, by simp⟩

/-- The witness's part of a job. -/
theorem witness_opens (s : Settings) (mock : Bool) (n : Int) (w : World) :
    Post.Opens s n w (if mock then mockConduct w else witnessCourse s n w)
      (if mock then [] else [.capture, .checksum, .upload]) := by
  cases mock with
  | false => exact witnessCourse_opens s n w
  | true =>
    rintro _ _ w' _ ⟨rfl, rfl, -⟩
    exact .nil _

theorem planConduct_opens (s : Settings) (n : Int) (w : World) :
    (planConduct s w).Opens s n w [] := by
  rintro _ r w' _ ⟨rfl, -⟩
  cases r with
  | ok p => exact .nil _
  | error i => exact .nil _ _

/-! ### Polls -/

section Polling

variable {transaction : String} {o : Outside} {ds es : List Deed}
  {r : Except Interruption PollResult}

theorem ToolReply.leaf?_of_said? {reply : ToolReply} {said : ToolOutput}
    (h : reply.said? = some said) : reply.leaf? = Label.value? leafLabel said.out := by
  cases ending : reply.ending with
  | exited status out err =>
    have printed : reply.printed? = some out := by rw [printed?, ending]
    rw [said?, ending] at h
    dsimp only at h
    split at h
    · cases h
      rw [leaf?, printed]
      rfl
    · cases h
  | _ =>
    rw [said?, ending] at h
    cases h

theorem ToolReply.payload?_of_said? {reply : ToolReply} {said : ToolOutput}
    (h : reply.said? = some said) :
    reply.payload? = (Payload.ofOutput said.out).toOption := by
  rw [payload?, h]
  rfl

/-- A poll with a result is a whole round. -/
theorem PollOnce.rounds {result : PollResult} (h : PollOnce s transaction ds (.ok result))
    (more : PollRounds es) : PollRounds (ds ++ es) := by
  cases h with
  | leafless told absent => exact .leafless rfl ((ToolReply.leaf?_of_said? told).trans absent) more
  | answered told found _ _ =>
    exact .leaved rfl ((ToolReply.leaf?_of_said? told).trans found) rfl more

/-- A poll is the beginning of a round. -/
theorem PollOnce.exists_rounds (h : PollOnce s transaction ds r) :
    ∃ es, PollRounds (ds ++ es) := by
  cases h with
  | @treeless reply i unsaid =>
    cases leaf : reply.leaf? with
    | none => exact ⟨[], .leafless rfl leaf .none⟩
    | some leaf' =>
      exact ⟨[.call (outputCall s leaf') reply], .leaved rfl leaf rfl .none⟩
  | leafless told absent =>
    exact ⟨[], .leafless rfl ((ToolReply.leaf?_of_said? told).trans absent) .none⟩
  | outputless told found _ =>
    exact ⟨[], .leaved rfl ((ToolReply.leaf?_of_said? told).trans found) rfl .none⟩
  | garbled told found _ _ =>
    exact ⟨[], .leaved rfl ((ToolReply.leaf?_of_said? told).trans found) rfl .none⟩
  | answered told found _ _ =>
    exact ⟨[], .leaved rfl ((ToolReply.leaf?_of_said? told).trans found) rfl .none⟩

theorem goesOn_treeCall {reply : ToolReply} {said : ToolOutput} (told : reply.said? = some said) :
    (Deed.call (treeCall s transaction) reply).GoesOn s n o :=
  ⟨⟨said, told, trivial⟩, isBlank_of_purpose? (k := .tree) rfl (by decide)⟩

/-- All but the last of a poll's calls went well. -/
theorem PollOnce.well (h : PollOnce s transaction ds r) : AllButLast (Deed.GoesOn s n) o ds := by
  cases h with
  | treeless unsaid => exact ⟨fun _ later => absurd rfl later, trivial⟩
  | leafless told absent => exact ⟨fun _ later => absurd rfl later, trivial⟩
  | outputless told found unsaid =>
    exact ⟨fun _ _ => goesOn_treeCall told, fun _ later => absurd rfl later, trivial⟩
  | garbled told found told' bad =>
    exact ⟨fun _ _ => goesOn_treeCall told, fun _ later => absurd rfl later, trivial⟩
  | answered told found told' good =>
    exact ⟨fun _ _ => goesOn_treeCall told, fun _ later => absurd rfl later, trivial⟩

theorem trimStart_of_pending {payload : String} (h : Verdict.ofPayload payload = .pending) :
    trimStart payload.toList = [] := by
  rw [Verdict.ofPayload, Verdict.ofChars] at h
  split at h
  · next blank => exact blank
  · split at h <;> cases h

/-- All calls of a pending poll went well. -/
theorem PollOnce.well_of_pending {result : PollResult}
    (h : PollOnce s transaction ds (.ok result)) (pending : result.verdict = .pending) :
    AllActions (Deed.GoesOn s n) o ds := by
  cases h with
  | leafless told absent => exact ⟨fun _ => goesOn_treeCall told, trivial⟩
  | @answered reply said leaf reply' said' payload told found told' good =>
    refine ⟨fun _ => goesOn_treeCall told, fun _ => ⟨⟨said', told', payload, good⟩, ?_⟩, trivial⟩
    intro _ payload' found'
    rw [ToolReply.payload?_of_said? told', good] at found'
    cases found'
    exact trimStart_of_pending pending

theorem Polls.actions_eq (h : Polls s transaction ds r) : actions ds = ds :=
  List.filter_eq_self.2 (h.forall_mem (fun _ => rfl) fun _ _ => rfl)

theorem Polls.isOwnFile (h : Polls s transaction ds r) : ∀ d ∈ ds, d.isOwnFile = false :=
  h.forall_mem (fun _ => rfl) fun _ _ => rfl

theorem Polls.purpose? (h : Polls s transaction ds r) :
    ∀ d ∈ ds, d.purpose? = some .tree ∨ d.purpose? = some .output :=
  h.forall_mem (fun _ => .inl rfl) fun _ _ => .inr rfl

/-- A wait is the beginning of a row of rounds. -/
theorem Polls.exists_rounds (h : Polls s transaction ds r) : ∃ es, PollRounds (ds ++ es) := by
  induction h with
  | unpolled => exact ⟨[], .none⟩
  | failed poll => exact poll.exists_rounds
  | settled poll final => exact poll.exists_rounds
  | ended poll => exact poll.exists_rounds
  | again poll pending more ih =>
    obtain ⟨es, rounds⟩ := ih
    refine ⟨es, ?_⟩
    rw [List.append_assoc]
    exact poll.rounds rounds

/-- All but the last of a wait's calls went well. -/
theorem Polls.well (h : Polls s transaction ds r) : AllButLast (Deed.GoesOn s n) o ds := by
  induction h generalizing o with
  | unpolled => trivial
  | failed poll => exact poll.well
  | settled poll final => exact poll.well
  | ended poll => exact poll.well
  | again poll pending more ih => exact (poll.well_of_pending pending).append_allButLast ih

/-- The last payload of a wait with a result is the one of the result. -/
theorem Polls.exists_last {result : PollResult} (h : Polls s transaction ds (.ok result)) :
    ∃ before leaf reply, ds = before ++ [.call (outputCall s leaf) reply] ∧
      reply.payload? = some result.payload ∧
        result.verdict = Verdict.ofPayload result.payload := by
  generalize hr : (Except.ok result : Except Interruption PollResult) = r at h
  induction h with
  | unpolled | failed | ended => cases hr
  | settled poll final =>
    cases hr
    cases poll with
    | leafless told absent => cases final
    | @answered reply said leaf reply' said' payload told found told' good =>
      refine ⟨[.call (treeCall s transaction) reply], leaf, reply', rfl, ?_, rfl⟩
      rw [ToolReply.payload?_of_said? told', good]
      rfl
  | @again ds es _ _ poll pending more ih =>
    obtain ⟨before, leaf, reply, split, payload, verdict⟩ := ih hr
    refine ⟨ds ++ before, leaf, reply, ?_, payload, verdict⟩
    rw [split, List.append_assoc]

end Polling

/-! ### The whole job -/

section Job

variable {mock : Bool} {transaction : String} {w w' : World} {ds : List Deed}
  {r : Except Interruption Unit}

theorem Writing.actions_eq_nil {p : Path} {bytes : List UInt8} {r : Except Interruption Unit}
    (h : Writing p bytes w ds r w') : actions ds = [] := by
  cases h with
  | unwritten before => exact before.actions_eq_nil
  | beside before => rw [actions_append, before.actions_eq_nil]; rfl
  | placed before there gone job => rw [actions_append, before.actions_eq_nil]; rfl

theorem Persisting.actions_eq_nil {payload : String} {r : Except Interruption Path}
    (h : Persisting s n payload w ds r w') : actions ds = [] := by
  cases h with
  | nowhere => rfl
  | failed path writing => exact writing.actions_eq_nil
  | filed path writing same job => exact writing.actions_eq_nil

/-- From the wait on a job polls and asks nothing more; a file is written after a verified payload
only. -/
theorem closingCourse_parts {r : Except Interruption Path}
    (h : closingCourse s n transaction w ds r w') :
    ∃ polls tail r', ds = polls ++ tail ∧ Polls s transaction polls r' ∧ actions tail = [] ∧
      ∀ d ∈ tail, d.isOwnFile = true → ∃ result, r' = .ok result ∧ result.verdict = .verified := by
  rcases h with first | ⟨-, first, -, persist⟩
  · cases first with
    | @unverified ds r' _ _ polls =>
      exact ⟨ds, [], r', (List.append_nil ds).symm, polls, rfl, fun d hd => absurd hd (by simp)⟩
  · cases first with
    | verified polls verdict job =>
      exact ⟨_, _, _, rfl, polls, persist.actions_eq_nil, fun _ _ _ => ⟨_, rfl, verdict⟩⟩

/-- A job is cut short in its opening, or goes on to polls and ends with what asks nothing. -/
theorem jobCourse_parts (hs : History w.outside ds w'.outside) (h : jobCourse s mock n w ds r w') :
    CutShort s n (openingPurposes mock) w.outside ds ∨
      ∃ opening polls tail transaction r', ds = opening ++ (polls ++ tail) ∧
        Opened s n (openingPurposes mock) w.outside opening ∧ Polls s transaction polls r' ∧
          actions tail = [] ∧ ∀ d ∈ tail, d.isOwnFile = true →
            ∃ result, r' = .ok result ∧ result.verdict = .verified := by
  have purposes : openingPurposes mock =
      (if mock then [] else [.capture, .checksum, .upload]) ++ ([] ++ [Purpose.submission]) := by
    cases mock <;> rfl
  rw [purposes]
  obtain ⟨r', w₁, outside, h⟩ := exists_stagesCourse h
  rw [outside] at hs
  rcases h with first | ⟨earlier, first, later, second⟩
  · exact .inl ((witness_opens s mock n w _ _ _ hs first).append_purposes _)
  have opened := witness_opens s mock n w _ _ _ earlier first
  rcases second with plan | ⟨earlier', plan, later', second⟩
  · have cut := (planConduct_opens s n _ _ _ _ later plan).append_purposes [.submission]
    rw [earlier.eq_after] at cut
    exact .inl (opened.append_cutShort cut)
  have planned := planConduct_opens s n _ _ _ _ earlier' plan
  rcases second with submit | ⟨earlier'', submit, later'', second⟩
  · have cut := submitConduct_opens s n _ _ _ _ _ later' submit
    rw [earlier'.eq_after] at cut
    have cut' := planned.append_cutShort cut
    rw [earlier.eq_after] at cut'
    exact .inl (opened.append_cutShort cut')
  have submitted := submitConduct_opens s n _ _ _ _ _ earlier'' submit
  rw [earlier'.eq_after] at submitted
  have opened' := planned.append submitted
  rw [earlier.eq_after] at opened'
  obtain ⟨polls, tail, r', rfl, rounds, quiet, verified⟩ := closingCourse_parts second
  refine .inr ⟨_, polls, tail, _, r', ?_, opened.append opened', rounds, quiet, verified⟩
  simp only [List.append_assoc]

/-- There are actions for any purposes. -/
theorem exists_of_purposes (ks : List Purpose) :
    ∃ ds : List Deed, ds.map Deed.purpose? = ks.map some := by
  have one : ∀ k : Purpose, ∃ d : Deed, d.purpose? = some k := by
    intro k
    have called : ∀ arguments, ∃ d : Deed,
        d.purpose? = ToolCall.purpose? ⟨.null, arguments, none⟩ :=
      fun arguments => ⟨.call _ ⟨0, [], false, false, .unknown⟩, rfl⟩
    cases k with
    | capture => exact called [.str "witness_capture"]
    | checksum => exact called [.str "--jsonurl", .null, .str "calculate-hash"]
    | upload => exact ⟨.upload ⟨"", .null, "", .null⟩ .stored, rfl⟩
    | submission => exact called [.str "--jsonurl", .null, .str "exec"]
    | tree => exact called [.str "--jsonurl", .null, .str "print-tx-tree"]
    | output => exact called [.str "--jsonurl", .null, .str "get-tx-execution-output"]
  induction ks with
  | nil => exact ⟨[], rfl⟩
  | cons k ks ih =>
    obtain ⟨ds, hds⟩ := ih
    obtain ⟨d, hd⟩ := one k
    exact ⟨d :: ds, by rw [List.map_cons, List.map_cons, hds, hd]⟩

/-- The actions of an opening that was cut short can be completed. -/
theorem CutShort.exists_schedule {o : Outside} (h : CutShort s n (openingPurposes mock) o ds) :
    ∃ rest, Schedule mock (actions ds ++ rest) := by
  obtain ⟨more, hmore⟩ := h.purposes
  obtain ⟨-, ks, -, -, rfl⟩ := List.map_eq_append_iff.1 hmore.symm
  obtain ⟨rest, hrest⟩ := exists_of_purposes ks
  refine ⟨rest, actions ds ++ rest, [], (List.append_nil _).symm, ?_, .none⟩
  rw [List.map_append, hrest, hmore]

/-- The count of the actions for a purpose. -/
def countFor (k : Purpose) (ds : List Deed) : Nat :=
  ((actions ds).map Deed.purpose?).count (some k)

theorem count_openingPurposes (mock : Bool) (k : Purpose) :
    ((openingPurposes mock).map some).count (some k) ≤ 1 := by
  cases mock <;> cases k <;> decide

theorem CutShort.countFor_le {o : Outside} (h : CutShort s n (openingPurposes mock) o ds)
    (k : Purpose) : countFor k ds ≤ 1 :=
  Nat.le_trans (h.purposes.sublist.count_le (some k)) (count_openingPurposes mock k)

theorem Polls.countFor_eq_zero {r : Except Interruption PollResult}
    (h : Polls s transaction ds r) (tree : k ≠ .tree) (output : k ≠ .output) :
    countFor k ds = 0 := by
  rw [countFor, h.actions_eq, List.count_eq_zero]
  intro hk
  obtain ⟨d, hd, hp⟩ := List.mem_map.1 hk
  rcases h.purpose? d hd with h' | h'
  · exact tree (Option.some.inj (hp.symm.trans h'))
  · exact output (Option.some.inj (hp.symm.trans h'))

theorem countFor_append (k : Purpose) (ds es : List Deed) :
    countFor k (ds ++ es) = countFor k ds + countFor k es := by
  rw [countFor, actions_append, List.map_append, List.count_append]
  rfl

/-- The order of the actions of a job, whatever the tools and the storage do: they are the
beginning of a schedule, all but the polls are made once at most, none follows an action that
failed or a payload that is not blank, and a file is written only after a payload that was
verified. -/
theorem runJob_schedule (s : Settings) (mock : Bool) (bound n : Nat) (w : World) :
    ∃ ds, History w.outside ds ((runJob s mock bound n).runIn w).2.outside ∧
      (∃ rest, Schedule mock (actions ds ++ rest)) ∧
      (∀ k, k ≠ .tree → k ≠ .output → countFor k ds ≤ 1) ∧
      (∀ before d after, ds = before ++ d :: after → d.isAction = true → actions after ≠ [] →
        d.Succeeded s n (w.outside.after (before ++ [d])) ∧ d.IsBlank) ∧
      (∀ d ∈ ds, d.isOwnFile = true → ∃ before leaf reply after payload,
        ds = before ++ .call (outputCall s leaf) reply :: after ∧ actions after = [] ∧
          reply.payload? = some payload ∧ Verdict.ofPayload payload = .verified) := by
  obtain ⟨ds, hs, w₀, outside, -, course⟩ := runJob_does s mock bound n w
  refine ⟨ds, hs, ?_⟩
  rw [← outside] at hs ⊢
  rcases jobCourse_parts hs course with cut | ⟨opening, polls, tail, transaction, r, rfl, opened,
    rounds, quiet, verified⟩
  · refine ⟨cut.exists_schedule, fun k _ _ => cut.countFor_le k, ?_, ?_⟩
    · intro before d after split action later
      exact cut.well.of_eq_append split action later
    · intro d hd own
      rw [cut.noFile d hd] at own
      cases own
  · have asked : actions (opening ++ (polls ++ tail)) = actions opening ++ polls := by
      rw [actions_append, actions_append, quiet, rounds.actions_eq, List.append_nil]
    refine ⟨?_, ?_, ?_, ?_⟩
    · obtain ⟨rest, hrest⟩ := rounds.exists_rounds
      refine ⟨rest, actions opening, polls ++ rest, ?_, opened.purposes, hrest⟩
      rw [asked, List.append_assoc]
    · intro k tree output
      have first : countFor k opening ≤ 1 := by
        rw [countFor, opened.purposes]
        exact count_openingPurposes mock k
      have last : countFor k tail = 0 := by
        rw [countFor, quiet]
        rfl
      rw [countFor_append, countFor_append, rounds.countFor_eq_zero tree output, last]
      exact first
    · intro before d after split action later
      exact (opened.well.append_allButLast (rounds.well.append quiet)).of_eq_append split action
        later
    · intro d hd own
      rcases List.mem_append.1 hd with hd | hd
      · rw [opened.noFile d hd] at own
        cases own
      rcases List.mem_append.1 hd with hd | hd
      · rw [rounds.isOwnFile d hd] at own
        cases own
      obtain ⟨result, rfl, verdict⟩ := verified d hd own
      obtain ⟨before, leaf, reply, rfl, payload, verdict'⟩ := rounds.exists_last
      refine ⟨opening ++ before, leaf, reply, tail, result.payload, ?_, quiet, payload,
        verdict'.symm.trans verdict⟩
      simp only [List.append_assoc, List.singleton_append]

end Job

end ProofRelay

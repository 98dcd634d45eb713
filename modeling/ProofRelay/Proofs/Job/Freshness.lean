import ProofRelay.Proofs.Job.Identity

/-!
# Where the file of a witness comes from

After a call the file at a location was written by the call, or the call left the location alone and
the file was there before it.  A capture that succeeds looks only at what is there after its call,
so that it tells the two apart exactly if no file was at the path of the witness when it began.

If that is so, the file behind a capture that gives its path was written by this very call, and a
capture program that ends with zero without writing the file has failed.  A job then hashes, uploads
and submits only behind a capture of its own: the file that it hashes is the one that was captured,
and so is the file that it uploads unless a call in between wrote there again.

## Main definitions

* `CaptureIsFresh` : captures that give only what their own call wrote.
* `Captured` : deeds in which the witness of a block was captured.
* `Deed.IsFresh` : deeds that use a witness only if it was captured.

## Main results

* `History.origin` : where a file comes from that is there after a call.
* `runJob_freshness` : a job uses the witness that it captured.
-/

namespace ProofRelay

open Activity ProofRelay.Text

/-! ### The origin of a file -/

/-- New directories spare every file. -/
theorem OnlyDirectories.spares {ds : List Deed} (h : OnlyDirectories ds) (k : Location) :
    ∀ d ∈ ds, d.Spares k :=
  h.forall_mem fun _ => trivial

/-- A file that is there after a call behind new directories was written by the call, or the call
left its location alone and it was there before. -/
theorem History.origin {o o' : Outside} {ds : List Deed} {c : ToolCall} {reply : ToolReply}
    {k : Location} {bytes : List UInt8} {mode : Nat} (h : History o (ds ++ [.call c reply]) o')
    (before : OnlyDirectories ds) (there : o'.files.find? k = some (.file bytes mode)) :
    (k, .file bytes mode) ∈ reply.writes ∨
      (∀ e ∈ reply.writes, e.1 ≠ k) ∧ o.files.bytesAt k = some bytes := by
  have proper : k ≠ [] := by
    rintro rfl
    rw [FileTree.find?_root] at there
    cases there
  obtain ⟨made, called⟩ := h.of_append
  rw [called.eq_after] at there
  rcases FileTree.mem_or_find?_of_foldl_put reply.writes proper there with wrote | ⟨spared, there⟩
  · exact .inl wrote
  · refine .inr ⟨spared, ?_⟩
    rw [← made.bytesAt_eq (before.spares k)]
    exact FileTree.bytesAt_of_find? there

/-! ### Captures -/

/-- Whether a call wrote the file that is at a path. -/
def ToolReply.Left (reply : ToolReply) (t : FileTree) (p : Path) (bytes : List UInt8) : Prop :=
  ∃ mode, (t.target p, .file bytes mode) ∈ reply.writes

/-- Captures that give only what their own call wrote. -/
structure CaptureIsFresh (s : Settings) (n : Int) (w : World) (ds : List Deed)
    (r : Except Interruption Path) (w' : World) : Prop where
  /-- The file behind a path that is given was written by the call for it. -/
  written : ∀ p, r = .ok p → ∃ before c reply said bytes, ds = before ++ [.call c reply] ∧
    IsCapture s n p reply (.call c reply) ∧ reply.said? = some said ∧
      reply.Left w.files p bytes ∧ w'.files.bytesAt (w.files.target p) = some bytes
  /-- A capture program that ends with zero and wrote no file has failed, even if the path is too
  long to be looked at. -/
  unwritten : ∀ before c p reply said, ds = before ++ [.call c reply] →
    IsCapture s n p reply (.call c reply) → reply.said? = some said →
      (∀ bytes, ¬ reply.Left w.files p bytes) →
        r = .error (unwrittenFault c p said) ∨
          w'.files.status p = .error .nameTooLong ∧ r = .error (tooLongFault p)

section Capture

variable {s : Settings} {n : Int} {w w' : World} {ds : List Deed}

/-- Where no file was at a path, a file that is there after a call was written by the call. -/
theorem exists_left {c : ToolCall} {reply : ToolReply} {p : Path}
    (vacant : w.files.bytesAt (w.files.target p) = none) (before : OnlyDirectories ds)
    (hs : History w.outside (ds ++ [.call c reply]) w'.outside) (file : w'.files.isFile p = true) :
    ∃ bytes, reply.Left w.files p bytes ∧ w'.files.bytesAt (w.files.target p) = some bytes := by
  obtain ⟨bytes, mode, there⟩ := FileTree.exists_of_isFile file
  rw [FileTree.target_congr (show w'.files.here = w.files.here from hs.here_eq)] at there
  refine ⟨bytes, ?_, FileTree.bytesAt_of_find? there⟩
  rcases hs.origin before there with wrote | ⟨-, earlier⟩
  · exact ⟨mode, wrote⟩
  · rw [World.files_outside, vacant] at earlier
    cases earlier

theorem CaptureEnd.isFresh {r : Except Interruption Path} (h : CaptureEnd s n w ds r w')
    (hs : History w.outside ds w'.outside)
    (vacant : ∀ p, witnessPath s n = .ok p → w.files.bytesAt (w.files.target p) = none) :
    CaptureIsFresh s n w ds r w' := by
  have last : ∀ {es fs : List Deed} {c c' : ToolCall} {reply reply' : ToolReply},
      es ++ [.call c reply] = fs ++ [.call c' reply'] → c = c' ∧ reply = reply' := by
    intro es fs c c' reply reply' split
    obtain ⟨-, same⟩ := List.append_inj' split rfl
    cases same
    exact ⟨rfl, rfl⟩
  refine ⟨fun p given => ?_, fun before c p reply said split asked told none => ?_⟩
  · cases h with
    | unasked | failed | unwritten => cases given
    | there before asked told file _ =>
      cases given
      obtain ⟨bytes, left, there⟩ := exists_left (vacant p asked.path) before hs file
      exact ⟨_, _, _, _, bytes, rfl, asked, told, left, there⟩
  · cases h with
    | unasked dirs =>
      have made := dirs.forall_mem (P := fun d => d.isAction = false) (fun _ => rfl)
        (.call c reply) (by simp [split])
      cases made
    | failed dirs asked' silent =>
      obtain ⟨-, rfl⟩ := last split
      cases silent.symm.trans told
    | unwritten dirs asked' told' fault =>
      obtain ⟨rfl, rfl⟩ := last split
      obtain rfl := Option.some.inj (told'.symm.trans told)
      obtain rfl := Except.ok.inj (asked'.path.symm.trans asked.path)
      exact fault.imp (congrArg _) (And.imp_right (congrArg _))
    | there dirs asked' told' file _ =>
      obtain ⟨rfl, rfl⟩ := last split
      obtain rfl := Except.ok.inj (asked'.path.symm.trans asked.path)
      obtain ⟨bytes, left, -⟩ := exists_left (vacant _ asked.path) dirs hs file
      exact absurd left (none bytes)

end Capture

/-! ### Jobs -/

/-- Deeds in which the witness of a block was captured: its file was written by the call for it, and
is still the same if it was left alone since. -/
def Captured (s : Settings) (n : Int) (o : Outside) (p : Path) (bytes : List UInt8)
    (ds : List Deed) : Prop :=
  ∃ first c reply later, ds = first ++ .call c reply :: later ∧
    IsCapture s n p reply (.call c reply) ∧ reply.said? ≠ none ∧ reply.Left o.files p bytes ∧
      ((∀ d ∈ later, d.Spares (o.files.target p)) →
        (o.after ds).files.bytesAt (o.files.target p) = some bytes)

/-- Deeds that use a witness only if it was captured in the deeds before them. -/
structure Deed.IsFresh (s : Settings) (mock : Bool) (n : Int) (o : Outside) (before : List Deed)
    (d : Deed) : Prop where
  /-- The file that is hashed is the one that was captured. -/
  hashed : d.purpose? = some .checksum → ∃ p bytes, Captured s n o p bytes before ∧
    (∃ reply, IsChecksum s n p reply d) ∧
      (o.after before).files.bytesAt (o.files.target p) = some bytes
  /-- The file that is uploaded is at the path for which it was captured. -/
  uploaded : d.purpose? = some .upload → ∃ p bytes, Captured s n o p bytes before ∧
    ∃ reply, IsUpload s p p.name reply d
  /-- A plan is submitted behind a capture, unless it carries the mock witness. -/
  submitted : d.purpose? = some .submission → mock = false →
    ∃ p bytes, Captured s n o p bytes before

/-- Whether all deeds of a list that stand behind others use a witness only if it was captured. -/
def AllFresh (s : Settings) (mock : Bool) (n : Int) (o : Outside) (before ds : List Deed) : Prop :=
  ∀ first d after, ds = first ++ d :: after → d.IsFresh s mock n o (before ++ first)

section Job

variable {s : Settings} {mock : Bool} {n : Int} {o o' : Outside} {before ds es : List Deed}

/-- A captured witness stays captured. -/
theorem Captured.append {p : Path} {bytes : List UInt8} (h : Captured s n o p bytes ds)
    (hs : History (o.after ds) es o') : Captured s n o p bytes (ds ++ es) := by
  obtain ⟨first, c, reply, later, split, asked, told, left, kept⟩ := h
  refine ⟨first, c, reply, later ++ es, by rw [split, List.append_assoc, List.cons_append], asked,
    told, left, fun spared => ?_⟩
  rw [List.forall_mem_append] at spared
  rw [Outside.after_append, ← hs.eq_after, hs.bytesAt_eq spared.2, kept spared.1]

/-- Deeds for other purposes use no witness. -/
theorem Deed.IsFresh.of_purpose? {d : Deed}
    (other : ∀ k ∈ [Purpose.checksum, .upload, .submission], d.purpose? ≠ some k) :
    d.IsFresh s mock n o before :=
  ⟨fun purpose => absurd purpose (other _ (by decide)),
    fun purpose => absurd purpose (other _ (by decide)),
    fun purpose => absurd purpose (other _ (by decide))⟩

theorem allFresh_of_purpose?
    (other : ∀ d ∈ ds, ∀ k ∈ [Purpose.checksum, .upload, .submission], d.purpose? ≠ some k) :
    AllFresh s mock n o before ds := by
  rintro first d after rfl
  exact .of_purpose? (other d (by simp))

theorem AllFresh.append (h : AllFresh s mock n o before ds)
    (h' : AllFresh s mock n o (before ++ ds) es) : AllFresh s mock n o before (ds ++ es) := by
  intro first d after split
  rcases List.append_eq_append_iff.mp split with ⟨front, rfl, split'⟩ | ⟨rest, rfl, split'⟩
  · have later := h' front d after split'
    rwa [List.append_assoc] at later
  · cases rest with
    | nil =>
      have later := h' [] d after split'.symm
      rwa [List.append_nil, List.append_nil] at later
    | cons e rest =>
      obtain ⟨rfl, -⟩ := List.cons.inj split'
      exact h first d rest rfl

/-- One question is fresh if it is so behind new directories. -/
theorem Post.single.allFresh {α : Type} {asks : Deed → Prop} {gives : Deed → α → World → Prop}
    {r : Except Interruption α} {w' : World} (h : Post.single asks gives ds r w')
    (hs : History (o.after before) ds o')
    (fresh : ∀ first d, OnlyDirectories first →
      History (o.after before) first (o.after (before ++ first)) → asks d →
        d.IsFresh s mock n o (before ++ first)) : AllFresh s mock n o before ds := by
  have quiet : ∀ {first : List Deed}, OnlyDirectories first → AllFresh s mock n o before first := by
    intro first dirs
    refine allFresh_of_purpose? (dirs.forall_mem ?_)
    rintro l k - ⟨⟩
  have whole : ∀ {first : List Deed} {d : Deed}, OnlyDirectories first → asks d →
      History (o.after before) (first ++ [d]) o' → AllFresh s mock n o before (first ++ [d]) := by
    intro first d dirs asked hs
    refine (quiet dirs).append fun front e after split => ?_
    cases front with
    | nil =>
      obtain ⟨rfl, -⟩ := List.cons.inj split
      have made := hs.of_append.1
      rw [← Outside.after_append] at made
      rw [List.append_nil]
      exact fresh first d dirs made asked
    | cons x front => simp at split
  cases h with
  | unasked dirs => exact quiet dirs
  | failed dirs asked => exact whole dirs asked hs
  | given dirs asked answer => exact whole dirs asked hs

/-- A capture that gives a path leaves a captured witness. -/
theorem captureConduct_captured {w w' : World} {p : Path}
    (vacant : ∀ p, witnessPath s n = .ok p → w.files.bytesAt (w.files.target p) = none)
    (hs : History w.outside ds w'.outside) (h : captureConduct s n w ds (.ok p) w') :
    witnessPath s n = .ok p ∧ ∃ bytes, Captured s n w.outside p bytes ds ∧
      w'.files.bytesAt (w.files.target p) = some bytes := by
  cases h with
  | @given first d _ _ dirs _ answer =>
    obtain ⟨⟨file, -⟩, reply, said, asked, told⟩ := answer
    obtain ⟨parameters, url, hk, hr, rfl⟩ := asked.call
    obtain ⟨bytes, left, there⟩ := exists_left (vacant p asked.path) dirs hs file
    refine ⟨asked.path, bytes, ⟨first, _, reply, [], rfl, asked, by simp [told], left, ?_⟩, there⟩
    intro _
    rw [← hs.eq_after]
    exact there

/-- A capture uses no witness. -/
theorem captureConduct_fresh {w w' : World} {r : Except Interruption Path}
    (hs : History w.outside ds w'.outside) (h : captureConduct s n w ds r w') :
    AllFresh s mock n w.outside [] ds := by
  refine Post.single.allFresh h hs ?_
  rintro first d - - ⟨p, reply, asked⟩
  refine .of_purpose? fun k hk purpose => ?_
  rw [asked.purpose?] at purpose
  cases purpose
  simp at hk

/-- The file that is hashed behind a capture is the one that was captured. -/
theorem checksumConduct_fresh {w w' : World} {p : Path} {bytes : List UInt8}
    {r : Except Interruption Unit} (path : witnessPath s n = .ok p)
    (captured : Captured s n o p bytes before)
    (there : (o.after before).files.bytesAt (o.files.target p) = some bytes)
    (hs : History (o.after before) ds w'.outside) (h : checksumConduct s n w ds r w') :
    AllFresh s mock n o before ds := by
  refine Post.single.allFresh h hs ?_
  rintro first d dirs made ⟨q, reply, asked⟩
  obtain rfl := Except.ok.inj (path.symm.trans asked.path)
  refine ⟨fun _ => ⟨p, bytes, captured.append made, ⟨reply, asked⟩, ?_⟩, fun purpose => ?_,
    fun purpose => ?_⟩
  · rw [made.bytesAt_eq (dirs.spares _), there]
  all_goals
    rw [asked.purpose?] at purpose
    cases purpose

theorem publishConduct_fresh {w w' : World} {p : Path} {bytes : List UInt8}
    {r : Except Interruption Unit} (captured : Captured s n o p bytes before)
    (hs : History (o.after before) ds w'.outside) (h : publishConduct s p w ds r w') :
    AllFresh s mock n o before ds := by
  refine Post.single.allFresh h hs ?_
  rintro first d - made ⟨reply, asked⟩
  refine ⟨fun purpose => ?_, fun _ => ⟨p, bytes, captured.append made, reply, asked⟩,
    fun purpose => ?_⟩
  all_goals
    rw [asked.purpose?] at purpose
    cases purpose

/-- The stages of a witness use it only behind its capture, and leave it captured. -/
theorem witnessCourse_fresh {w w' : World} {r : Except Interruption Unit}
    (vacant : ∀ p, witnessPath s n = .ok p → w.files.bytesAt (w.files.target p) = none)
    (hs : History w.outside ds w'.outside) (h : witnessCourse s n w ds r w') :
    AllFresh s mock n w.outside [] ds ∧
      ∀ x, r = .ok x → ∃ p bytes, Captured s n w.outside p bytes ds := by
  rcases h with capture | @⟨ds₁, _, p, _, w₁, _, earlier, capture, later, rest⟩
  · exact ⟨captureConduct_fresh hs capture, nofun⟩
  obtain ⟨path, bytes, captured, there⟩ := captureConduct_captured vacant earlier capture
  have captures : AllFresh s mock n w.outside [] ds₁ := captureConduct_fresh earlier capture
  have left := earlier.eq_after
  rw [← World.files_outside, left] at there
  rw [left] at later
  rcases rest with checksum | @⟨ds₂, ds₃, _, _, w₂, _, earlier', checksum, later', publish⟩
  · exact ⟨captures.append (checksumConduct_fresh path captured there later checksum), nofun⟩
  rw [left] at earlier'
  have hashes : AllFresh s mock n w.outside ds₁ ds₂ :=
    checksumConduct_fresh path captured there earlier' checksum
  have captured' := captured.append earlier'
  rw [earlier'.eq_after, ← Outside.after_append] at later'
  have uploads : AllFresh s mock n w.outside (ds₁ ++ ds₂) ds₃ :=
    publishConduct_fresh captured' later' publish
  rw [← List.append_assoc]
  refine ⟨(captures.append hashes).append uploads, fun _ _ => ⟨p, bytes, captured'.append later'⟩⟩

theorem submitConduct_fresh {w w' : World} {q : Plan Json} {r : Except Interruption String}
    (captured : mock = false → ∃ p bytes, Captured s n o p bytes before)
    (hs : History (o.after before) ds w'.outside) (h : submitConduct s q w ds r w') :
    AllFresh s mock n o before ds := by
  refine Post.single.allFresh h hs ?_
  rintro first d - made ⟨reply, asked⟩
  refine ⟨fun purpose => ?_, fun purpose => ?_, fun _ real => ?_⟩
  · rw [asked.purpose?] at purpose
    cases purpose
  · rw [asked.purpose?] at purpose
    cases purpose
  · obtain ⟨p, bytes, captured⟩ := captured real
    exact ⟨p, bytes, captured.append made⟩

/-- The stages from the wait on use no witness. -/
theorem closingCourse_fresh {w w' : World} {transaction : String} {r : Except Interruption Path}
    (h : closingCourse s n transaction w ds r w') : AllFresh s mock n o before ds := by
  obtain ⟨polls, tail, r', rfl, rounds, quiet, -⟩ := closingCourse_parts h
  refine allFresh_of_purpose? fun d hd k hk purpose => ?_
  rcases List.mem_append.mp hd with hd | hd
  · rcases rounds.purpose? d hd with other | other <;>
      · rw [purpose] at other
        cases other
        simp at hk
  · exact absurd (Deed.isAction_of_purpose? purpose) (List.filter_eq_nil_iff.mp quiet d hd)

/-- The stages from the plan on submit only behind the capture. -/
theorem planCourse_fresh {w w' : World} {r : Except Interruption Path}
    (outside : w.outside = o.after before) (hs : History w.outside ds w'.outside)
    (captured : mock = false → ∃ p bytes, Captured s n o p bytes before)
    (h : planCourse s n w ds r w') : AllFresh s mock n o before ds := by
  rcases h with plan | ⟨earlier, plan, later, rest⟩
  · obtain ⟨rfl, -⟩ := plan
    exact allFresh_of_purpose? (by simp)
  obtain ⟨rfl, -⟩ := plan
  rw [earlier.eq_after, outside] at later
  rw [List.nil_append]
  rcases rest with submit | ⟨earlier', submit, -, closing⟩
  · exact submitConduct_fresh captured later submit
  · rw [earlier.eq_after, outside] at earlier'
    exact (submitConduct_fresh captured earlier' submit).append (closingCourse_fresh closing)

/-- The deeds of a job use a witness only if the job captured it. -/
theorem jobCourse_fresh {w w' : World} {r : Except Interruption Unit}
    (vacant : ∀ p, witnessPath s n = .ok p → w.files.bytesAt (w.files.target p) = none)
    (hs : History w.outside ds w'.outside) (h : jobCourse s mock n w ds r w') :
    AllFresh s mock n w.outside [] ds := by
  obtain ⟨r', w₁, outside, h⟩ := exists_stagesCourse h
  rw [outside] at hs
  have witness : ∀ {es : List Deed} {r : Except Interruption Unit} {v : World},
      History w.outside es v.outside →
      (if mock then mockConduct w else witnessCourse s n w) es r v →
        AllFresh s mock n w.outside [] es ∧
          ∀ x, r = .ok x → mock = false → ∃ p bytes, Captured s n w.outside p bytes es := by
    intro es r v hs course
    cases mock with
    | true =>
      obtain ⟨rfl, -⟩ := course
      exact ⟨allFresh_of_purpose? (by simp), fun _ _ => nofun⟩
    | false =>
      obtain ⟨fresh, captured⟩ := witnessCourse_fresh vacant hs course
      exact ⟨fresh, fun x given _ => captured x given⟩
  rcases h with first | ⟨earlier, first, later, second⟩
  · exact (witness hs first).1
  · obtain ⟨fresh, captured⟩ := witness earlier first
    exact fresh.append (planCourse_fresh earlier.eq_after later (captured _ rfl) second)

end Job

/-- A capture gives only what its own call wrote, and a job hashes, uploads and submits only behind
a capture of its own, if no file is at the path of the block's witness when they begin. -/
theorem runJob_freshness (s : Settings) (mock : Bool) (bound : Nat) (n : Int) (w : World)
    (vacant : ∀ p, witnessPath s n = .ok p → w.files.bytesAt (w.files.target p) = none) :
    (captureWitness s n).Does w (CaptureIsFresh s n w) ∧
      ∃ ds, History w.outside ds ((runJob s mock bound n).runIn w).2.outside ∧
        ∀ before d after, ds = before ++ d :: after → d.IsFresh s mock n w.outside before := by
  refine ⟨(captureWitness_ends s n w).with_history.mono fun _ _ _ ⟨hs, h⟩ =>
    h.isFresh hs vacant, ?_⟩
  by_cases negative : n < 0
  · rw [runIn_runJob_of_neg negative]
    exact ⟨[], rfl, by simp⟩
  obtain ⟨m, rfl⟩ := Int.eq_ofNat_of_zero_le (Int.not_lt.mp negative)
  obtain ⟨ds, hs, w₀, outside, -, course⟩ := runJob_does s mock bound m w
  have files : w₀.files = w.files := congrArg Outside.files outside
  rw [← outside] at hs
  rw [← files] at vacant
  refine ⟨ds, outside ▸ hs, fun before d after split => ?_⟩
  rw [← outside]
  exact jobCourse_fresh vacant hs course before d after split

/-- The path of a witness in the sample. -/
def sampleWitness : Path := ⟨"/", ["run", "witnesses", "witness-5.json"]⟩

theorem runJob_freshness_sample :
    (∀ p, witnessPath sampleSettings 5 = .ok p →
        sampleWorld.files.bytesAt (sampleWorld.files.target p) = none) ∧
      ((runJob sampleSettings false 1 5).runIn sampleWorld).2.calls.map ToolCall.purpose? =
        [some .output, some .tree, some .submission, some .checksum, some .capture] ∧
      (captureWitness sampleSettings 5).Does sampleWorld
        (CaptureIsFresh sampleSettings 5 sampleWorld) ∧
      ∃ ds, History sampleWorld.outside ds
          ((runJob sampleSettings false 1 5).runIn sampleWorld).2.outside ∧
        ∀ before d after, ds = before ++ d :: after →
          d.IsFresh sampleSettings false 5 sampleWorld.outside before := by
  have path : witnessPath sampleSettings 5 = .ok sampleWitness :=
    eq_ok_of_toOption (by decide +kernel)
  have vacant : ∀ p, witnessPath sampleSettings 5 = .ok p →
      sampleWorld.files.bytesAt (sampleWorld.files.target p) = none := by
    intro p hp
    obtain rfl := Except.ok.inj (path.symm.trans hp)
    decide +kernel
  exact ⟨vacant, by decide +kernel, runJob_freshness sampleSettings false 1 5 sampleWorld vacant⟩

/-! ### A file from an earlier run -/

/-- A world with the file of an earlier run, in which the tools write nothing and end with zero. -/
def staleWorld : World :=
  { sampleWorld with
    files :=
      ⟨[(["run"], .directory FileTree.directoryMode),
        (["run", "witnesses"], .directory FileTree.directoryMode),
        (["run", "witnesses", "witness-5.json"], .file [0x7b, 0x7d] FileTree.fileMode)], []⟩
    tools := ⟨fun _ _ _ => ⟨0, [], false, false, .exited 0 "" ""⟩, false⟩ }

/-- A capture may give a path that no call has written to: a file of an earlier run passes for the
one of this run. -/
theorem stale_witness_taken :
    ¬ ∀ (s : Settings) (n : Int) (w w' : World) (p : Path),
      (captureWitness s n).runIn w = (.ok p, w') →
        ∃ calls t c, ∃ e ∈ (w.tools.reply calls t c).writes, e.1 = w.files.target p := by
  intro fresh
  have taken : ((captureWitness sampleSettings 5).runIn staleWorld).1 = .ok sampleWitness :=
    eq_ok_of_toOption (by decide +kernel)
  obtain ⟨calls, t, c, e, wrote, -⟩ := fresh sampleSettings 5 staleWorld _ _ (Prod.ext taken rfl)
  cases wrote

end ProofRelay

import ProofRelay.Proofs.Decimal.Binary64
import ProofRelay.Proofs.Job.Identity
import ProofRelay.Proofs.Network.Payload

/-!
# The file of a verification

A job writes one file of its own, with the verification of its block, and only when it succeeds: the
payload is written beside the file and moved into its place in one step.  The tools write files too,
but only where a call names one behind `-w`; the names in the calls of a job end with a letter,
while the name of a verification's file ends with a digit, so that no call touches such a file.

The content of a file is the one at its location, whether or not the path of the results can be
followed yet.

## Main definitions

* `Tools.WritesNamed` : tools that write only where a call says.
* `resultName`, `besideName` : the names of the file with a block's verification, and of the one
  that is written first.
* `JobDeed`, `Post.Every` : the deeds of a job, and conducts with deeds of one kind.
* `StagesEnd`, `Post.Still` : how the stages end, and conducts in front of the file.
* `Filed` : what a job that succeeds leaves.

## Main results

* `stagesCourse_every` : a job does nothing but these deeds.
* `jobCourse_spares` : it leaves the files of the other blocks.
* `stagesCourse_end` : stages that move the file succeed.
* `runJob_resultFile` : what a job leaves of the files with verifications.
-/

namespace ProofRelay

open ProofRelay.Text

/-! ### Files that calls name -/

/-- Tools that write only where a call says: at the path behind a flag `-w` of the call. -/
def Tools.WritesNamed (tools : Tools) : Prop :=
  ∀ calls t c, ∀ e ∈ (tools.reply calls t c).writes, ∃ before text after,
    c.arguments = before ++ .str "-w" :: .str text :: after ∧ e.1 = t.target (.ofString text)

/-- Texts that end with a letter. -/
def EndsWithLetter (text : String) : Prop :=
  ∃ before c, text.toList = before ++ [c] ∧ c.isAlpha = true

/-- Arguments that name no file but under a name that ends with a letter. -/
def NameLetters (arguments : List Json) : Prop :=
  ∀ before text after, arguments = before ++ .str "-w" :: .str text :: after → EndsWithLetter text

section Arguments

variable {v : Json} {vs : List Json} {text : String}

theorem NameLetters.nil : NameLetters [] := by
  intro before text after split
  simp at split

/-- One more argument in front names what follows it, if it is the flag. -/
theorem NameLetters.cons (h : NameLetters vs)
    (first : v = .str "-w" → ∀ text after, vs = .str text :: after → EndsWithLetter text) :
    NameLetters (v :: vs) := by
  intro before text after split
  cases before with
  | nil =>
    rw [List.nil_append, List.cons.injEq] at split
    exact first split.1 text after split.2
  | cons u before =>
    rw [List.cons_append, List.cons.injEq] at split
    exact h before text after split.2

theorem NameLetters.cons_of_ne (h : NameLetters vs) (other : v ≠ .str "-w") :
    NameLetters (v :: vs) :=
  h.cons fun flag => absurd flag other

theorem NameLetters.cons_text (h : NameLetters (.str text :: vs)) (letter : EndsWithLetter text)
    (v : Json) : NameLetters (v :: .str text :: vs) := by
  refine h.cons fun _ text' after split => ?_
  cases split
  exact letter

theorem NameLetters.singleton (v : Json) : NameLetters [v] :=
  NameLetters.nil.cons fun _ _ _ split => nomatch split

end Arguments

/-- A network call names no file but under the word for what it does. -/
theorem nameLetters_networkCall {s : Settings} {word flag value : String}
    {environment : Option Json.Fields} (letter : EndsWithLetter word) (notFlag : word ≠ "-w")
    (notFlag' : flag ≠ "-w") :
    NameLetters (networkCall s [word, flag, value] environment).arguments := by
  have last : NameLetters [.str flag, .str value] :=
    (NameLetters.singleton _).cons_of_ne (by simpa using notFlag')
  have named := (last.cons_of_ne (v := .str word) (by simpa using notFlag)).cons_text letter
    s.networkUrl
  exact named.cons_of_ne (by simp)

/-- The path of a witness ends with a letter. -/
theorem endsWithLetter_witnessPath {s : Settings} {n : Nat} {p : Path}
    (h : witnessPath s n = .ok p) : EndsWithLetter p.toString := by
  obtain ⟨root, -, rfl⟩ := exists_root_of_witnessPath h
  obtain ⟨before, hb⟩ := Path.exists_toString_join (isName_witnessName n) root
  have ending : (witnessName n).toList = ("witness-" ++ toString n ++ ".jso").toList ++ ['n'] := by
    simp [witnessName]
  exact ⟨before ++ ("witness-" ++ toString n ++ ".jso").toList, 'n',
    by rw [hb, ending, List.append_assoc], rfl⟩

/-- The capture of a witness names no file but the witness, or under a flag. -/
theorem nameLetters_captureCall {s : Settings} {n : Nat} {parameters url : Json} {p : Path}
    (h : witnessPath s n = .ok p) : NameLetters (captureCall s n parameters url p).arguments := by
  have path : NameLetters [.str "-w", .str p.toString] :=
    (NameLetters.singleton _).cons_text (endsWithLetter_witnessPath h) _
  have source := path.cons_text ⟨['-'], 'w', rfl, rfl⟩ url
  have parameter := (source.cons_of_ne (v := .str "-r") (by simp)).cons_text ⟨['-'], 'r', rfl, rfl⟩
    parameters
  have block := (parameter.cons_of_ne (v := .str "-k") (by simp)).cons_text ⟨['-'], 'k', rfl, rfl⟩
    (.str (toString (n : Int)))
  exact (block.cons_of_ne (v := .str "-b") (by simp)).cons_of_ne (by simp)

/-! ### Names of files with verifications -/

/-- The name of the file with a block's verification. -/
def resultName (n : Nat) : String :=
  "result-" ++ toString n

/-- The name of the file that is written first. -/
def besideName (n : Nat) : String :=
  resultName n ++ ".tmp"

theorem isName_resultName (n : Nat) : Path.IsName (resultName n) := by
  have name := @isName_numbered "result-" "" n (by decide) (by decide) (by decide)
  rw [String.append_empty] at name
  exact name

theorem isName_besideName (n : Nat) : Path.IsName (besideName n) :=
  isName_numbered n (by decide) (by decide) (by decide)

theorem resultName_ne {m n : Nat} (h : m ≠ n) : resultName m ≠ resultName n := by
  intro same
  have digits := congrArg String.toList same
  rw [resultName, resultName, String.toList_append, String.toList_append] at digits
  exact h (toString_inj (List.append_cancel_left digits))

theorem isAlpha_of_isDigit {c : Char} (h : c.isDigit = true) : c.isAlpha = false := by
  have bounds : 0x30 ≤ c.toNat ∧ c.toNat ≤ 0x39 := by
    simpa [Char.isDigit, UInt32.le_iff_toNat_le] using h
  have upper : ¬ 'A'.val ≤ c.val := fun least => by
    have : 0x41 ≤ c.toNat := UInt32.le_iff_toNat_le.mp least
    omega
  have lower : ¬ 'a'.val ≤ c.val := fun least => by
    have : 0x61 ≤ c.toNat := UInt32.le_iff_toNat_le.mp least
    omega
  have notUpper : c.isUpper = false := decide_eq_false fun range => upper range.1
  have notLower : c.isLower = false :=
    Bool.and_eq_false_iff.mpr (.inl (decide_eq_false lower))
  exact Bool.or_eq_false_iff.mpr ⟨notUpper, notLower⟩

/-- A name that ends with a letter is no name of a verification's file. -/
theorem ne_resultName_of_letter {name : String} {c : Char} (ends : [c] <:+ name.toList)
    (letter : c.isAlpha = true) (n : Nat) : name ≠ resultName n := by
  rintro rfl
  have digits : (toString n).toList ≠ [] := by
    rw [Nat.toString_eq_repr, Nat.toList_repr]
    exact Nat.toDigits_ne_nil
  rw [List.singleton_suffix_iff_getLast?_eq_some, resultName, String.toList_append,
    List.getLast?_append, List.getLast?_eq_some_getLast digits] at ends
  cases ends
  have digit := isDigit_of_mem_toString (List.getLast_mem digits)
  rw [isAlpha_of_isDigit digit] at letter
  cases letter

theorem besideName_ne_resultName (m n : Nat) : besideName m ≠ resultName n := by
  refine ne_resultName_of_letter (c := 'p') ⟨(resultName m ++ ".tm").toList, ?_⟩ rfl n
  simp [besideName]

/-- The path of the file with a block's verification. -/
theorem exists_root_of_resultPath {s : Settings} {n : Nat} {p : Path}
    (h : resultPath s n = .ok p) : ∃ root, s.resultsRoot = .ok root ∧
      p = root.join (resultName n) ∧ p.extended ".tmp" = root.join (besideName n) := by
  rw [resultPath] at h
  cases found : s.resultsRoot with
  | error f =>
    rw [found] at h
    cases h
  | ok root =>
    rw [found] at h
    cases h
    refine ⟨root, rfl, rfl, ?_⟩
    rw [Path.join_of_isName (isName_besideName n)]
    exact Path.extended_join (isName_resultName n) root ".tmp"

/-! ### The deeds of a job -/

/-- The deeds of a job, in files with a working directory. -/
inductive JobDeed (s : Settings) (n : Nat) (t : FileTree) : Deed → Prop
  /-- A call that names no file but under a name that ends with a letter. -/
  | called {c reply} (named : NameLetters c.arguments) : JobDeed s n t (.call c reply)
  /-- An upload. -/
  | sent {u reply} : JobDeed s n t (.upload u reply)
  /-- A directory that was made. -/
  | made {l} : JobDeed s n t (.made l)
  /-- A file that was written beside the one with the verification. -/
  | wrote {root bytes} (place : s.resultsRoot = .ok root) :
      JobDeed s n t (.wrote (t.target (root.join (besideName n))) bytes)
  /-- The same file moved into its place. -/
  | moved {root} (place : s.resultsRoot = .ok root) :
      JobDeed s n t (.moved (t.target (root.join (besideName n)))
        (t.target (root.join (resultName n))))

/-- Whether a deed moves a file. -/
def Deed.isMove : Deed → Bool
  | moved .. => true
  | _ => false

section Deeds

variable {s : Settings} {n m : Nat} {t t' : FileTree} {d : Deed} {root : Path}

theorem JobDeed.congr (h : JobDeed s n t d) (same : t.here = t'.here) : JobDeed s n t' d := by
  cases h with
  | called named => exact .called named
  | sent => exact .sent
  | made => exact .made
  | wrote place =>
    rw [FileTree.target_congr same]
    exact .wrote place
  | moved place =>
    rw [FileTree.target_congr same, FileTree.target_congr same]
    exact .moved place

/-- Locations with different last names are different. -/
theorem concat_ne_concat {l k : Location} {a b : String} (h : a ≠ b) : l ++ [a] ≠ k ++ [b] := by
  intro same
  have last := congrArg List.getLast? same
  rw [List.getLast?_concat, List.getLast?_concat] at last
  exact h (Option.some.inj last)

theorem target_ne_of_ne (t : FileTree) (p q : Path) {a b : String} (ha : Path.IsName a)
    (hb : Path.IsName b) (h : a ≠ b) : t.target (p.join a) ≠ t.target (q.join b) := by
  rw [t.target_join p ha, t.target_join q hb]
  exact concat_ne_concat h

/-- No call of a job names a file with a verification. -/
theorem target_ne_of_letter (t : FileTree) {text : String} (h : EndsWithLetter text) (p : Path)
    (n : Nat) : t.target (.ofString text) ≠ t.target (p.join (resultName n)) := by
  obtain ⟨before, c, ends, letter⟩ := h
  obtain ⟨l, last, found, lastEnds⟩ := t.exists_target_of_letter ends letter
  rw [found, t.target_join p (isName_resultName n)]
  exact concat_ne_concat (ne_resultName_of_letter lastEnds letter n)

/-- Whether the files that a deed's call writes are the ones that it names. -/
def Deed.WritesNamed (t : FileTree) : Deed → Prop
  | call c reply => ∀ e ∈ reply.writes, ∃ before text after,
    c.arguments = before ++ .str "-w" :: .str text :: after ∧ e.1 = t.target (.ofString text)
  | _ => True

/-- The deeds of a job spare every file with a verification but its own one, and that one too
unless a file is moved. -/
theorem JobDeed.spares (h : JobDeed s n t d) (writes : d.WritesNamed t)
    (other : m ≠ n ∨ d.isMove = false) (root : Path) :
    d.Spares (t.target (root.join (resultName m))) := by
  -- The directories may be the same in every case: only the last names tell the locations apart.
  cases h with
  | called named =>
    intro e he
    obtain ⟨before, text, after, split, place⟩ := writes e he
    rw [place]
    exact target_ne_of_letter t (named before text after split) root m
  | sent => trivial
  | made => trivial
  | wrote place =>
    exact target_ne_of_ne t _ _ (isName_besideName n) (isName_resultName m)
      (besideName_ne_resultName n m)
  | moved place =>
    refine ⟨target_ne_of_ne t _ _ (isName_besideName n) (isName_resultName m)
      (besideName_ne_resultName n m), ?_⟩
    rcases other with other | still
    · exact target_ne_of_ne t _ _ (isName_resultName n) (isName_resultName m)
        (resultName_ne (Ne.symm other))
    · cases still

/-- Tools that write where calls say do so in a history. -/
theorem History.writesNamed {o o₁ : Outside} {ds : List Deed} (h : History o ds o₁)
    (named : o.tools.WritesNamed) : ∀ d ∈ ds, d.WritesNamed o.files := by
  induction ds generalizing o with
  | nil => simp
  | cons d ds ih =>
    intro e he
    rcases List.mem_cons.1 he with rfl | he
    · cases e with
      | call c reply =>
        cases (h.1 : reply = _)
        exact named o.calls o.files c
      | _ => trivial
    · have later := ih h.2 named e he
      cases e with
      | call c reply =>
        intro f hf
        obtain ⟨before, text, after, split, place⟩ := later f hf
        refine ⟨before, text, after, split, place.trans ?_⟩
        exact FileTree.target_congr (d.here_files o.files) _
      | _ => trivial

end Deeds

/-! ### What a job does -/

/-- Conducts with deeds of one kind only. -/
def Post.Every {α : Type} (P : Deed → Prop) (Q : Post α) : Prop :=
  ∀ ds r w', Q ds r w' → ∀ d ∈ ds, P d

section Every

variable {α β : Type} {s : Settings} {n : Nat} {t : FileTree} {w : World}

theorem Post.every_single {asks : Deed → Prop} {gives : Deed → α → World → Prop}
    (h : ∀ d, asks d → JobDeed s n t d) : (Post.single asks gives).Every (JobDeed s n t) :=
  fun _ _ _ single => single.forall_mem (fun _ => .made) h

/-- One conduct after another, where the working directory is the same. -/
theorem Post.Every.andThen {P : Deed → Prop} {Q : Post α} {R : α → World → Post β}
    (h : Q.Every P) (h' : ∀ x w₁, w₁.files.here = w.files.here → (R x w₁).Every P) :
    (Q.andThen w R).Every P := by
  rintro _ _ w' (first | ⟨earlier, first, -, second⟩) d hd
  · exact h _ _ _ first d hd
  · rcases List.mem_append.1 hd with hd | hd
    · exact h _ _ _ first d hd
    · exact h' _ _ earlier.here_eq _ _ _ second d hd

theorem captureConduct_every (s : Settings) (n : Nat) (t : FileTree) (w : World) :
    (captureConduct s n w).Every (JobDeed s n t) := by
  refine Post.every_single ?_
  rintro _ ⟨p, reply, path, parameters, url, -, -, rfl⟩
  exact .called (nameLetters_captureCall path)

theorem checksumConduct_every (s : Settings) (n : Nat) (t : FileTree) (w : World) :
    (checksumConduct s n w).Every (JobDeed s n t) := by
  refine Post.every_single ?_
  rintro _ ⟨p, reply, -, rfl⟩
  exact .called (nameLetters_networkCall ⟨"calculate-has".toList, 'h', by decide, rfl⟩ (by decide)
    (by decide))

theorem publishConduct_every (s : Settings) (n : Nat) (t : FileTree) (p : Path) (w : World) :
    (publishConduct s p w).Every (JobDeed s n t) := by
  refine Post.every_single ?_
  rintro _ ⟨reply, rfl⟩
  exact .sent

theorem submitConduct_every (s : Settings) (n : Nat) (t : FileTree) (p : Plan Json) (w : World) :
    (submitConduct s p w).Every (JobDeed s n t) := by
  refine Post.every_single ?_
  rintro _ ⟨reply, rfl⟩
  exact .called (nameLetters_networkCall ⟨"exe".toList, 'c', by decide, rfl⟩ (by decide)
    (by decide))

theorem planConduct_every (s : Settings) (n : Nat) (t : FileTree) (w : World) :
    (planConduct s w).Every (JobDeed s n t) := by
  rintro _ r w' ⟨rfl, -⟩
  simp

theorem Polls.every {transaction : String} {ds : List Deed}
    {r : Except Interruption PollResult} (h : Polls s transaction ds r) :
    ∀ d ∈ ds, JobDeed s n t d := by
  refine h.forall_mem (fun reply => .called ?_) fun leaf reply => .called ?_
  · exact nameLetters_networkCall ⟨"print-tx-tre".toList, 'e', by decide, rfl⟩ (by decide)
      (by decide)
  · exact nameLetters_networkCall ⟨"get-tx-execution-outpu".toList, 't', by decide, rfl⟩
      (by decide) (by decide)

theorem Awaiting.every (s : Settings) (n : Nat) (t : FileTree) (transaction : String) (w : World) :
    (Awaiting s transaction w).Every (JobDeed s n t) := by
  rintro _ _ w' (polls | polls)
  · exact polls.every
  · exact polls.every

theorem Writing.every {p : Path} {bytes : List UInt8} {ds : List Deed}
    {r : Except Interruption Unit} {w' : World} (path : resultPath s n = .ok p)
    (h : Writing p bytes w ds r w') : ∀ d ∈ ds, JobDeed s n w.files d := by
  obtain ⟨root, place, rfl, beside⟩ := exists_root_of_resultPath path
  have wrote : JobDeed s n w.files
      (.wrote (w.files.target ((root.join (resultName n)).extended ".tmp")) bytes) := by
    rw [beside]
    exact .wrote place
  have moved : JobDeed s n w.files
      (.moved (w.files.target ((root.join (resultName n)).extended ".tmp"))
        (w.files.target (root.join (resultName n)))) := by
    rw [beside]
    exact .moved place
  intro d hd
  cases h with
  | unwritten before => exact before.forall_mem (fun _ => .made) d hd
  | beside before =>
    rcases List.mem_append.1 hd with hd | hd
    · exact before.forall_mem (fun _ => .made) d hd
    · rw [List.mem_singleton.1 hd]
      exact wrote
  | placed before there gone job =>
    rcases List.mem_append.1 hd with hd | hd
    · exact before.forall_mem (fun _ => .made) d hd
    · rcases List.mem_cons.1 hd with rfl | hd
      · exact wrote
      · rw [List.mem_singleton.1 hd]
        exact moved

theorem Persisting.every (s : Settings) (n : Nat) (payload : String) (w : World) :
    (Persisting s n payload w).Every (JobDeed s n w.files) := by
  rintro _ _ w' (_ | ⟨path, writing⟩ | ⟨path, writing, -, -⟩)
  · simp
  · exact writing.every path
  · exact writing.every path

/-- A job does nothing but the deeds of a job. -/
theorem stagesCourse_every (s : Settings) (mock : Bool) (n : Nat) (w : World) :
    (stagesCourse s mock n w).Every (JobDeed s n w.files) := by
  have witness : Post.Every (JobDeed s n w.files)
      (if mock then mockConduct w else witnessCourse s n w) := by
    cases mock with
    | true =>
      rintro _ r w' ⟨rfl, -⟩
      simp
    | false =>
      exact (captureConduct_every s n _ w).andThen fun p w₁ _ =>
        (checksumConduct_every s n _ w₁).andThen fun _ w₂ _ => publishConduct_every s n _ p w₂
  refine witness.andThen fun _ w₁ h₁ => ?_
  refine (planConduct_every s n _ w₁).andThen fun p w₂ h₂ => ?_
  refine (submitConduct_every s n _ p w₂).andThen fun transaction w₃ h₃ => ?_
  refine (Awaiting.every s n _ transaction w₃).andThen fun result w₄ h₄ => ?_
  intro ds r w' persist d hd
  refine (Persisting.every s n result.payload w₄ ds r w' persist d hd).congr ?_
  exact h₄.trans (h₃.trans (h₂.trans h₁))

end Every

/-! ### How a job ends -/

/-- The time at which the job in hand was started. -/
def World.started? (w : World) : Option Float :=
  w.job.map Job.startedAt

/-- How the stages of a job end that was started at a time: they move no file and fail, or the
payload of the last poll is in its file and in the record. -/
inductive StagesEnd (s : Settings) (n : Nat) (start : Option Float) : Post Path
  /-- No file was moved. -/
  | unmoved {ds i w'} (still : ∀ d ∈ ds, d.isMove = false) : StagesEnd s n start ds (.error i) w'
  /-- The payload is in its file. -/
  | filed {before polls own root result transaction p w'}
      (verified : Polls s transaction polls (.ok result) ∧ result.verdict = .verified)
      (quiet : actions own = []) (place : s.resultsRoot = .ok root)
      (there : w'.files.readBytes (root.join (resultName n)) =
        .ok (Utf8.ofString result.payload))
      (gone : w'.files.find? (w'.files.target (root.join (besideName n))) = none)
      (record : ∀ j, w'.job = some j → j.verification = some result)
      (time : w'.started? = start) :
      StagesEnd s n start (before ++ (polls ++ own)) (.ok p) w'

/-- Conducts in front of the file: they move none, and leave the time of the job. -/
structure Post.Still {α : Type} (Q : Post α) (w : World) : Prop where
  /-- No file is moved. -/
  still : ∀ ds r w', Q ds r w' → ∀ d ∈ ds, d.isMove = false
  /-- The job in hand was started when it was. -/
  start : ∀ ds x w', Q ds (.ok x) w' → w'.started? = w.started?

section End

variable {α β : Type} {s : Settings} {n : Nat} {w w' : World} {ds : List Deed}

theorem Deed.isMove_of_isOwnFile {d : Deed} (h : d.isOwnFile = false) : d.isMove = false := by
  cases d with
  | moved => cases h
  | _ => rfl

theorem isMove_append {es : List Deed} (h : ∀ d ∈ ds, d.isMove = false)
    (h' : ∀ d ∈ es, d.isMove = false) : ∀ d ∈ ds ++ es, d.isMove = false :=
  fun d hd => (List.mem_append.1 hd).elim (h d) (h' d)

/-- A change of the job in hand that leaves its time. -/
theorem World.started?_of_map {change : Job → Job} (h : w'.job = w.job.map change)
    (same : ∀ j, (change j).startedAt = j.startedAt) : w'.started? = w.started? := by
  rw [started?, started?, h, Option.map_map]
  congr 1
  funext j
  exact same j

theorem Post.still_single {k : Purpose} {asks : Deed → Prop} {gives : Deed → α → World → Prop}
    (asked : ∀ d, asks d → d.purpose? = some k)
    (start : ∀ d x w', gives d x w' → w'.started? = w.started?) :
    (Post.single asks gives).Still w := by
  refine ⟨fun _ _ _ single => single.forall_mem (fun _ => rfl) fun d hd => ?_, ?_⟩
  · exact Deed.isMove_of_isOwnFile (Deed.isOwnFile_of_purpose? (asked d hd))
  · rintro _ x w' (_ | _ | ⟨-, -, answer⟩)
    exact start _ x w' answer

theorem Post.Still.andThen {Q : Post α} {R : α → World → Post β} (h : Q.Still w)
    (h' : ∀ x w₁, (R x w₁).Still w₁) : (Q.andThen w R).Still w := by
  refine ⟨?_, ?_⟩
  · rintro _ _ w' (first | ⟨-, first, -, second⟩)
    · exact h.still _ _ _ first
    · exact isMove_append (h.still _ _ _ first) ((h' _ _).still _ _ _ second)
  · rintro _ x w' (_ | ⟨-, first, -, second⟩)
    exact ((h' _ _).start _ _ _ second).trans (h.start _ _ _ first)

theorem witness_still (s : Settings) (mock : Bool) (n : Int) (w : World) :
    Post.Still (if mock then mockConduct w else witnessCourse s n w) w := by
  cases mock with
  | true =>
    refine ⟨?_, ?_⟩
    · rintro _ r w' ⟨rfl, -⟩
      simp
    · rintro _ x w' ⟨-, -, job⟩
      exact World.started?_of_map job fun _ => rfl
  | false =>
    refine Post.Still.andThen (Post.still_single (k := .capture) ?_ ?_) fun p w₁ =>
      Post.Still.andThen (Post.still_single (k := .checksum) ?_ ?_) fun _ w₂ =>
        Post.still_single (k := .upload) ?_ ?_
    · rintro d ⟨p, reply, asked⟩
      exact asked.purpose?
    · rintro d p w' ⟨⟨-, job⟩, -⟩
      exact World.started?_of_map job fun _ => rfl
    · rintro d ⟨p, reply, asked⟩
      exact asked.purpose?
    · rintro d _ w' ⟨p, reply, said, checksum, -, job⟩
      exact World.started?_of_map job fun _ => rfl
    · rintro d ⟨reply, asked⟩
      exact asked.purpose?
    · rintro d _ w' ⟨url, -, job⟩
      exact World.started?_of_map job fun _ => rfl

theorem planConduct_still (s : Settings) (w : World) : (planConduct s w).Still w := by
  refine ⟨?_, ?_⟩
  · rintro _ r w' ⟨rfl, -⟩
    simp
  · rintro _ p w' ⟨-, made⟩
    exact World.started?_of_map (made p rfl).2 fun _ => rfl

theorem submitConduct_still (s : Settings) (p : Plan Json) (w : World) :
    (submitConduct s p w).Still w := by
  refine Post.still_single (k := .submission) ?_ ?_
  · rintro d ⟨reply, asked⟩
    exact asked.purpose?
  · rintro d transaction w' ⟨-, job⟩
    exact World.started?_of_map job fun _ => rfl

/-- The stages end as what comes behind a conduct without a file. -/
theorem Post.Still.stagesEnd {Q : Post α} {R : α → World → Post Path} {r : Except Interruption Path}
    (h : Q.Still w)
    (h' : ∀ x w₁ es r w', R x w₁ es r w' → StagesEnd s n w₁.started? es r w')
    (course : Q.andThen w R ds r w') : StagesEnd s n w.started? ds r w' := by
  rcases course with first | ⟨-, first, -, second⟩
  · exact .unmoved (h.still _ _ _ first)
  · have ends := h' _ _ _ _ _ second
    rw [h.start _ _ _ first] at ends
    cases ends with
    | unmoved still => exact .unmoved (isMove_append (h.still _ _ _ first) still)
    | filed verified quiet place there gone record time =>
      -- What was done before is one more part in front of the last polls.
      rw [← List.append_assoc]
      exact .filed verified quiet place there gone record time

theorem Writing.isMove {p : Path} {bytes : List UInt8} {i : Interruption}
    (h : Writing p bytes w ds (.error i) w') : ∀ d ∈ ds, d.isMove = false := by
  cases h with
  | unwritten before => exact before.forall_mem fun _ => rfl
  | beside before =>
    refine isMove_append (before.forall_mem fun _ => rfl) fun e he => ?_
    rw [List.mem_singleton.1 he]
    rfl

/-- A payload that was filed is in its file, and nothing is left beside it. -/
theorem Persisting.filed_files {payload : String} {p : Path}
    (h : Persisting s n payload w ds (.ok p) w') (here : w'.files.here = w.files.here) :
    ∃ root, s.resultsRoot = .ok root ∧
      w'.files.readBytes (root.join (resultName n)) = .ok (Utf8.ofString payload) ∧
      w'.files.find? (w'.files.target (root.join (besideName n))) = none := by
  cases h with
  | filed path writing same job =>
    obtain ⟨root, place, rfl, beside⟩ := exists_root_of_resultPath path
    cases writing with
    | placed before there gone _ =>
      rw [beside] at gone
      refine ⟨root, place, ?_, ?_⟩
      · rw [same]
        exact there
      · rw [FileTree.target_congr here, same]
        exact gone (target_ne_of_ne w.files root root (isName_besideName n) (isName_resultName n)
          (besideName_ne_resultName n n))

/-- From the wait on the stages end in one of these ways. -/
theorem closingCourse_end {transaction : String} {r : Except Interruption Path}
    (h : closingCourse s n transaction w ds r w') : StagesEnd s n w.started? ds r w' := by
  rcases h with first | ⟨-, first, earlier, persist⟩
  · cases first with
    | unverified polls =>
      exact .unmoved fun d hd => Deed.isMove_of_isOwnFile (polls.isOwnFile d hd)
  cases first with
  | @verified ds _ w₁ found verdict job =>
    cases r with
    | error i =>
      have quiet := fun d hd => Deed.isMove_of_isOwnFile (found.isOwnFile d hd)
      cases persist with
      | nowhere =>
        rw [List.append_nil]
        exact .unmoved quiet
      | failed path writing => exact .unmoved (isMove_append quiet writing.isMove)
    | ok p =>
      obtain ⟨root, place, there, gone⟩ := persist.filed_files earlier.here_eq
      have own := persist.actions_eq_nil
      cases persist with
      | filed path writing same entry =>
        rw [job, Option.map_map] at entry
        rw [← List.nil_append (_ ++ _)]
        refine .filed ⟨found, verdict⟩ own place there gone (fun j hj => ?_) ?_
        · rw [entry, Option.map_eq_some_iff] at hj
          obtain ⟨j₀, -, rfl⟩ := hj
          rfl
        · exact World.started?_of_map entry fun _ => rfl

/-- The stages end in one of these ways. -/
theorem stagesCourse_end {mock : Bool} {r : Except Interruption Path}
    (h : stagesCourse s mock n w ds r w') : StagesEnd s n w.started? ds r w' := by
  refine (witness_still s mock n w).stagesEnd (fun _ w₁ es r w' rest => ?_) h
  refine (planConduct_still s w₁).stagesEnd (fun p w₂ es r w' rest => ?_) rest
  refine (submitConduct_still s p w₂).stagesEnd (fun transaction w₃ es r w' rest => ?_) rest
  exact closingCourse_end rest

end End

/-! ### The files that a job leaves -/

/-- What a job that succeeds leaves: its last output tells the bytes that are in its file, they are
a text that begins with a brace behind blank characters, and nothing is left beside the file. -/
def Filed (s : Settings) (n : Nat) (ds : List Deed) (t : FileTree) : Prop :=
  ∃ root before c reply after said bytes, s.resultsRoot = .ok root ∧
    ds = before ++ .call c reply :: after ∧ c.purpose? = some .output ∧
    (∀ d ∈ after, d.purpose? ≠ some .output) ∧
    reply.said? = some said ∧ Payload.Tells said.out bytes ∧
    (∃ text rest, Utf8.decode bytes = .ok text ∧ trimStart text = '\x7b' :: rest) ∧
    t.readBytes (root.join (resultName n)) = .ok bytes ∧
    t.find? (t.target (root.join (besideName n))) = none

section Job

variable {s : Settings} {n : Nat} {start : Option Float} {ds : List Deed} {w w' : World}
  {r : Except Interruption Unit}

theorem purpose?_eq_none_of_actions (h : actions ds = []) : ∀ d ∈ ds, d.purpose? = none := by
  intro d hd
  cases purpose : d.purpose? with
  | none => rfl
  | some k =>
    have action := Deed.isAction_of_purpose? purpose
    rw [actions, List.filter_eq_nil_iff] at h
    exact absurd action (h d hd)

theorem ToolReply.exists_of_payload? {reply : ToolReply} {payload : String}
    (h : reply.payload? = some payload) :
    ∃ said, reply.said? = some said ∧ Payload.ofOutput said.out = .ok payload := by
  rw [payload?, Option.bind_eq_some_iff] at h
  obtain ⟨said, told, given⟩ := h
  refine ⟨said, told, ?_⟩
  cases given' : Payload.ofOutput said.out with
  | error f =>
    rw [given'] at given
    cases given
  | ok payload' =>
    rw [given'] at given
    cases given
    rfl

theorem StagesEnd.started?_of_ok {p : Path} (h : StagesEnd s n start ds (.ok p) w') :
    w'.started? = start := by
  cases h with
  | filed _ _ _ _ _ _ time => exact time

/-- Stages that give a file have filed the payload. -/
theorem StagesEnd.filed_of_ok {p : Path} (h : StagesEnd s n start ds (.ok p) w') :
    Filed s n ds w'.files := by
  cases h with
  | @filed before polls own root result _ _ _ verified quiet place there gone =>
    obtain ⟨rounds, verdict⟩ := verified
    obtain ⟨earlier, leaf, reply, rfl, payload, judged⟩ := rounds.exists_last
    obtain ⟨said, told, given⟩ := ToolReply.exists_of_payload? payload
    rw [judged] at verdict
    obtain ⟨rest, brace⟩ := Verdict.exists_brace verdict
    -- An output without a payload gives the empty one, of which the output tells nothing.
    have full : result.payload ≠ "" := by
      intro empty
      rw [empty] at brace
      cases brace
    obtain ⟨tells, decoded⟩ := Payload.tells_of_ofOutput given full
    refine ⟨root, before ++ earlier, outputCall s leaf, reply, own, said, _, place, ?_, rfl,
      fun d hd => ?_, told, tells, ⟨_, rest, decoded, brace⟩, there, gone⟩
    · simp only [List.append_assoc, List.singleton_append]
    · rw [purpose?_eq_none_of_actions quiet d hd]
      exact nofun

/-- A job that gives a result has filed it. -/
theorem filed_of_jobCourse {mock : Bool} (h : jobCourse s mock n w ds (.ok ()) w') :
    Filed s n ds w'.files := by
  rcases jobCourse_cases h with ⟨i, j, failed, -⟩ | ⟨p, w₁, j, course, -, -, -, outside, -⟩
  · cases failed
  · have files : w'.files = w₁.files := congrArg Outside.files outside
    rw [files]
    exact (stagesCourse_end course).filed_of_ok

/-- The end of a job fails only at a time that is not finite. -/
theorem not_isFinite_of_finishConduct {i : Interruption} {x : Float} {w₁ : World} {j : Job}
    (h : finishConduct w₁ ds (.error i) w') (record : w₁.job = some j)
    (start : w₁.started? = some x) : (w'.clock - x).isFinite = false := by
  obtain ⟨-, -, -, unwritten⟩ := h
  have time := unwritten i rfl j record
  rw [World.started?, record, Option.map_some, Option.some.injEq] at start
  rw [start] at time
  exact Bool.eq_false_iff.mpr fun finite => Decimal.truncate?_ne_none finite time

/-- Stages that fail have moved no file. -/
theorem StagesEnd.still_of_error {i : Interruption} (h : StagesEnd s n start ds (.error i) w') :
    ∀ d ∈ ds, d.isMove = false := by
  cases h with
  | unmoved still => exact still

/-- A job that fails in a finite time has moved no file. -/
theorem still_of_jobCourse {mock : Bool} {i : Interruption} {x : Float}
    (h : jobCourse s mock n w ds (.error i) w') (start : w.started? = some x)
    (finite : (w'.clock - x).isFinite = true) : ∀ d ∈ ds, d.isMove = false := by
  rcases jobCourse_cases h with ⟨i', j, -, course, -⟩ | ⟨p, w₁, j, course, record, -, finish⟩
  · exact (stagesCourse_end course).still_of_error
  · have started := (stagesCourse_end course).started?_of_ok.trans start
    rw [not_isFinite_of_finishConduct finish record started] at finite
    cases finite

/-- A job leaves the content of every file with a verification but of its own one, and of that one
too if it moves no file. -/
theorem jobCourse_spares {mock : Bool} {o o' : Outside} (h : jobCourse s mock n w ds r w')
    (files : w.files = o.files) (hs : History o ds o') (named : o.tools.WritesNamed) {m : Nat}
    (other : m ≠ n ∨ ∀ d ∈ ds, d.isMove = false) (root : Path) :
    o'.files.bytesAt (o.files.target (root.join (resultName m))) =
      o.files.bytesAt (o.files.target (root.join (resultName m))) := by
  obtain ⟨r', w₁, -, stages⟩ := exists_stagesCourse h
  have deeds : ∀ d ∈ ds, JobDeed s n o.files d := by
    rw [← files]
    exact stagesCourse_every s mock n w _ _ _ stages
  have writes : ∀ d ∈ ds, d.WritesNamed o.files := hs.writesNamed named
  exact hs.bytesAt_eq fun d hd =>
    (deeds d hd).spares (writes d hd) (other.imp_right fun still => still d hd) root

/-- What a job leaves of the files with verifications, whatever the tools and the storage do, if
the tools write only where a call says.  When it gives a result, its own file holds what the last
output tells; when it fails in a finite time, the content of its own file is what it was; the
content of every other such file always is. -/
theorem runJob_resultFile (s : Settings) (mock : Bool) (bound n : Nat) (w : World)
    (named : w.tools.WritesNamed) :
    ∃ ds, History w.outside ds ((runJob s mock bound n).runIn w).2.outside ∧
      (((runJob s mock bound n).runIn w).1 = .ok () →
        Filed s n ds ((runJob s mock bound n).runIn w).2.files) ∧
      (((runJob s mock bound n).runIn w).1 ≠ .ok () →
        (((runJob s mock bound n).runIn w).2.clock - w.clock).isFinite = true →
          ∀ root, s.resultsRoot = .ok root →
            ((runJob s mock bound n).runIn w).2.files.bytesAt
                (w.files.target (root.join (resultName n))) =
              w.files.bytesAt (w.files.target (root.join (resultName n)))) ∧
      ∀ root, s.resultsRoot = .ok root → ∀ m, m ≠ n →
        ((runJob s mock bound n).runIn w).2.files.bytesAt
            (w.files.target (root.join (resultName m))) =
          w.files.bytesAt (w.files.target (root.join (resultName m))) := by
  obtain ⟨ds, hs, w₀, outside, job, course⟩ := runJob_does s mock bound n w
  have files : w₀.files = w.files := congrArg Outside.files outside
  refine ⟨ds, hs, ?_, ?_, ?_⟩
  · intro success
    rw [success] at course
    exact filed_of_jobCourse course
  · intro failure finite root _
    have started : w₀.started? = some w.clock := by
      rw [World.started?, job]
      rfl
    have still : ∀ d ∈ ds, d.isMove = false := by
      cases result : ((runJob s mock bound n).runIn w).1 with
      | ok x => exact absurd result failure
      | error i =>
        rw [result] at course
        exact still_of_jobCourse course started finite
    exact jobCourse_spares course files hs named (.inr still) root
  · intro root _ m other
    exact jobCourse_spares course files hs named (.inl other) root

end Job

/-! ### A job that succeeds -/

theorem writesNamed_sampleTools : sampleWorld.tools.WritesNamed := by
  intro calls t c e he
  change e ∈ (sampleReply t c).writes at he
  rw [sampleReply] at he
  split at he
  · next a₁ a₂ a₃ a₄ a₅ a₆ a₇ text _ arguments =>
    rw [List.mem_singleton.1 he]
    exact ⟨[a₁, a₂, a₃, a₄, a₅, a₆, a₇], text, [], arguments, rfl⟩
  all_goals cases he

theorem runIn_sampleWorld :
    ((runJob sampleSettings false 1 (5 : Nat)).runIn sampleWorld).1 = .ok () := by
  apply eq_ok_of_toOption
  decide +kernel

theorem runJob_resultFile_sample :
    sampleWorld.tools.WritesNamed ∧ ∃ ds,
      Filed sampleSettings 5 ds
        ((runJob sampleSettings false 1 (5 : Nat)).runIn sampleWorld).2.files := by
  obtain ⟨ds, -, filed, -, -⟩ :=
    runJob_resultFile sampleSettings false 1 5 sampleWorld writesNamed_sampleTools
  exact ⟨writesNamed_sampleTools, ds, filed runIn_sampleWorld⟩

end ProofRelay

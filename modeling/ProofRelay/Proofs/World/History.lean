import ProofRelay.World.Activity

/-!
# Histories

What a run did to everything outside, in order and with what came back.  A *deed* is a question to
the tools, the storage or the chain together with its answer, or a change of the files that the
run makes itself.  A *history* is a list of deeds that leads from one state of the outside to
another, in which every answer is the one that was really given: the tools answer as they do after
the questions before and in the files of that moment.

Log lines, the clock, the request to stop and the job in hand belong to the run itself, so that
they leave no deed.

## Main definitions

* `Outside`, `World.outside` : the part of a world that deeds are about.
* `Deed`, `Deed.Fits`, `Deed.apply` : the deeds, when one is possible, and what it leaves.
* `History` : lists of deeds that lead from one outside to another.
* `Deed.isAction`, `actions` : the deeds that ask something.
* `Outside.after` : what deeds leave.

## Main results

* `History.append`, `History.of_append` : one history after another.
* `History.here_eq`, `History.tools_eq` : what no deed changes.
-/

namespace ProofRelay

/-! ### The outside -/

/-- Whether an entry of the journal is a question. -/
def Event.isQuestion : Event → Bool
  | .call _ | .upload _ | .head => true
  | _ => false

/-- What a run finds outside: the files, the tools, the storage and the chain, and the questions
that they were asked, the latest first. -/
structure Outside where
  /-- The files. -/
  files : FileTree
  /-- The tools. -/
  tools : Tools
  /-- The object storage. -/
  storage : List Upload → Upload → UploadReply
  /-- The chain. -/
  chain : Nat → HeadReply
  /-- The questions. -/
  asked : List Event

/-- The outside of a world. -/
def World.outside (w : World) : Outside :=
  ⟨w.files, w.tools, w.storage, w.chain, w.journal.filter Event.isQuestion⟩

namespace Outside

/-- The calls of tools, the latest first. -/
def calls (o : Outside) : List ToolCall :=
  o.asked.filterMap fun
    | .call c => some c
    | _ => none

/-- The uploads, the latest first. -/
def uploads (o : Outside) : List Upload :=
  o.asked.filterMap fun
    | .upload u => some u
    | _ => none

/-- The count of questions for the head of the chain. -/
def headReads (o : Outside) : Nat :=
  o.asked.countP fun
    | .head => true
    | _ => false

end Outside

@[simp] theorem World.files_outside (w : World) : w.outside.files = w.files := rfl

@[simp] theorem World.tools_outside (w : World) : w.outside.tools = w.tools := rfl

theorem World.calls_outside (w : World) : w.outside.calls = w.calls := by
  simp only [Outside.calls, World.outside, World.calls, List.filterMap_filter]
  congr 1
  funext e
  cases e <;> rfl

theorem World.uploads_outside (w : World) : w.outside.uploads = w.uploads := by
  simp only [Outside.uploads, World.outside, World.uploads, List.filterMap_filter]
  congr 1
  funext e
  cases e <;> rfl

/-! ### Deeds -/

/-- Something that a run did outside, with what came back. -/
inductive Deed where
  /-- A tool was called. -/
  | call (c : ToolCall) (reply : ToolReply)
  /-- A file was sent to the object storage. -/
  | upload (u : Upload) (reply : UploadReply)
  /-- The chain was asked for its head. -/
  | head (reply : HeadReply)
  /-- A directory was made. -/
  | made (l : Location)
  /-- A file was written. -/
  | wrote (l : Location) (bytes : List UInt8)
  /-- A file was moved. -/
  | moved (l m : Location)

namespace FileTree

/-- The permission bits of the file at a location, or of a new one. -/
def modeAt (t : FileTree) (l : Location) : Nat :=
  match t.find? l with
  | some (.file _ mode) => mode
  | _ => fileMode

/-- A tree with the entry at a location moved to another one. -/
def moveEntry (t : FileTree) (l m : Location) : FileTree :=
  match t.find? l with
  | some e => (t.erase l).put m e
  | none => t

/-- Whether a file may be written at a location: no directory is there. -/
def IsFree (t : FileTree) (l : Location) : Prop :=
  ∀ mode, t.find? l ≠ some (.directory mode)

end FileTree

namespace Deed

/-- The files after a deed. -/
def files (t : FileTree) : Deed → FileTree
  | call _ reply => reply.writes.foldl (fun t e => t.put e.1 e.2) t
  | made l => t.put l (.directory FileTree.directoryMode)
  | wrote l bytes => t.put l (.file bytes (t.modeAt l))
  | moved l m => t.moveEntry l m
  | _ => t

/-- The question of a deed. -/
def question : Deed → List Event
  | call c _ => [.call c]
  | upload u _ => [.upload u]
  | head _ => [.head]
  | _ => []

/-- What a deed leaves. -/
def apply (o : Outside) (d : Deed) : Outside :=
  { o with files := d.files o.files, asked := d.question ++ o.asked }

/-- Whether a deed is possible: the answers are the ones that are given there, a directory is made
where nothing is, and files are written where no directory is. -/
def Fits (o : Outside) : Deed → Prop
  | call c reply => reply = o.tools.reply o.calls o.files c
  | upload u reply => reply = o.storage o.uploads u
  | head reply => reply = o.chain o.headReads
  | made l => o.files.find? l = none
  | wrote l _ => o.files.IsFree l
  | moved l m => (∃ bytes mode, o.files.find? l = some (.file bytes mode)) ∧ o.files.IsFree m

/-- Whether a deed asks something of the tools, the storage or the chain. -/
def isAction : Deed → Bool
  | call .. | upload .. | head _ => true
  | _ => false

/-- Whether a deed is a file of the run's own: written or moved. -/
def isOwnFile : Deed → Bool
  | wrote .. | moved .. => true
  | _ => false

end Deed

/-- The deeds of a list that ask something. -/
def actions (ds : List Deed) : List Deed :=
  ds.filter Deed.isAction

@[simp] theorem actions_append (ds es : List Deed) :
    actions (ds ++ es) = actions ds ++ actions es :=
  List.filter_append ..

/-- What deeds leave, one after the other. -/
def Outside.after (o : Outside) (ds : List Deed) : Outside :=
  ds.foldl Deed.apply o

theorem Outside.after_append (o : Outside) (ds es : List Deed) :
    o.after (ds ++ es) = (o.after ds).after es :=
  List.foldl_append

/-! ### Histories -/

/-- Deeds that lead from one outside to another, each of them possible where it stands. -/
def History (o : Outside) : List Deed → Outside → Prop
  | [], o' => o' = o
  | d :: ds, o' => d.Fits o ∧ History (d.apply o) ds o'

namespace History

variable {o o₁ o₂ : Outside} {d : Deed} {ds es : List Deed}

theorem single (h : d.Fits o) : History o [d] (d.apply o) := ⟨h, rfl⟩

/-- One history after another. -/
theorem append (h : History o ds o₁) (h' : History o₁ es o₂) : History o (ds ++ es) o₂ := by
  induction ds generalizing o with
  | nil =>
    cases (h : o₁ = o)
    exact h'
  | cons d ds ih => exact ⟨h.1, ih h.2⟩

/-- What every possible deed keeps, a history keeps. -/
theorem keeps {P : Outside → Prop} (h : History o ds o₁)
    (step : ∀ o, ∀ d ∈ ds, d.Fits o → P o → P (d.apply o)) (start : P o) : P o₁ := by
  induction ds generalizing o with
  | nil =>
    cases (h : o₁ = o)
    exact start
  | cons d ds ih =>
    refine ih h.2 (fun o e he => step o e (List.mem_cons_of_mem d he)) ?_
    exact step o d List.mem_cons_self h.1 start

theorem tools_eq (h : History o ds o₁) : o₁.tools = o.tools :=
  h.keeps (P := fun o' => o'.tools = o.tools) (fun _ _ _ _ h => h) rfl

/-- A history leads to the outside that its deeds leave. -/
theorem eq_after (h : History o ds o₁) : o₁ = o.after ds := by
  induction ds generalizing o with
  | nil => exact h
  | cons d ds ih => exact ih h.2

/-- The two parts of a history are histories. -/
theorem of_append (h : History o (ds ++ es) o₁) :
    History o ds (o.after ds) ∧ History (o.after ds) es o₁ := by
  induction ds generalizing o with
  | nil => exact ⟨rfl, h⟩
  | cons d ds ih =>
    obtain ⟨first, second⟩ := ih h.2
    exact ⟨⟨h.1, first⟩, second⟩

end History

/-- Writing many entries leaves the working directory. -/
theorem FileTree.here_foldl_put (es : List (Location × Entry)) (t : FileTree) :
    (es.foldl (fun t e => t.put e.1 e.2) t).here = t.here := by
  induction es generalizing t with
  | nil => rfl
  | cons e es ih => exact ih (t.put e.1 e.2)

theorem Deed.here_files (t : FileTree) (d : Deed) : (d.files t).here = t.here := by
  cases d with
  | call c reply => exact FileTree.here_foldl_put reply.writes t
  | moved l m =>
    simp only [files, FileTree.moveEntry]
    split <;> rfl
  | _ => rfl

theorem History.here_eq {o o₁ : Outside} {ds : List Deed} (h : History o ds o₁) :
    o₁.files.here = o.files.here :=
  h.keeps (P := fun o' => o'.files.here = o.files.here)
    (fun o' d _ _ ih => (d.here_files o'.files).trans ih) rfl

end ProofRelay

import Mathlib.Data.List.Forall2
import ProofRelay.Proofs.Job.Identity
import ProofRelay.Proofs.Text.Utf8
import ProofRelay.Proofs.World.Faults
import ProofRelay.Shell.Launch

/-!
# How calls of programs end

A program that is asked for takes a course of its own: it cannot be started, or it ends with a
status after it has printed bytes on two channels.  A call that has to succeed gives what was
printed exactly if the status is zero, and is otherwise a failed tool that carries the whole call.

There are two conditions.  A program is given texts that end at no null character and have bytes, so
that a call with another part never comes to it; and what it prints has to be text.  Where one of
the two does not hold, what ends the call is a bare defect instead of a failed tool, whatever the
status.

## Main definitions

* `IsPassed` : the texts that programs are given.
* `Launcher.Starts` : what a call starts.
* `Course.IsLegible` : courses on which only text is printed.
* `Launcher.outcome` : how a call ends.
* `Launcher.Discipline` : how calls end on every course.

## Main results

* `Launcher.start_eq_ok_iff` : which calls start a program, and with which texts.
* `Launcher.runTool_discipline` : how the calls of programs of any behaviour end.
-/

namespace ProofRelay.Shell

open Activity ProofRelay.Text

/-- Values give results exactly if each of them gives its own. -/
theorem mapM_eq_ok_iff {ε α β : Type} {f : α → Except ε β} {xs : List α} {ys : List β} :
    xs.mapM f = .ok ys ↔ List.Forall₂ (fun x y => f x = .ok y) xs ys := by
  induction xs generalizing ys with
  | nil =>
    rw [List.mapM_nil, List.forall₂_nil_left_iff]
    constructor
    · rintro ⟨⟩
      rfl
    · rintro rfl
      rfl
  | cons x xs ih =>
    rw [List.mapM_cons]
    simp only [bind_eq_ok_iff, ih, List.forall₂_cons_left_iff]
    constructor
    · rintro ⟨y, head, ys, tail, ⟨⟩⟩
      exact ⟨y, ys, head, tail, rfl⟩
    · rintro ⟨y, ys, head, tail, rfl⟩
      exact ⟨y, head, ys, tail, rfl⟩

/-- Values that are taken through two passes are taken through both one by one. -/
theorem mapM_mapM_eq_ok_iff {ε α β γ : Type} {f : α → Except ε β} {g : β → Except ε γ}
    {xs : List α} {zs : List γ} :
    (∃ ys, xs.mapM f = .ok ys ∧ ys.mapM g = .ok zs) ↔
      List.Forall₂ (fun x z => ∃ y, f x = .ok y ∧ g y = .ok z) xs zs := by
  simp only [mapM_eq_ok_iff]
  induction xs generalizing zs with
  | nil => simp only [List.forall₂_nil_left_iff, exists_eq_left]
  | cons x xs ih =>
    simp only [List.forall₂_cons_left_iff, ← ih]
    constructor
    · rintro ⟨_, ⟨y, ys, head, tail, rfl⟩, passed⟩
      obtain ⟨z, zs, head', tail', rfl⟩ := List.forall₂_cons_left_iff.mp passed
      exact ⟨z, zs, ⟨y, head, head'⟩, ⟨ys, tail, tail'⟩, rfl⟩
    · rintro ⟨z, zs, ⟨y, head, head'⟩, ⟨ys, tail, tail'⟩, rfl⟩
      exact ⟨y :: ys, ⟨y, ys, head, tail, rfl⟩, .cons head' tail'⟩

/-! ### Texts of a call -/

/-- Whether a value is a text with bytes: no code point of it is lost. -/
structure HasBytes (v : Json) (s : String) : Prop where
  /-- The value is the text. -/
  text : v.text? = some s
  /-- Every half of a surrogate pair stands for a byte. -/
  kept : ∀ ps, v.points? = some ps → ∀ n ∈ ps, Launcher.isLost n = false

/-- Whether a value is a text that programs can be given. -/
structure IsPassed (v : Json) (s : String) : Prop extends HasBytes v s where
  /-- No character of it ends a text. -/
  unended : '\x00' ∉ s.toList

/-- A value is at most one text. -/
theorem HasBytes.unique {v : Json} {s t : String} (h : HasBytes v s) (other : HasBytes v t) :
    s = t :=
  Option.some.inj (h.text.symm.trans other.text)

/-- Whether a variable is one that programs can be given. -/
structure IsPassedVariable (p : String × Json) (q : String × String) : Prop where
  /-- The name stays as it is. -/
  name : q.1 = p.1
  /-- Every half of a surrogate pair in the name stands for a byte. -/
  kept : ∀ n ∈ pointsOfText p.1, Launcher.isLost n = false
  /-- The name does not run into the value. -/
  unassigned : '=' ∉ p.1.toList
  /-- No character of the name ends a text. -/
  unended : '\x00' ∉ p.1.toList
  /-- The value is a text that programs can be given. -/
  value : IsPassed p.2 q.2

namespace Launcher

theorem withBytes_eq_ok_iff {ps : List Nat} {u : Unit} :
    withBytes ps = .ok u ↔ ∀ n ∈ ps, isLost n = false := by
  rw [withBytes]
  split
  · next lost =>
    obtain ⟨n, present, lost⟩ := List.any_eq_true.mp lost
    exact ⟨nofun, fun kept => absurd lost (by simp [kept n present])⟩
  · next kept => exact ⟨fun _ => by simpa using kept, fun _ => rfl⟩

theorem unended_eq_ok_iff {s t : String} :
    unended s = .ok t ↔ t = s ∧ '\x00' ∉ s.toList := by
  rw [unended]
  split
  · next ended => exact ⟨nofun, fun h => absurd (List.contains_iff_mem.mp ended) h.2⟩
  · next free =>
    rw [List.contains_iff_mem] at free
    rw [Except.ok.injEq, eq_comm]
    exact (and_iff_left free).symm

theorem byteText_eq_ok_iff {v : Json} {s : String} : byteText v = .ok s ↔ HasBytes v s := by
  have points : ∀ t, v.text? = some t → ∃ ps, v.points? = some ps := by
    intro t ht
    cases v <;> first | exact ⟨_, rfl⟩ | cases ht
  rw [byteText, Json.pathText]
  cases text : v.text? with
  | none => exact ⟨nofun, fun h => by cases text.symm.trans h.text⟩
  | some t =>
    obtain ⟨ps, hps⟩ := points t text
    rw [hps]
    simp only [bind_eq_ok_iff, withBytes_eq_ok_iff]
    constructor
    · rintro ⟨_, ⟨⟩, _, kept, ⟨⟩⟩
      exact ⟨text, fun _ h => by cases hps.symm.trans h; exact kept⟩
    · rintro ⟨same, kept⟩
      obtain rfl : t = s := Option.some.inj (text.symm.trans same)
      exact ⟨t, rfl, (), kept ps hps, rfl⟩

theorem systemText_eq_ok_iff {v : Json} {s : String} : systemText v = .ok s ↔ IsPassed v s := by
  simp only [systemText, bind_eq_ok_iff, byteText_eq_ok_iff, unended_eq_ok_iff]
  constructor
  · rintro ⟨t, bytes, rfl, free⟩
    exact ⟨bytes, free⟩
  · rintro ⟨bytes, free⟩
    exact ⟨s, bytes, rfl, free⟩

theorem variableOf_eq_ok_iff {p : String × Json} {q : String × String} :
    variableOf p = .ok q ↔ (∀ n ∈ pointsOfText p.1, isLost n = false) ∧ '=' ∉ p.1.toList ∧
      q.1 = p.1 ∧ HasBytes p.2 q.2 := by
  rw [variableOf]
  simp only [bind_eq_ok_iff, withBytes_eq_ok_iff]
  split
  · next assigned =>
    rw [List.contains_iff_mem] at assigned
    constructor
    · rintro ⟨_, -, _, ⟨⟩, -⟩
    · rintro ⟨-, free, -⟩
      exact absurd assigned free
  · next free =>
    rw [List.contains_iff_mem] at free
    simp only [bind_eq_ok_iff, byteText_eq_ok_iff]
    constructor
    · rintro ⟨_, kept, value, bytes, ⟨⟩⟩
      exact ⟨kept, free, rfl, bytes⟩
    · rintro ⟨kept, -, name, bytes⟩
      exact ⟨(), kept, q.2, bytes, by rw [← name]; rfl⟩

theorem systemVariable_eq_ok_iff {p q : String × String} :
    systemVariable p = .ok q ↔ q = p ∧ '\x00' ∉ p.1.toList ∧ '\x00' ∉ p.2.toList := by
  simp only [systemVariable, bind_eq_ok_iff, unended_eq_ok_iff]
  constructor
  · rintro ⟨_, ⟨rfl, name⟩, _, ⟨rfl, value⟩, ⟨⟩⟩
    exact ⟨rfl, name, value⟩
  · rintro ⟨rfl, name, value⟩
    exact ⟨q.1, ⟨rfl, name⟩, q.2, ⟨rfl, value⟩, rfl⟩

/-- A variable is first read, and looked at as a whole once all are read. -/
theorem isPassedVariable_iff {p : String × Json} {q : String × String} :
    IsPassedVariable p q ↔ ∃ r, variableOf p = .ok r ∧ systemVariable r = .ok q := by
  simp only [variableOf_eq_ok_iff, systemVariable_eq_ok_iff]
  constructor
  · rintro ⟨name, kept, unassigned, unended, value⟩
    exact ⟨q, ⟨kept, unassigned, name, value.toHasBytes⟩, rfl, name ▸ unended, value.unended⟩
  · rintro ⟨_, ⟨kept, unassigned, name, bytes⟩, rfl, unended, ended⟩
    exact ⟨name, kept, unassigned, name ▸ unended, bytes, ended⟩

/-! ### Starting programs -/

/-- What a call starts: its own program with its own arguments and variables. -/
structure Starts (l : Launcher) (c : ToolCall) (s : Start) : Prop where
  /-- The program. -/
  command : IsPassed c.command s.command
  /-- The program and the arguments, in their order. -/
  line : List.Forall₂ IsPassed c.line s.line
  /-- The variables, in their order. -/
  environment : List.Forall₂ IsPassedVariable (l.callVariables c) s.environment
  /-- The directory of the run. -/
  here : l.directory = .null → s.directory = none
  /-- Another directory. -/
  elsewhere : l.directory ≠ .null → ∃ d, s.directory = some d ∧ IsPassed l.directory d

/-- A call starts a program exactly if the program can be given all parts of the call, and then it
is given them as they are. -/
theorem start_eq_ok_iff {l : Launcher} {c : ToolCall} {s : Start} :
    l.start c = .ok s ↔ l.Starts c s := by
  have variables_iff : ∀ qs, (∃ rs, l.environment c = .ok rs ∧ rs.mapM systemVariable = .ok qs) ↔
      List.Forall₂ IsPassedVariable (l.callVariables c) qs := by
    intro qs
    rw [environment, mapM_mapM_eq_ok_iff]
    simp only [← isPassedVariable_iff]
  have directory_iff : ∀ d, l.directoryText = .ok d ↔ (l.directory = .null → d = none) ∧
      (l.directory ≠ .null → ∃ e, d = some e ∧ IsPassed l.directory e) := by
    intro d
    rw [directoryText]
    split
    · next here =>
      rw [here, Except.ok.injEq, eq_comm]
      exact ⟨fun h => ⟨fun _ => h, fun no => absurd rfl no⟩, fun h => h.1 rfl⟩
    · next elsewhere =>
      simp only [bind_eq_ok_iff, systemText_eq_ok_iff]
      constructor
      · rintro ⟨e, passed, ⟨⟩⟩
        exact ⟨fun here => absurd here elsewhere, fun _ => ⟨e, rfl, passed⟩⟩
      · rintro ⟨-, other⟩
        obtain ⟨e, rfl, passed⟩ := other elsewhere
        exact ⟨e, passed, rfl⟩
  have texts_iff : ∀ vs ts, List.mapM systemText vs = .ok ts ↔ List.Forall₂ IsPassed vs ts := by
    intro vs ts
    simp only [mapM_eq_ok_iff, systemText_eq_ok_iff]
  simp only [start, bind_eq_ok_iff, systemText_eq_ok_iff, texts_iff, directory_iff]
  constructor
  · rintro ⟨_, -, rs, read, command, isCommand, arguments, areArguments, qs, passed, d, directory,
      ⟨⟩⟩
    exact ⟨isCommand, .cons isCommand areArguments, (variables_iff qs).mp ⟨rs, read, passed⟩,
      directory.1, directory.2⟩
  · rintro ⟨isCommand, line, environment, here, elsewhere⟩
    obtain ⟨rs, read, passed⟩ := (variables_iff _).mpr environment
    obtain ⟨command, arguments, isCommand', areArguments, split⟩ :=
      List.forall₂_cons_left_iff.mp line
    obtain rfl := isCommand.unique isCommand'.toHasBytes
    have named : c.command.pathText = .ok s.command := by
      rw [Json.pathText, isCommand.text]
    refine ⟨s.command, named, rs, read, s.command, isCommand, arguments, areArguments,
      s.environment, passed, s.directory, ⟨here, elsewhere⟩, ?_⟩
    rw [← split]
    rfl

/-- Whether a fault says that a part of a call cannot be given to a program: it is no text, or has a
character that it must not have, or a half of a surrogate pair that is lost. -/
def IsMisfit (f : Fault) : Prop :=
  ∃ kind ∈ [Defect.mismatch, .value, .encoding], ∃ message, f = .defect kind message

theorem throws_withBytes {ps : List Nat} : Throws IsMisfit (withBytes ps) := by
  rw [withBytes]
  split
  · exact .error ⟨.encoding, by decide, _, rfl⟩
  · exact .ok _

theorem throws_unended {s : String} : Throws IsMisfit (unended s) := by
  rw [unended]
  split
  · exact .error ⟨.value, by decide, _, rfl⟩
  · exact .ok _

theorem throws_pathText {v : Json} : Throws IsMisfit v.pathText := by
  rw [Json.pathText]
  split
  · exact .ok _
  · exact .error ⟨.mismatch, by decide, _, rfl⟩

theorem throws_byteText {v : Json} : Throws IsMisfit (byteText v) :=
  .bind throws_pathText fun _ => .bind throws_withBytes fun _ => .ok _

theorem throws_systemText {v : Json} : Throws IsMisfit (systemText v) :=
  .bind throws_byteText fun _ => throws_unended

theorem throws_variableOf {p : String × Json} : Throws IsMisfit (variableOf p) := by
  refine .bind throws_withBytes fun _ => ?_
  split
  · exact .error ⟨.value, by decide, _, rfl⟩
  · exact .bind throws_byteText fun _ => .ok _

theorem throws_systemVariable {p : String × String} : Throws IsMisfit (systemVariable p) :=
  .bind throws_unended fun _ => .bind throws_unended fun _ => .ok _

theorem throws_start {l : Launcher} {c : ToolCall} : Throws IsMisfit (l.start c) := by
  refine .bind throws_pathText fun _ => .bind (Throws.mapM (fun _ => throws_variableOf) _) fun _ =>
    .bind throws_systemText fun _ => .bind (Throws.mapM (fun _ => throws_systemText) _) fun _ =>
      .bind (Throws.mapM (fun _ => throws_systemVariable) _) fun _ => .bind ?_ fun _ => .ok _
  rw [directoryText]
  split
  · exact .ok _
  · exact .bind throws_systemText fun _ => .ok _

end Launcher

/-! ### Courses -/

/-- Whether bytes are a text. -/
def IsText (bytes : List UInt8) : Prop :=
  ∃ s, bytes = Utf8.encode s

/-- Whether only text is printed on a course. -/
def Course.IsLegible : Course → Prop
  | .refused _ => True
  | .ended _ out err => IsText out ∧ IsText err

/-- A text as it is read from a channel: every end of a line is a line feed. -/
def channelText (s : List Char) : String :=
  String.ofList (FileTree.plainLines s)

theorem printedText_encode (s : List Char) : printedText (Utf8.encode s) = .ok (channelText s) := by
  rw [printedText, Utf8.decode_eq_ok_iff.mpr rfl]
  rfl

theorem exists_of_not_isText {bytes : List UInt8} (h : ¬ IsText bytes) :
    ∃ message, printedText bytes = .error (.defect .bytes message) := by
  rw [printedText]
  cases decoded : Utf8.decode bytes with
  | ok s => exact absurd ⟨s, Utf8.decode_eq_ok_iff.mp decoded⟩ h
  | error e => exact ⟨_, rfl⟩

/-- A course with other bytes ends a call with a bare defect. -/
theorem Course.exists_garbled (status : Int) {out err : List UInt8}
    (h : ¬ (IsText out ∧ IsText err)) :
    ∃ message, (Course.ended status out err).ending = .garbled (.defect .bytes message) := by
  rw [Course.ending]
  by_cases text : IsText out
  · obtain ⟨s, rfl⟩ := text
    obtain ⟨message, garbled⟩ := exists_of_not_isText fun text' => h ⟨⟨s, rfl⟩, text'⟩
    exact ⟨message, by rw [printedText_encode, garbled]⟩
  · obtain ⟨message, garbled⟩ := exists_of_not_isText text
    exact ⟨message, by rw [garbled]⟩

theorem Course.ending_encode (status : Int) (out err : List Char) :
    (Course.ended status (Utf8.encode out) (Utf8.encode err)).ending =
      .exited status (channelText out) (channelText err) := by
  rw [Course.ending, printedText_encode, printedText_encode]

/-! ### The end of a call -/

namespace Launcher

/-- How a call ends whose program behaves in some way. -/
def outcome (l : Launcher) (behaviour : List ToolCall → FileTree → Start → Performance)
    (c : ToolCall) (w : World) : Except Interruption ToolOutput :=
  ((runTool c).runIn { w with tools := l.programs behaviour }).1

/-- The failed tool that a call can end with, which carries the program and its arguments. -/
def failedTool (c : ToolCall) (message : String) (status : Option Int) (out err : String) :
    Interruption :=
  .fault (.stage (.ofTool c.line message status out err))

variable {l : Launcher} {behaviour : List ToolCall → FileTree → Start → Performance}
  {c : ToolCall} {w : World}

/-- A call ends with what is concluded from the reply that it gets. -/
theorem outcome_of_reply {ending : ToolEnding}
    (h : ((l.programs behaviour).reply w.calls w.files c).ending = ending) :
    ∃ v, l.outcome behaviour c w = ((concludeCall c true ending).runIn v).1 := by
  rw [outcome, runTool, runIn_bind_ok (runIn_get _)]
  change ∃ v, ((note (.log .debug "runner" ("exec: " ++ quotedLine c)) >>= fun _ =>
    callTool c >>= concludeCall c true).runIn _).1 = _
  rw [runIn_bind_ok (runIn_note _ _), runIn_bind_ok (runIn_callTool _ _)]
  subst h
  exact ⟨_, rfl⟩

/-- A call that starts no program ends with the fault of its parts. -/
theorem outcome_of_start_error {f : Fault} (h : l.start c = .error f) :
    l.outcome behaviour c w = .error (.fault f) := by
  have ending : ((l.programs behaviour).reply w.calls w.files c).ending = .garbled f := by
    rw [programs]
    dsimp only
    rw [h]
  obtain ⟨v, same⟩ := outcome_of_reply ending
  exact same

variable (behaviour w) in
/-- A call that starts a program ends with what is concluded from its course. -/
theorem outcome_of_starts {s : Start} (h : l.Starts c s) :
    ∃ v, l.outcome behaviour c w =
      ((concludeCall c true (behaviour w.calls w.files s).course.ending).runIn v).1 := by
  refine outcome_of_reply ?_
  rw [programs]
  dsimp only
  rw [start_eq_ok_iff.mpr h]
  rfl

theorem outcome_of_refused {s : Start} {reason : String} (h : l.Starts c s)
    (course : (behaviour w.calls w.files s).course = .refused reason) :
    l.outcome behaviour c w = .error (failedTool c
      ("could not launch " ++ c.command.shown ++ ": " ++ reason) none "" "") := by
  obtain ⟨v, same⟩ := outcome_of_starts behaviour w h
  rw [same, course]
  rfl

theorem outcome_of_ended {s : Start} {status : Int} {out err : List Char} (h : l.Starts c s)
    (course : (behaviour w.calls w.files s).course =
      .ended status (Utf8.encode out) (Utf8.encode err)) :
    l.outcome behaviour c w =
      if status = 0 then .ok ⟨channelText out, channelText err⟩
      else .error (failedTool c (c.command.shown ++ " exited with status " ++ toString status)
        (some status) (channelText out) (channelText err)) := by
  obtain ⟨v, same⟩ := outcome_of_starts behaviour w h
  rw [same, course, Course.ending_encode, concludeCall, logCall, if_pos rfl, logDebug, log,
    runIn_bind_ok (runIn_note _ _)]
  split <;> rfl

theorem outcome_of_illegible {s : Start} (h : l.Starts c s)
    (illegible : ¬ (behaviour w.calls w.files s).course.IsLegible) :
    ∃ message, l.outcome behaviour c w = .error (.fault (.defect .bytes message)) := by
  obtain ⟨v, same⟩ := outcome_of_starts behaviour w h
  cases course : (behaviour w.calls w.files s).course with
  | refused reason => exact absurd (course ▸ trivial) illegible
  | ended status out err =>
    rw [course] at illegible same
    obtain ⟨message, garbled⟩ := Course.exists_garbled status illegible
    rw [garbled] at same
    exact ⟨message, same⟩

/-- How the calls of programs end. -/
structure Discipline (l : Launcher) (behaviour : List ToolCall → FileTree → Start → Performance)
    (c : ToolCall) (w : World) : Prop where
  /-- A call gives what its program printed exactly if the program ended with zero and printed only
  text. -/
  gives : ∀ said, l.outcome behaviour c w = .ok said ↔ ∃ s out err, l.Starts c s ∧
    (behaviour w.calls w.files s).course = .ended 0 (Utf8.encode out) (Utf8.encode err) ∧
      said = ⟨channelText out, channelText err⟩
  /-- A program that cannot be started is a failed tool without a status. -/
  unstarted : ∀ s reason, l.Starts c s →
    (behaviour w.calls w.files s).course = .refused reason →
      l.outcome behaviour c w = .error (failedTool c
        ("could not launch " ++ c.command.shown ++ ": " ++ reason) none "" "")
  /-- A program that ends with another status is a failed tool with the status and all that the
  program printed. -/
  failed : ∀ s status out err, l.Starts c s → status ≠ 0 →
    (behaviour w.calls w.files s).course =
      .ended status (Utf8.encode out) (Utf8.encode err) →
        l.outcome behaviour c w = .error (failedTool c
          (c.command.shown ++ " exited with status " ++ toString status) (some status)
            (channelText out) (channelText err))
  /-- A call that gives nothing is a failed tool exactly if a program was asked for and printed only
  text. -/
  carries : ∀ i, l.outcome behaviour c w = .error i →
    ((∃ message status out err, i = failedTool c message status out err) ↔
      ∃ s, l.Starts c s ∧ (behaviour w.calls w.files s).course.IsLegible)
  /-- A call with a part that programs cannot be given ends with a bare defect. -/
  misfit : (∀ s, ¬ l.Starts c s) →
    ∃ f, IsMisfit f ∧ l.outcome behaviour c w = .error (.fault f)
  /-- A program that prints something else than text ends its call with a bare defect, whatever its
  status. -/
  garbled : ∀ s, l.Starts c s → ¬ (behaviour w.calls w.files s).course.IsLegible →
    ∃ message, l.outcome behaviour c w = .error (.fault (.defect .bytes message))

theorem ne_failedTool {i : Interruption} {kind : Defect} {text message : String}
    {status : Option Int} {out err : String} (h : i = .fault (.defect kind text)) :
    i ≠ failedTool c message status out err := by
  rintro rfl
  cases h

/-- A call starts a program, or ends with the fault of its parts. -/
theorem starts_or_misfit (l : Launcher)
    (behaviour : List ToolCall → FileTree → Start → Performance) (c : ToolCall) (w : World) :
    (∃ s, l.Starts c s) ∨
      (∀ s, ¬ l.Starts c s) ∧ ∃ f, IsMisfit f ∧ l.outcome behaviour c w = .error (.fault f) := by
  cases started : l.start c with
  | error f =>
    refine .inr ⟨fun s starts => ?_, f, throws_start f started, outcome_of_start_error started⟩
    rw [start_eq_ok_iff.mpr starts] at started
    cases started
  | ok s => exact .inl ⟨s, start_eq_ok_iff.mp started⟩

/-- A call whose program prints only text gives something or is a failed tool. -/
theorem outcome_of_isLegible {s : Start} (h : l.Starts c s)
    (legible : (behaviour w.calls w.files s).course.IsLegible) :
    (∃ out err, (behaviour w.calls w.files s).course =
        .ended 0 (Utf8.encode out) (Utf8.encode err) ∧
      l.outcome behaviour c w = .ok ⟨channelText out, channelText err⟩) ∨
    ∃ message status out err,
      l.outcome behaviour c w = .error (failedTool c message status out err) := by
  cases course : (behaviour w.calls w.files s).course with
  | refused reason => exact .inr ⟨_, _, _, _, outcome_of_refused h course⟩
  | ended status out err =>
    rw [course] at legible
    obtain ⟨⟨out, rfl⟩, err, rfl⟩ := legible
    have ended := outcome_of_ended h course
    by_cases zero : status = 0
    · subst zero
      exact .inl ⟨out, err, rfl, ended⟩
    · rw [if_neg zero] at ended
      exact .inr ⟨_, _, _, _, ended⟩

/-- The calls of programs of any behaviour give what was printed, fail as tools with the whole call,
or end with a bare defect, and which of them happens is told by the parts of the call and the course
of the program. -/
theorem runTool_discipline (l : Launcher)
    (behaviour : List ToolCall → FileTree → Start → Performance) (c : ToolCall) (w : World) :
    l.Discipline behaviour c w where
  gives said := by
    constructor
    · intro ended
      rcases starts_or_misfit l behaviour c w with ⟨s, starts⟩ | ⟨-, f, -, misfit⟩
      · by_cases legible : (behaviour w.calls w.files s).course.IsLegible
        · rcases outcome_of_isLegible starts legible with
            ⟨out, err, course, given⟩ | ⟨_, _, _, _, bad⟩
          · exact ⟨s, out, err, starts, course, Except.ok.inj (ended.symm.trans given)⟩
          · cases ended.symm.trans bad
        · obtain ⟨_, bad⟩ := outcome_of_illegible starts legible
          cases ended.symm.trans bad
      · cases ended.symm.trans misfit
    · rintro ⟨s, out, err, starts, course, rfl⟩
      exact outcome_of_ended starts course
  unstarted s reason starts course := outcome_of_refused starts course
  failed s status out err starts nonzero course := by
    rw [outcome_of_ended starts course, if_neg nonzero]
  carries i ended := by
    constructor
    · rintro ⟨message, status, out, err, failed⟩
      rcases starts_or_misfit l behaviour c w with ⟨s, starts⟩ | ⟨-, f, ⟨_, -, _, rfl⟩, misfit⟩
      · refine ⟨s, starts, by_contra fun illegible => ?_⟩
        obtain ⟨_, bad⟩ := outcome_of_illegible starts illegible
        exact ne_failedTool (Except.error.inj (ended.symm.trans bad)) failed
      · exact absurd failed (ne_failedTool (Except.error.inj (ended.symm.trans misfit)))
    · rintro ⟨s, starts, legible⟩
      rcases outcome_of_isLegible starts legible with ⟨_, _, -, given⟩ | ⟨_, _, _, _, bad⟩
      · cases ended.symm.trans given
      · exact ⟨_, _, _, _, Except.error.inj (ended.symm.trans bad)⟩
  misfit none := by
    rcases starts_or_misfit l behaviour c w with ⟨s, starts⟩ | ⟨-, misfit⟩
    · exact absurd starts (none s)
    · exact misfit
  garbled s starts illegible := outcome_of_illegible starts illegible

/-! ### A call that comes to no program -/

/-- A launcher with an empty environment in the directory of the run. -/
def bareLauncher : Launcher := ⟨[], [], .null⟩

/-- A program that ends with zero at once and prints nothing. -/
def silentProgram : Performance := ⟨0, [], false, false, .ended 0 [] []⟩

/-- A call with a null character in an argument. -/
def nullCall : ToolCall := ⟨.str "/bin/sh", [.str "-c", .str "echo x", .str "a\x00b"], none⟩

/-- A call whose parts are texts need not end with what was printed or a failed tool: a null
character in an argument ends it with a bare defect. -/
theorem null_argument_escapes :
    ¬ ∀ (l : Launcher) (behaviour : List ToolCall → FileTree → Start → Performance) (c : ToolCall)
      (w : World), (∀ v ∈ c.line, v.text? ≠ none) →
        (∃ said, l.outcome behaviour c w = .ok said) ∨
          ∃ message status out err,
            l.outcome behaviour c w = .error (failedTool c message status out err) := by
  intro settled
  have ended : bareLauncher.outcome (fun _ _ _ => silentProgram) nullCall sampleWorld =
      .error (.fault (.value "embedded null byte")) :=
    outcome_of_start_error (by decide +kernel)
  have texts : ∀ v ∈ nullCall.line, v.text? ≠ none := by decide
  rcases settled bareLauncher (fun _ _ _ => silentProgram) nullCall sampleWorld texts with
    ⟨_, given⟩ | ⟨_, _, _, _, failed⟩
  · cases ended.symm.trans given
  · exact ne_failedTool rfl (Except.error.inj (ended.symm.trans failed))

end Launcher

end ProofRelay.Shell

import ProofRelay.Proofs.CommandLine.Result
import ProofRelay.Proofs.Poll.Schedule
import ProofRelay.Proofs.Settings.Legible

/-!
# Settings that cannot be used

Settings are refused in the run's own words, as a setting that is missing or not usable, when the
numbers of the delay schedule make none.  Nothing else that may be wrong with them is told in this
way.  A file that is no text, a section that is no object, a number that is none: what works with
these meets a value that it cannot work with, and its fault is bare.  It passes the command line,
which answers refused settings only, and ends the command without an exit status.

So the situations are told apart in which settings are given or refused, and all others: what files
and variables hold decides, whatever the order is in which the settings are looked up.  The steps of
loading come one after the other, and the first that cannot be done ends it; since each has bare
faults only, except for the check of the schedule, a result or a refusal shows that every step in
front of the check was done.

Documents are taken to be nested no deeper than the system that reads them can go.

## Main definitions

* `Settings.IsAnswered` : a value, or a refusal in the run's own words.
* `Json.WritesNumber`, `Json.WritesWhole` : the numbers that values write.
* `Settings.HasSchedule` : the schedule that a section writes.
* `Settings.IsReadable` : the documents from which settings are read or refused.
* `Settings.IsUsable` : the situations in which settings are loaded or refused.

## Main results

* `Settings.isAnswered_ofFields` : which documents are readable.
* `Settings.load_answers` : when settings are loaded or refused, and what a command does otherwise.
-/

namespace ProofRelay.Settings

open Fault Activity CommandLine

/-! ### Answers -/

section Answers

variable {α β : Type} {x : Except Fault α} {g : α → Except Fault β}

/-- Whether there is a value, or a refusal in the run's own words. -/
def IsAnswered (x : Except Fault α) : Prop :=
  (∃ y, x = .ok y) ∨ ∃ message, x = .error (.setting message)

theorem IsAnswered.ok (y : α) : IsAnswered (.ok y) := .inl ⟨y, rfl⟩

/-- A step with bare faults was done when there is an answer behind it. -/
theorem IsAnswered.of_bind (h : IsAnswered (x >>= g)) (bare : Throws IsBare x) :
    ∃ y, x = .ok y ∧ IsAnswered (g y) := by
  cases x with
  | ok y => exact ⟨y, rfl, h⟩
  | error f =>
    obtain ⟨y, found⟩ | ⟨message, found⟩ := h
    · cases found
    · cases found
      cases bare _ rfl

end Answers

end Settings

/-! ### Numbers that values write -/

namespace Json

open ProofRelay.Decimal

/-- The numbers that values write. -/
inductive WritesNumber : Json → Float → Prop
  /-- A truth value is one or zero. -/
  | bool (b : Bool) : WritesNumber (.bool b) (if b then 1 else 0)
  /-- A whole number that is in the range. -/
  | int {n : Int} {x : Float} (inRange : ofInt? n = some x) : WritesNumber (.int n) x
  /-- A number. -/
  | float (x : Float) : WritesNumber (.float x) x
  /-- A text in which a number is written. -/
  | str {s : String} {x : Float} (read : readFloat? s = some x) : WritesNumber (.str s) x

/-- The whole numbers that values write. -/
inductive WritesWhole : Json → Int → Prop
  /-- A truth value is one or zero. -/
  | bool (b : Bool) : WritesWhole (.bool b) (if b then 1 else 0)
  /-- A whole number. -/
  | int (n : Int) : WritesWhole (.int n) n
  /-- The integer part of a finite number. -/
  | float {x : Float} {n : Int} (finite : truncate? x = some n) : WritesWhole (.float x) n
  /-- A text in which a whole number is written. -/
  | str {s : String} {n : Int} (read : readInt s = .ok n) : WritesWhole (.str s) n

variable {v : Json}

theorem toFloat_eq_ok_iff {x : Float} : v.toFloat = .ok x ↔ v.WritesNumber x := by
  constructor
  · intro h
    cases v with
    | bool b => cases h; exact .bool b
    | int n =>
      rw [toFloat] at h
      split at h
      · next inRange => cases h; exact .int inRange
      · cases h
    | float y => cases h; exact .float _
    | str s =>
      rw [toFloat, floatOfText] at h
      split at h
      · next read => cases h; exact .str read
      · cases h
    | _ => cases h
  · rintro (_ | inRange | _ | read)
    · rfl
    · rw [toFloat, inRange]
    · rfl
    · rw [toFloat, floatOfText, read]

theorem toInt_eq_ok_iff {n : Int} : v.toInt = .ok n ↔ v.WritesWhole n := by
  constructor
  · intro h
    cases v with
    | bool b => cases h; exact .bool b
    | int m => cases h; exact .int _
    | float y =>
      rw [toInt] at h
      split at h
      · next finite => cases h; exact .float finite
      · split at h <;> cases h
    | str s =>
      rw [toInt, intOfText] at h
      split at h
      · next read => cases h; exact .str read
      · cases h
      · cases h
    | _ => cases h
  · rintro (_ | _ | finite | read)
    · rfl
    · rfl
    · rw [toInt, finite]
    · rw [toInt, intOfText, read]

end Json

namespace Settings

open Fault Activity CommandLine

/-! ### Reading settings -/

variable {fields : Json.Fields} {v : Json} {name text : String}

theorem throws_setting (v : Json) (name : String) : Throws IsBare (setting v name) := by
  refine .bind ?_ fun _ => .ok _
  cases v with
  | obj fs => exact .ok _
  | _ => exact .error (.defect ..)

theorem throws_settingOr (v : Json) (name text : String) :
    Throws IsBare (settingOr v name text) :=
  .bind (throws_setting v name) fun _ => .ok _

theorem throws_readStorage (v : Json) : Throws IsBare (readStorage v) :=
  .bind (throws_setting _ _) fun _ => .bind (throws_settingOr _ _ _) fun _ =>
    .bind (throws_setting _ _) fun _ => .bind (throws_setting _ _) fun _ =>
      .bind (throws_setting _ _) fun _ => .bind (throws_settingOr _ _ _) fun _ =>
        .bind (throws_setting _ _) fun _ => .ok _

/-- A setting can be looked up in objects only. -/
theorem obj_of_setting {u : Json} (h : setting v name = .ok u) : ∃ fs, v = .obj fs := by
  cases v with
  | obj fs => exact ⟨fs, rfl⟩
  | _ => cases h

theorem obj_of_settingOr {u : Json} (h : settingOr v name text = .ok u) : ∃ fs, v = .obj fs := by
  cases v with
  | obj fs => exact ⟨fs, rfl⟩
  | _ => cases h

theorem obj_of_readStorage {s : StorageSettings} (h : readStorage v = .ok s) :
    ∃ fs, v = .obj fs := by
  cases v with
  | obj fs => exact ⟨fs, rfl⟩
  | _ => cases h

theorem throws_toFloat (v : Json) : Throws IsBare v.toFloat := by
  cases v with
  | null | arr xs | obj fs => exact .error (.defect ..)
  | bool b => exact .ok _
  | int n =>
    rw [Json.toFloat]
    split
    · exact .ok _
    · exact .error (.defect ..)
  | float x => exact .ok _
  | str s =>
    rw [Json.toFloat, Json.floatOfText]
    split
    · exact .ok _
    · exact .error (.value _)
  | torn ps => exact .error (.value _)

theorem throws_numberOr (v : Json) (name : String) (x : Float) :
    Throws IsBare (numberOr v name x) := by
  rw [numberOr]
  refine .bind ?_ fun found => ?_
  · cases v with
    | obj fs => exact .ok _
    | _ => exact .error (.defect ..)
  · split
    · exact .ok _
    · exact throws_toFloat _

theorem throws_number? (v : Json) : Throws IsBare (number? v) := by
  rw [number?.eq_def]
  split
  · exact .ok _
  · exact (throws_toFloat _).map

/-- The numbers of the delay schedule that a section writes, before they are checked. -/
def scheduleOf (poll maxWait : Json) : Except Fault (PollPolicy Float) := do
  let interval ← numberOr poll "interval_seconds" 10
  let factor ← numberOr poll "backoff_factor" 1
  let cap ← numberOr poll "max_interval_seconds" 300
  let maxWait ← number? maxWait
  return ⟨interval, factor, cap, maxWait⟩

theorem throws_scheduleOf (poll maxWait : Json) : Throws IsBare (scheduleOf poll maxWait) :=
  .bind (throws_numberOr _ _ _) fun _ => .bind (throws_numberOr _ _ _) fun _ =>
    .bind (throws_numberOr _ _ _) fun _ => .bind (throws_number? _) fun _ => .ok _

theorem readPoll_eq (poll maxWait : Json) :
    readPoll poll maxWait = scheduleOf poll maxWait >>= PollPolicy.checked := by
  simp only [readPoll, scheduleOf, bind_assoc, pure_bind]

theorem checked_of_usable {p : PollPolicy Float} (h : p.refusal? = none) : p.checked = .ok p := by
  rw [PollPolicy.checked, h]

/-- The schedule of settings that were read is usable. -/
theorem refusal?_of_ofFields {dir : Path} {s : Settings} (h : ofFields fields dir = .ok s) :
    s.poll.refusal? = none := by
  rw [ofFields] at h
  iterate 12 obtain ⟨_, -, h⟩ := exists_of_bind_eq_ok h
  obtain ⟨policy, poll, h⟩ := exists_of_bind_eq_ok h
  iterate 3 obtain ⟨_, -, h⟩ := exists_of_bind_eq_ok h
  obtain rfl := Except.ok.inj h
  rw [readPoll_eq] at poll
  obtain ⟨policy', -, checked⟩ := exists_of_bind_eq_ok poll
  rw [PollPolicy.checked] at checked
  split at checked
  · cases checked
  · rename_i usable
    obtain rfl := Except.ok.inj checked
    exact usable

/-- Whether a section has a number: what it writes under a name, or the usual one where it writes
nothing. -/
def HasNumber (section_ : Json) (name : String) (usual x : Float) : Prop :=
  match section_.field? name with
  | none => x = usual
  | some v => v.WritesNumber x

/-- Whether a value is a longest wait: a number, or nothing. -/
def IsLongest (v : Json) : Option Float → Prop
  | none => v = .null
  | some x => v.WritesNumber x

/-- The schedule that a section writes. -/
structure HasSchedule (section_ : Json) (p : PollPolicy Float) : Prop where
  /-- The first delay. -/
  interval : HasNumber section_ "interval_seconds" 10 p.interval
  /-- The factor. -/
  factor : HasNumber section_ "backoff_factor" 1 p.factor
  /-- The longest delay. -/
  cap : HasNumber section_ "max_interval_seconds" 300 p.cap
  /-- The longest wait. -/
  maxWait : IsLongest ((section_.field? "max_wait_seconds").getD .null) p.maxWait

theorem numberOr_eq_ok_iff {usual x : Float} :
    numberOr (.obj fields) name usual = .ok x ↔ HasNumber (.obj fields) name usual x := by
  change (match Json.get? name fields with
    | none => .ok usual
    | some v => v.toFloat) = Except.ok x ↔
      match Json.get? name fields with
      | none => x = usual
      | some v => v.WritesNumber x
  cases Json.get? name fields with
  | none => simp [eq_comm]
  | some v => exact Json.toFloat_eq_ok_iff

theorem number?_eq_ok_iff {m : Option Float} : number? v = .ok m ↔ IsLongest v m := by
  have some_iff : ∀ {x : Except Fault Float},
      x.map some = .ok m ↔ ∃ y, x = .ok y ∧ m = some y := by
    rintro (f | y)
    · simp [Except.map]
    · simp [Except.map, eq_comm]
  rw [number?.eq_def]
  split
  · cases m with
    | none => simp [IsLongest]
    | some x => exact iff_of_false nofun nofun
  · next given =>
    rw [some_iff]
    simp only [Json.toFloat_eq_ok_iff]
    cases m with
    | none => exact iff_of_false (by simp) given
    | some x => simp [IsLongest]

theorem scheduleOf_eq_ok_iff {p : PollPolicy Float} :
    scheduleOf (.obj fields) ((Json.get? "max_wait_seconds" fields).getD .null) = .ok p ↔
      HasSchedule (.obj fields) p := by
  constructor
  · intro h
    obtain ⟨_, interval, h⟩ := exists_of_bind_eq_ok h
    obtain ⟨_, factor, h⟩ := exists_of_bind_eq_ok h
    obtain ⟨_, cap, h⟩ := exists_of_bind_eq_ok h
    obtain ⟨_, maxWait, h⟩ := exists_of_bind_eq_ok h
    obtain rfl := Except.ok.inj h
    exact ⟨numberOr_eq_ok_iff.mp interval, numberOr_eq_ok_iff.mp factor, numberOr_eq_ok_iff.mp cap,
      number?_eq_ok_iff.mp maxWait⟩
  · rintro ⟨interval, factor, cap, maxWait⟩
    have longest := number?_eq_ok_iff.mpr maxWait
    rw [Json.field?, Json.fields?, Option.bind_some] at longest
    rw [scheduleOf, numberOr_eq_ok_iff.mpr interval, numberOr_eq_ok_iff.mpr factor,
      numberOr_eq_ok_iff.mpr cap, longest]
    rfl

/-- The first block can be read where it is not written, or where a whole number is. -/
theorem exists_readStart_iff : (∃ n, readStart fields = .ok n) ↔
    ∀ v, Json.get? "default_start_block" fields = some v → ∃ n, v.WritesWhole n := by
  rw [readStart]
  cases Json.get? "default_start_block" fields with
  | none => exact iff_of_true ⟨_, rfl⟩ nofun
  | some v => simp [Json.toInt_eq_ok_iff]

/-- The sections that are read before the schedule is checked. -/
def firstAreas : List String := ["poll", "chain", "witness", "network", "programs", "storage"]

theorem forall_firstAreas_iff {P : String → Prop} : (∀ a ∈ firstAreas, P a) ↔
    P "poll" ∧ P "chain" ∧ P "witness" ∧ P "network" ∧ P "programs" ∧ P "storage" := by
  simp only [firstAreas, List.forall_mem_cons, List.not_mem_nil, false_imp_iff, implies_true,
    and_true]

/-- The documents from which settings are read or refused: what is read in front of the check of the
schedule is there, and if the schedule is usable, so is what is read behind it. -/
structure IsReadable (fields : Json.Fields) : Prop where
  /-- The sections in front of the check are objects or missing. -/
  sections : ∀ a ∈ firstAreas, ∃ fs, area fields a = .obj fs
  /-- The numbers of the schedule are numbers.  Unless it is refused, the paths are an object or
  missing, and the first block is a whole number or missing. -/
  schedule : ∃ p, HasSchedule (area fields "poll") p ∧
    (¬ p.interval ≤ 0 → ¬ p.factor < 1 → (∃ fs, area fields "paths" = .obj fs) ∧
      ∀ v, Json.get? "default_start_block" fields = some v → ∃ n, v.WritesWhole n)

theorem throws_readStart (fields : Json.Fields) : Throws IsBare (readStart fields) := by
  rw [readStart]
  split
  · exact .ok _
  · exact throws_toInt _

/-- Settings are read or refused from readable documents only: each step in front of an answer was
done. -/
theorem isReadable_of_isAnswered {dir : Path} (h : IsAnswered (ofFields fields dir)) :
    IsReadable fields := by
  rw [ofFields] at h
  obtain ⟨maxWait, poll, h⟩ := h.of_bind (throws_setting _ _)
  obtain ⟨_, chain, h⟩ := h.of_bind (throws_setting _ _)
  obtain ⟨_, witness, h⟩ := h.of_bind (throws_settingOr _ _ _)
  obtain ⟨_, -, h⟩ := h.of_bind (throws_setting _ _)
  obtain ⟨_, -, h⟩ := h.of_bind (throws_setting _ _)
  obtain ⟨_, -, h⟩ := h.of_bind (throws_setting _ _)
  obtain ⟨_, network, h⟩ := h.of_bind (throws_settingOr _ _ _)
  obtain ⟨_, -, h⟩ := h.of_bind (throws_settingOr _ _ _)
  obtain ⟨_, -, h⟩ := h.of_bind (throws_setting _ _)
  obtain ⟨_, programs, h⟩ := h.of_bind (throws_setting _ _)
  obtain ⟨_, -, h⟩ := h.of_bind (throws_setting _ _)
  obtain ⟨_, storage, h⟩ := h.of_bind (throws_readStorage _)
  rw [readPoll_eq, bind_assoc] at h
  obtain ⟨policy, numbers, h⟩ := h.of_bind (throws_scheduleOf _ _)
  obtain ⟨fs, object⟩ := obj_of_setting poll
  rw [object] at poll numbers
  rw [← Except.ok.inj poll] at numbers
  refine ⟨forall_firstAreas_iff.mpr ⟨⟨fs, object⟩, obj_of_setting chain, obj_of_settingOr witness,
    obj_of_settingOr network, obj_of_setting programs, obj_of_readStorage storage⟩, policy,
    object ▸ scheduleOf_eq_ok_iff.mp numbers, fun positive grows => ?_⟩
  rw [checked_of_usable (PollPolicy.refusal?_eq_none_iff.mpr ⟨positive, grows⟩)] at h
  obtain ⟨_, -, h⟩ := h.of_bind (Throws.ok _)
  obtain ⟨_, paths, h⟩ := h.of_bind (throws_settingOr _ _ _)
  obtain ⟨_, -, h⟩ := h.of_bind (throws_settingOr _ _ _)
  obtain ⟨n, start, -⟩ := h.of_bind (throws_readStart _)
  exact ⟨obj_of_settingOr paths, exists_readStart_iff.mp ⟨n, start⟩⟩

/-- From a readable document settings are read, or refused for their schedule. -/
theorem IsReadable.isAnswered (h : IsReadable fields) (dir : Path) :
    IsAnswered (ofFields fields dir) := by
  obtain ⟨⟨_, poll⟩, ⟨_, chain⟩, ⟨_, witness⟩, ⟨_, network⟩, ⟨_, programs⟩, ⟨_, storage⟩⟩ :=
    forall_firstAreas_iff.mp h.sections
  obtain ⟨policy, written, behind⟩ := h.schedule
  rw [poll] at written
  rw [ofFields, poll, chain, witness, network, programs, storage]
  change IsAnswered (readPoll (.obj _) ((Json.get? "max_wait_seconds" _).getD .null) >>= _)
  rw [readPoll_eq, scheduleOf_eq_ok_iff.mpr written]
  change IsAnswered (policy.checked >>= _)
  cases usable : policy.refusal? with
  | some r =>
    rw [PollPolicy.checked, usable]
    exact .inr ⟨_, rfl⟩
  | none =>
    obtain ⟨positive, grows⟩ := PollPolicy.refusal?_eq_none_iff.mp usable
    obtain ⟨⟨_, paths⟩, whole⟩ := behind positive grows
    obtain ⟨n, start⟩ := exists_readStart_iff.mpr whole
    rw [checked_of_usable usable, paths, start]
    exact .ok _

/-- Settings are read or refused exactly from a readable document. -/
theorem isAnswered_ofFields (fields : Json.Fields) (dir : Path) :
    IsAnswered (ofFields fields dir) ↔ IsReadable fields :=
  ⟨isReadable_of_isAnswered, fun h => h.isAnswered dir⟩

/-- The faults of loading: bare ones, and the refusal of a schedule. -/
def IsOfLoading (f : Fault) : Prop :=
  f.IsBare ∨ ∃ r : PollPolicy.Refusal Float, f = .setting r.report

theorem throws_ofFields (fields : Json.Fields) (dir : Path) :
    Throws IsOfLoading (ofFields fields dir) := by
  have bare : ∀ {α : Type} {x : Except Fault α}, Throws IsBare x → Throws IsOfLoading x :=
    fun h => h.mono fun _ => .inl
  have setting := fun v name => bare (throws_setting v name)
  have settingOr := fun v name text => bare (throws_settingOr v name text)
  have poll : ∀ v maxWait, Throws IsOfLoading (readPoll v maxWait) := by
    intro v maxWait
    rw [readPoll_eq]
    refine .bind (bare (throws_scheduleOf v maxWait)) fun p => ?_
    rw [PollPolicy.checked]
    split
    · exact .error (.inr ⟨_, rfl⟩)
    · exact .ok _
  rw [ofFields]
  refine .bind (setting _ _) fun _ => .bind (setting _ _) fun _ =>
    .bind (settingOr _ _ _) fun _ => ?_
  refine .bind (setting _ _) fun _ => .bind (setting _ _) fun _ => .bind (setting _ _) fun _ => ?_
  refine .bind (settingOr _ _ _) fun _ => .bind (settingOr _ _ _) fun _ => ?_
  refine .bind (setting _ _) fun _ => .bind (setting _ _) fun _ => .bind (setting _ _) fun _ => ?_
  refine .bind (bare (throws_readStorage _)) fun _ => .bind (poll _ _) fun _ => ?_
  refine .bind (settingOr _ _ _) fun _ => .bind (settingOr _ _ _) fun _ => ?_
  exact .bind (bare (throws_readStart _)) fun _ => .ok _

/-! ### The document of all layers -/

theorem throws_readText (t : FileTree) (p : Path) : Throws IsBare (t.readText p) := by
  rw [FileTree.readText, FileTree.readBytes]
  split
  · rename_i found
    split at found
    · cases found; exact .error (.file _)
    · cases found; exact .error (.file _)
    · cases found
  · split
    · exact .ok _
    · exact .error (.defect ..)

theorem throws_layer (t : FileTree) (p : Path) : Throws IsBare (t.layer p) := by
  have text := throws_readText t p
  rw [FileTree.layer]
  split
  · exact .ok _
  · rename_i found
    exact .error (text _ found)
  · split
    · split
      · exact .ok _
      · exact .error (.value _)
    · exact .ok _
    · exact .ok _

theorem throws_layerOf (t : FileTree) (file : Option Path) : Throws IsBare (t.layerOf file) := by
  cases file with
  | none => exact .ok _
  | some p =>
    rw [FileTree.layerOf, FileTree.layerAt]
    split
    · rename_i refused
      exact .error (FileTree.throws_probe _ refused)
    · exact .ok _
    · exact throws_layer t p

theorem throws_operatorFile (w : World) (asked : Option Path) :
    Throws IsBare (operatorFile w asked) := by
  rw [operatorFile]
  refine .bind ?_ fun _ => ?_
  · rw [homeDirectory, home]
    split
    · exact .ok _
    · refine .map ?_
      split
      · exact .error (.defect ..)
      · dsimp only
        split
        · exact .error (.defect ..)
        · exact .ok _
  · split
    · exact .ok _
    · split <;> exact .ok _

theorem throws_assign (fields : Json.Fields) (key : SettingKey) (v : Json) :
    Throws IsBare (assign fields key v) := by
  rw [assign]
  split
  · exact .ok _
  · exact .error (.defect ..)
  · exact .error (.defect ..)

theorem throws_assignAll (fields : Json.Fields) (writes : List (SettingKey × Json)) :
    Throws IsBare (assignAll fields writes) := by
  induction writes generalizing fields with
  | nil => exact .ok _
  | cons e writes ih => exact .bind (throws_assign fields e.1 e.2) ih

theorem throws_overlaid (w : World) (fields : Json.Fields) : Throws IsBare (overlaid w fields) :=
  (throws_assignAll fields _).map

theorem throws_fileDocument (t : FileTree) (operator workspace : Option Path) :
    Throws IsBare (fileDocument t operator workspace) :=
  .bind (throws_layerOf t _) fun _ => .bind (throws_layerOf t _) fun _ => .ok _

theorem throws_document (w : World) (asked workspace : Option Path) :
    Throws IsBare (document w asked workspace) :=
  .bind (throws_operatorFile w asked) fun _ => .bind (throws_fileDocument _ _ _) fun _ =>
    throws_overlaid w _

/-- The situations in which settings are loaded or refused. -/
structure IsUsable (w : World) (asked workspace : Option Path) : Prop where
  /-- The operator's home is known. -/
  home : w.KnowsHome
  /-- The files are legible. -/
  legible : ∀ p ∈ settingsFiles w asked workspace, w.files.IsLegible p
  /-- The sections that variables write into are objects or missing. -/
  sections : ∀ e ∈ writes w, ∃ fs,
    area (layered w.files (settingsFiles w asked workspace)) e.1.area = .obj fs
  /-- What comes out is readable. -/
  readable : IsReadable (withVariables w (layered w.files (settingsFiles w asked workspace)))

/-- What loading finds is an answer exactly in a usable situation. -/
theorem isAnswered_document (w : World) (asked workspace : Option Path) (dir : Path) :
    IsAnswered (document w asked workspace >>= fun fields => ofFields fields dir) ↔
      IsUsable w asked workspace := by
  constructor
  · intro h
    obtain ⟨fields, gathered, h⟩ := h.of_bind (throws_document w asked workspace)
    obtain ⟨home, legible, sections, rfl⟩ := document_eq_ok_iff.mp gathered
    exact ⟨home, legible, sections, (isAnswered_ofFields _ dir).mp h⟩
  · rintro ⟨home, legible, sections, readable⟩
    rw [document_eq_ok_iff.mpr ⟨home, legible, sections, rfl⟩]
    exact (isAnswered_ofFields _ dir).mpr readable

/-- Loading writes log lines only, and settings that were loaded have a usable schedule. -/
theorem of_load_ok {w w₁ : World} {asked workspace : Option Path} {s : Settings}
    (h : (load asked workspace).runIn w = (.ok s, w₁)) :
    (∃ lines, (∀ e ∈ lines, e.IsLine) ∧ w₁ = w.withLines lines) ∧ s.poll.refusal? = none := by
  obtain ⟨lines, logs, run⟩ := load_finds asked workspace w
  rw [h] at run
  obtain ⟨found, rfl⟩ := Prod.mk.inj run
  refine ⟨⟨lines, logs, rfl⟩, ?_⟩
  cases gathered : document w asked workspace with
  | error f => rw [gathered] at found; cases found
  | ok fields =>
    rw [gathered] at found
    change Except.ok s = (ofFields fields _).mapError Interruption.fault at found
    cases read : ofFields fields (workspace.getD (FileTree.pathOf w.files.here)) with
    | error f => rw [read] at found; cases found
    | ok s' =>
      rw [read] at found
      obtain rfl := Except.ok.inj found
      exact refusal?_of_ofFields read

/-! ### Commands -/

/-- How a command ends at a fault of loading: a refused setting has a status. -/
def endOfLoading : Fault → Except Interruption ExitStatus
  | .setting _ => .ok .notSet
  | f => .error (.fault f)

theorem runIn_run_of_error (c : Frontend) {w : World} {i : Invocation} {f : Fault}
    (program : String) (bound : Nat)
    (h : (load i.group.settingsFile (i.group.workspace.map w.files.resolve)).Finds w (.error f)) :
    ((c.run i program bound).runIn w).1 = endOfLoading f := by
  obtain ⟨lines, -, run⟩ := h
  rw [Frontend.run, runIn_bind_ok (runIn_get w), runIn_bind, runIn_attempt, run]
  cases f <;> rfl

/-- Loading gives settings or refuses them exactly in a usable situation; every other fault is
bare.  A command reports refused settings and ends with the status of a missing setting, but it
ends without a status at a bare fault.  A limit on the nesting of a document, at which reading it
would end in a bare fault too, is not part of this. -/
theorem load_answers (w : World) (asked workspace : Option Path) :
    ∃ x, (load asked workspace).Finds w x ∧ (IsAnswered x ↔ IsUsable w asked workspace) ∧
      Throws IsOfLoading x ∧
      ∀ (c : Frontend) (i : Invocation) program bound, i.group.settingsFile = asked →
        i.group.workspace.map w.files.resolve = workspace →
        (∀ message, x = .error (.setting message) →
          exitNumber ((c.run i program bound).runIn w).1 = some 2) ∧
        ∀ f, f.IsBare → x = .error f → ((c.run i program bound).runIn w).1 = .error (.fault f) := by
  have found := load_finds asked workspace w
  refine ⟨_, found, isAnswered_document w asked workspace _, ?_, ?_⟩
  · exact .bind ((throws_document w asked workspace).mono fun _ => .inl) fun fields =>
      throws_ofFields fields _
  · rintro c i program bound rfl rfl
    refine ⟨fun message refused => ?_, fun f bare failed => ?_⟩
    · rw [refused] at found
      rw [runIn_run_of_error c program bound found]
      rfl
    · rw [failed] at found
      rw [runIn_run_of_error c program bound found]
      cases bare <;> rfl

/-- A world with a file of the workspace `/run` that is no text. -/
def illegibleWorld : World :=
  { sampleWorld with
    files :=
      ⟨[(["run"], .directory FileTree.directoryMode),
        (["run", ".blockprover"], .directory FileTree.directoryMode),
        (["run", ".blockprover", "config.json"], .file [0xff] FileTree.fileMode)], []⟩ }

/-- A file that is no text is no refused setting, and every command ends at it without a status. -/
theorem illegible_file_escapes :
    ∃ f : Fault, f.IsBare ∧ (load none (some ⟨"/", ["run"]⟩)).Finds illegibleWorld (.error f) ∧
      ∀ (c : Frontend) page arguments program bound,
        ((c.run ⟨⟨none, some ⟨"/", ["run"]⟩, false⟩, page, arguments⟩ program bound).runIn
          illegibleWorld).1 = .error (.fault f) := by
  have failed : document illegibleWorld none (some ⟨"/", ["run"]⟩) =
      .error (.defect .bytes
        "'utf-8' codec can't decode byte 0xff in position 0: invalid start byte") := by
    rfl
  have found := load_finds none (some ⟨"/", ["run"]⟩) illegibleWorld
  rw [failed] at found
  refine ⟨_, .defect .bytes _, found, fun c page arguments program bound => ?_⟩
  let i : Invocation := ⟨⟨none, some ⟨"/", ["run"]⟩, false⟩, page, arguments⟩
  have named : i.group.workspace.map illegibleWorld.files.resolve = some ⟨"/", ["run"]⟩ := rfl
  exact runIn_run_of_error c program bound (i := i) (named ▸ found)

end ProofRelay.Settings

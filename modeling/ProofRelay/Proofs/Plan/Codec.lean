import ProofRelay.Plan.Reading
import ProofRelay.Proofs.Json.RoundTrip

/-!
# Plans on the wire

A plan is sent as a compact document and is checked again when it is read.  For a plan of texts the
document is made of printable characters, and reading it gives the plan back exactly when its two
tasks fit together; when they do not, reading gives the fault that the check of the plan itself
gives.

## Main definitions

* `Plan.Fits` : the plans of texts whose tasks fit together.
* `Plan.IsPlain` : the plans that are made of plain values.

## Main results

* `Plan.ofJson_toJson` : the value of a plan describes it.
* `Plan.IsPlain.toJson` : the value of a plan of plain values is plain.
* `Plan.read_of_toJson` : what reading any text gives that writes the value of a plan.
* `Plan.check_map_str` : what the check of a plan of texts gives.
* `Plan.read_document` : what reading the document of a plan of texts gives.
* `Plan.wire_codec` : a plan of texts on the wire.
-/

namespace ProofRelay

open Json

/-! ### Plans as values -/

theorem Argument.ofJson_toJson (a : Argument Json) : Argument.ofJson a.toJson = .ok a := by
  simp [Argument.ofJson, Argument.toJson, index, get?, bind, Except.bind, pure, Except.pure]

theorem Binding.ofJson_toJson (b : Binding Json) : Binding.ofJson b.toJson = .ok b := by
  cases b <;>
    simp [Binding.ofJson, Binding.toJson, Binding.fetchedOfJson, Binding.producedOfJson, index,
      holds, get?, bind, Except.bind, pure, Except.pure]

/-- Values that were made of items are read to the items. -/
theorem mapM_map_eq_ok {α β : Type} {read : β → Except Fault α} {write : α → β}
    (h : ∀ x, read (write x) = .ok x) (xs : List α) : (xs.map write).mapM read = .ok xs := by
  induction xs with
  | nil => rfl
  | cons x xs ih =>
    rw [List.map_cons, List.mapM_cons, h, ih]
    rfl

theorem Task.ofJson_toJson (t : Task Json) : Task.ofJson t.toJson = .ok t := by
  have arguments := mapM_map_eq_ok Argument.ofJson_toJson t.arguments
  have inputs := mapM_map_eq_ok Binding.ofJson_toJson t.inputs
  simp [Task.ofJson, Task.toJson, readItems, index, fieldOf?, itemsOf, get?, bind, Except.bind,
    pure, Except.pure, arguments, inputs]

/-- The value of a plan describes it. -/
theorem Plan.ofJson_toJson (p : Plan Json) : Plan.ofJson p.toJson = .ok p := by
  rw [Plan.toJson, Plan.ofJson, Task.ofJson_toJson, Task.ofJson_toJson]
  rfl

/-! ### Plans of texts -/

/-- The value of the first argument of a name. -/
def Task.first? (t : Task String) (name : String) : Option String :=
  (t.arguments.find? fun a => a.name = name).map (·.value)

/-- The program and the file of the bindings to another task, in order. -/
def Task.produced (t : Task String) : List (String × String) :=
  t.inputs.filterMap fun
    | .produced program file => some (program, file)
    | .fetched .. => none

/-- The plans of texts whose tasks fit together: the prover names a path for the proof, and the
verifier reads from the prover, nowhere but at that path. -/
def Plan.Fits (d : Plan String) : Prop :=
  ∃ proof, d.prover.first? proofFlag = some proof ∧ d.verifier.produced ≠ [] ∧
    ∀ source ∈ d.verifier.produced, source = (d.prover.program, proof)

theorem Task.value?_map_str (t : Task String) (name : String) :
    (t.map str).value? name = (t.first? name).map str := by
  have found : ∀ as : List (Argument String),
      (as.map (·.map str)).find? (fun a => a.name.same (.str name)) =
        (as.find? fun a => a.name = name).map (·.map str) := by
    intro as
    rw [List.find?_map]
    have same : ((fun a : Argument Json => a.name.same (.str name)) ∘
        fun a : Argument String => a.map str) = fun a => decide (a.name = name) := by
      funext a
      by_cases h : a.name = name <;> simp [Argument.map, h]
    rw [same]
  change (((t.arguments.map (·.map str)).find? _).map _).filter _ = _
  rw [found, first?]
  cases t.arguments.find? fun a => a.name = name with
  | none => rfl
  | some a => rfl

theorem Task.sources_map_str (t : Task String) :
    (t.map str).sources = t.produced.map fun e => (str e.1, str e.2) := by
  change (t.inputs.map (·.map str)).filterMap _ = (t.inputs.filterMap _).map _
  rw [List.filterMap_map, List.map_filterMap]
  congr 1
  funext b
  cases b <;> rfl

theorem checkSource_str (program proof : String) (source : String × String) :
    (source = (program, proof) ∧
      checkSource (str program) (str proof) (str source.1, str source.2) = .ok ()) ∨
    (source ≠ (program, proof) ∧ ∃ message,
      checkSource (str program) (str proof) (str source.1, str source.2) =
        .error (.value message)) := by
  obtain ⟨program', proof'⟩ := source
  by_cases hp : program' = program
  · by_cases hq : proof' = proof
    · refine .inl ⟨by rw [hp, hq], ?_⟩
      simp [checkSource, hp, hq]
    · refine .inr ⟨fun h => hq (Prod.mk.inj h).2, "verifier reads " ++ (str proof').shown ++
        ", prover writes " ++ (str proof).shown, ?_⟩
      simp [checkSource, hp, hq]
  · refine .inr ⟨fun h => hp (Prod.mk.inj h).1, "verifier reads from program " ++
      (str program').shown ++ ", prover is " ++ (str program).shown, ?_⟩
    simp [checkSource, hp]

theorem checkSources_str (program proof : String) (sources : List (String × String)) :
    ((∀ source ∈ sources, source = (program, proof)) ∧
      checkSources (str program) (str proof) (sources.map fun e => (str e.1, str e.2)) =
        .ok ()) ∨
    (¬ (∀ source ∈ sources, source = (program, proof)) ∧ ∃ message,
      checkSources (str program) (str proof) (sources.map fun e => (str e.1, str e.2)) =
        .error (.value message)) := by
  induction sources with
  | nil => exact .inl ⟨List.forall_mem_nil _, rfl⟩
  | cons e es ih =>
    rw [List.map_cons, checkSources]
    rcases checkSource_str program proof e with ⟨same, checked⟩ | ⟨differs, message, checked⟩
    · rw [checked]
      rcases ih with ⟨all, checked'⟩ | ⟨other, message, checked'⟩
      · exact .inl ⟨List.forall_mem_cons.2 ⟨same, all⟩, checked'⟩
      · exact .inr ⟨fun all => other (List.forall_mem_cons.1 all).2, message, checked'⟩
    · rw [checked]
      exact .inr ⟨fun all => differs (List.forall_mem_cons.1 all).1, message, rfl⟩

/-- What the check of a plan of texts gives. -/
theorem Plan.check_map_str (d : Plan String) :
    (d.Fits ∧ (d.map str).check = .ok ()) ∨
    (¬ d.Fits ∧ ∃ message, (d.map str).check = .error (.value message)) := by
  have given : (d.map str).prover.value? proofFlag = (d.prover.first? proofFlag).map str :=
    Task.value?_map_str d.prover proofFlag
  have sources : (d.map str).verifier.sources =
      d.verifier.produced.map fun e => (str e.1, str e.2) :=
    Task.sources_map_str d.verifier
  rw [check, given, sources]
  cases path : d.prover.first? proofFlag with
  | none =>
    refine .inr ⟨?_, _, rfl⟩
    rintro ⟨proof, h, -⟩
    rw [path] at h
    cases h
  | some proof =>
    dsimp only [Option.map_some]
    rw [List.isEmpty_map]
    cases none : d.verifier.produced.isEmpty with
    | true =>
      refine .inr ⟨?_, _, rfl⟩
      rintro ⟨-, -, some, -⟩
      exact some (List.isEmpty_iff.1 none)
    | false =>
      have some : d.verifier.produced ≠ [] := fun h => by
        rw [h] at none
        cases none
      rw [if_neg Bool.false_ne_true]
      rcases checkSources_str d.prover.program proof d.verifier.produced with
        ⟨all, checked⟩ | ⟨other, message, checked⟩
      · exact .inl ⟨⟨proof, path, some, all⟩, checked⟩
      · refine .inr ⟨?_, message, checked⟩
        rintro ⟨proof', path', -, all⟩
        rw [path] at path'
        cases path'
        exact other all

/-- The names of the fields in a plan's document. -/
def fieldNames : List String :=
  ["name", "value", "local_path", "vm_path", "file_url", "source_program", "file_name", "Input",
    "Output", "program", "cmd_args", "inputs"]

theorem isPlainName_of_mem {name : String} (h : name ∈ fieldNames) : IsPlainName name := by
  have ascii : (fieldNames.all fun s => s.toList.all fun c => c.toNat < 0x80) = true := by decide
  have letters := List.all_eq_true.1 (List.all_eq_true.1 ascii name h)
  exact isPlainName_of_ascii fun c hc => by simpa using letters c hc

/-- Arguments whose name and value are plain. -/
def Argument.IsPlain (a : Argument Json) : Prop :=
  a.name.IsPlain ∧ a.value.IsPlain

/-- Bindings that are made of plain values. -/
def Binding.IsPlain : Binding Json → Prop
  | fetched checksum path url => checksum.IsPlain ∧ path.IsPlain ∧ url.IsPlain
  | produced program file => program.IsPlain ∧ file.IsPlain

/-- Tasks that are made of plain values. -/
structure Task.IsPlain (t : Task Json) : Prop where
  /-- The program is one. -/
  program : t.program.IsPlain
  /-- The arguments are made of them. -/
  arguments : ∀ a ∈ t.arguments, a.IsPlain
  /-- So are the files that the task reads. -/
  inputs : ∀ b ∈ t.inputs, b.IsPlain

/-- Plans that are made of plain values. -/
def Plan.IsPlain (p : Plan Json) : Prop :=
  p.prover.IsPlain ∧ p.verifier.IsPlain

theorem Argument.IsPlain.toJson {a : Argument Json} (h : a.IsPlain) : a.toJson.IsPlain := by
  refine ⟨⟨⟨isPlainName_of_mem ?_, h.1⟩, ⟨isPlainName_of_mem ?_, h.2⟩, trivial⟩, ?_⟩
  all_goals simp [fieldNames]

theorem Binding.IsPlain.toJson {b : Binding Json} (h : b.IsPlain) : b.toJson.IsPlain := by
  cases b with
  | fetched checksum path url =>
    have parts : Json.IsPlain (.obj [("local_path", checksum), ("vm_path", path),
        ("file_url", url)]) := by
      refine ⟨⟨⟨isPlainName_of_mem ?_, h.1⟩, ⟨isPlainName_of_mem ?_, h.2.1⟩,
        ⟨isPlainName_of_mem ?_, h.2.2⟩, trivial⟩, ?_⟩
      all_goals simp [fieldNames]
    refine ⟨⟨⟨isPlainName_of_mem ?_, parts⟩, trivial⟩, ?_⟩
    all_goals simp [fieldNames]
  | produced program file =>
    have parts : Json.IsPlain (.obj [("source_program", program), ("file_name", file)]) := by
      refine ⟨⟨⟨isPlainName_of_mem ?_, h.1⟩, ⟨isPlainName_of_mem ?_, h.2⟩, trivial⟩, ?_⟩
      all_goals simp [fieldNames]
    refine ⟨⟨⟨isPlainName_of_mem ?_, parts⟩, trivial⟩, ?_⟩
    all_goals simp [fieldNames]

theorem arePlain_map {α : Type} {write : α → Json} {xs : List α}
    (h : ∀ x ∈ xs, (write x).IsPlain) : ArePlain (xs.map write) := by
  induction xs with
  | nil => trivial
  | cons x xs ih =>
    exact ⟨h x List.mem_cons_self, ih fun y hy => h y (List.mem_cons_of_mem x hy)⟩

theorem Task.IsPlain.toJson {t : Task Json} (h : t.IsPlain) : t.toJson.IsPlain := by
  have arguments : Json.IsPlain (.arr (t.arguments.map (·.toJson))) :=
    arePlain_map fun a ha => (h.arguments a ha).toJson
  have inputs : Json.IsPlain (.arr (t.inputs.map (·.toJson))) :=
    arePlain_map fun b hb => (h.inputs b hb).toJson
  refine ⟨⟨⟨isPlainName_of_mem ?_, h.program⟩, ⟨isPlainName_of_mem ?_, arguments⟩,
    ⟨isPlainName_of_mem ?_, inputs⟩, trivial⟩, ?_⟩
  all_goals simp [fieldNames]

/-- The value of a plan of plain values is plain. -/
theorem Plan.IsPlain.toJson {p : Plan Json} (h : p.IsPlain) : p.toJson.IsPlain :=
  ⟨Task.IsPlain.toJson h.1, Task.IsPlain.toJson h.2, trivial⟩

theorem Task.isPlain_map_str (t : Task String) : (t.map str).IsPlain := by
  refine ⟨trivial, fun a ha => ?_, fun b hb => ?_⟩
  · obtain ⟨a, -, rfl⟩ := List.mem_map.1 ha
    exact ⟨trivial, trivial⟩
  · obtain ⟨b, -, rfl⟩ := List.mem_map.1 hb
    cases b with
    | fetched => exact ⟨trivial, trivial, trivial⟩
    | produced => exact ⟨trivial, trivial⟩

theorem Plan.isPlain_toJson (d : Plan String) : (d.map str).toJson.IsPlain :=
  Plan.IsPlain.toJson ⟨Task.isPlain_map_str d.prover, Task.isPlain_map_str d.verifier⟩

/-- What reading a text gives that writes the value of a plan: the plan, or the fault of its
check. -/
theorem Plan.read_of_toJson {p : Plan Json} {text : String} (h : Json.read text = .ok p.toJson) :
    Plan.read text = p.check.map fun _ => p := by
  rw [Plan.read, h]
  dsimp only
  rw [Plan.ofJson_toJson]
  change (p.check >>= fun _ => Except.ok p) = _
  cases p.check <;> rfl

/-- What reading the document of a plan of texts gives: the plan, or the fault of its check. -/
theorem Plan.read_document (d : Plan String) :
    Plan.read (d.map str).document = (d.map str).check.map fun _ => d.map str :=
  Plan.read_of_toJson (read_compact (Plan.isPlain_toJson d))

/-- A plan of texts on the wire: its document is printable, and reading it gives the plan back if
its tasks fit together, and the fault that the check of the plan gives if they do not. -/
theorem Plan.wire_codec (d : Plan String) :
    (∀ c ∈ (d.map str).document.toList, 0x20 ≤ c.toNat ∧ c.toNat ≤ 0x7e) ∧
      ((d.Fits ∧ Plan.read (d.map str).document = .ok (d.map str)) ∨
        (¬ d.Fits ∧ ∃ message, (d.map str).check = .error (.value message) ∧
          Plan.read (d.map str).document = .error (.value message))) := by
  refine ⟨isPrintable_of_mem_compact _ (Plan.isPlain_toJson d), ?_⟩
  rcases d.check_map_str with ⟨fits, checked⟩ | ⟨other, message, checked⟩
  · refine .inl ⟨fits, ?_⟩
    rw [d.read_document, checked]
    rfl
  · refine .inr ⟨other, message, checked, ?_⟩
    rw [d.read_document, checked]
    rfl

end ProofRelay

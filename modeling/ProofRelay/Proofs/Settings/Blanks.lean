import ProofRelay.Proofs.Decimal.Reading
import ProofRelay.Proofs.Settings.Precedence

/-!
# Blank variables

A variable can be there and say nothing, because its text is empty or holds blanks only.  The
variables of numbers are passed over then, since blanks are no number.  Two kinds of option take
such a text for a value.  Of the variables of a text the first one counts that is not empty, and
its blanks are cut off afterwards only, so that an empty text comes out of blanks; and the variable
of a malformed verification counts as soon as it is there, so that anything that does not say yes
says no.

Hence settings are loaded as if the blank variables were not there, unless one of them decides an
option in one of these two ways.  Such an option is blank or off, whatever the files say, and all
others are what they would be otherwise.

## Main definitions

* `Settings.withoutBlanks` : the world without the blank variables of options.
* `Settings.Place.IsBlanked` : the options that a blank text decides.
* `Settings.Blanked` : what the options are with and without the blank variables.

## Main results

* `Settings.load_withoutBlanks` : what blank variables do to settings.
-/

namespace ProofRelay

namespace Settings

open Json ProofRelay.Text ProofRelay.Decimal

/-! ### The world without blank variables -/

/-- Whether a variable is one of an option and holds a blank text. -/
def isBlankOption (w : World) (name : String) : Bool :=
  (owned.map (·.2)).contains name && (w.valueOf? name).any isBlankText

/-- The world without the blank variables of options. -/
def withoutBlanks (w : World) : World :=
  { w with environment := w.environment.filter fun e => !isBlankOption w e.1 }

variable {w : World} {p : Place} {name : String}

/-- Only the blank variables of options are gone. -/
theorem valueOf?_withoutBlanks (w : World) (name : String) :
    (withoutBlanks w).valueOf? name = if isBlankOption w name then none else w.valueOf? name := by
  rw [World.valueOf?, World.valueOf?, withoutBlanks, valueIn?, valueIn?, List.find?_filter]
  cases gone : isBlankOption w name with
  | true =>
    rw [if_pos rfl, Option.map_eq_none_iff, List.find?_eq_none]
    intro e _ found
    simp only [decide_eq_true_eq] at found
    rw [found.2, gone] at found
    exact absurd found.1 Bool.false_ne_true
  | false =>
    rw [if_neg Bool.false_ne_true]
    congr 2
    funext e
    by_cases same : e.1 = name
    · simp [same, gone]
    · simp [same]

/-- The variable of an option stays unless it is blank. -/
theorem valueOf?_of_reads (reads : p.Reads name) :
    (withoutBlanks w).valueOf? name = (w.valueOf? name).filter (!isBlankText ·) := by
  have option : (owned.map (·.2)).contains name = true :=
    List.contains_iff_mem.mpr (List.mem_map_of_mem (f := (·.2)) reads)
  rw [valueOf?_withoutBlanks, isBlankOption, option, Bool.true_and]
  cases w.valueOf? name with
  | none => rfl
  | some s => cases blank : isBlankText s <;> simp [Option.filter, blank]

/-- A variable that is none of an option stays. -/
theorem valueOf?_of_not_owned (other : name ∉ owned.map (·.2)) :
    (withoutBlanks w).valueOf? name = w.valueOf? name := by
  have beside : (owned.map (·.2)).contains name = false := by
    simpa using other
  rw [valueOf?_withoutBlanks, isBlankOption, beside, Bool.false_and, if_neg Bool.false_ne_true]

/-- The file of the operator is the same without the blank variables. -/
theorem operatorFile_withoutBlanks (w : World) (asked : Option Path) :
    operatorFile (withoutBlanks w) asked = operatorFile w asked := by
  have stays : ∀ n ∈ ["HOME", "BLOCKPROVER_HOME", "PYTEST_CURRENT_TEST"],
      (withoutBlanks w).valueOf? n = w.valueOf? n := by
    have apart : ∀ n ∈ ["HOME", "BLOCKPROVER_HOME", "PYTEST_CURRENT_TEST"],
        n ∉ owned.map (·.2) := by decide
    exact fun n mem => valueOf?_of_not_owned (apart n mem)
  have host : (withoutBlanks w).host = w.host := rfl
  rw [operatorFile, operatorFile, homeDirectory, homeDirectory, home, home, host,
    stays "HOME" (by decide), stays "BLOCKPROVER_HOME" (by decide),
    stays "PYTEST_CURRENT_TEST" (by decide)]

/-! ### Options that a blank text decides -/

/-- Whether a blank text decides an option: of a text, the first of its variables that is not
empty; of a malformed verification, its variable. -/
def Place.IsBlanked (w : World) : Place → Prop
  | .within key => ∃ names s, (key, names) ∈ textVariables ∧ firstValueOf? w names = some s ∧
      isBlankText s = true
  | .top name => name = "halt_on_malformed" ∧
      ∃ s, w.valueOf? haltVariable = some s ∧ isBlankText s = true

/-- What an option is that a blank text decides: empty, or off. -/
def Place.blank : Place → Json
  | .within _ => .str ""
  | .top _ => .bool false

theorem trim_of_isBlankText {s : String} (h : isBlankText s = true) : trim s.toList = [] := by
  have nothing : trimStart s.toList = [] :=
    (trimStart_eq_nil_iff _).mpr (List.all_eq_true.mp h)
  rw [trim, nothing]
  rfl

/-- A blank text gives a blank option. -/
theorem fromVariables_of_isBlanked (h : p.IsBlanked w) : fromVariables w p = some p.blank := by
  cases p with
  | within key =>
    obtain ⟨names, s, mem, first, blank⟩ := h
    rw [fromVariables_text w mem, textOf?, first, Option.map_some, trimmed,
      trim_of_isBlankText blank]
    rfl
  | top name =>
    obtain ⟨rfl, s, set, blank⟩ := h
    rw [fromVariables, if_pos rfl, haltOf?, set, Option.map_some, saysYes,
      trim_of_isBlankText blank]
    rfl

/-! ### Variables that say nothing -/

/-- Variables of which the first one counts are the same without blanks, unless that one is
blank. -/
theorem firstValueOf?_withoutBlanks {names : List String} (reads : ∀ n ∈ names, p.Reads n)
    (ink : ∀ s, firstValueOf? w names = some s → isBlankText s = false) :
    firstValueOf? (withoutBlanks w) names = firstValueOf? w names := by
  induction names with
  | nil => rfl
  | cons n names ih =>
    obtain ⟨own, reads⟩ := List.forall_mem_cons.mp reads
    rw [firstValueOf?, List.findSome?_cons] at ink
    rw [firstValueOf?, firstValueOf?, List.findSome?_cons, List.findSome?_cons,
      valueOf?_of_reads own]
    cases set : w.valueOf? n with
    | none =>
      rw [set] at ink
      exact ih reads ink
    | some s =>
      rw [set] at ink
      by_cases empty : s = ""
      · subst empty
        exact ih reads ink
      · have there : present (some s) = some s := by
          simp [present, Option.filter, empty]
        rw [there] at ink ⊢
        have inked := ink s rfl
        simp [Option.filter, inked, there]

theorem textOf?_withoutBlanks {key : SettingKey} {names : List String}
    (mem : (key, names) ∈ textVariables) (h : ¬ (Place.within key).IsBlanked w) :
    textOf? (withoutBlanks w) names = textOf? w names := by
  have ink : ∀ s, firstValueOf? w names = some s → isBlankText s = false := fun s first =>
    Bool.eq_false_iff.mpr fun blank => h ⟨names, s, mem, first, blank⟩
  rw [textOf?, textOf?, firstValueOf?_withoutBlanks (fun n => reads_of_text mem) ink]

/-- A variable that is read as a number says nothing when it is blank. -/
theorem present_withoutBlanks {α : Type} (reads : p.Reads name) (read? : String → Option α)
    (blanks : ∀ s, isBlankText s = true → read? s = none) :
    (present ((withoutBlanks w).valueOf? name)).bind read? =
      (present (w.valueOf? name)).bind read? := by
  rw [valueOf?_of_reads reads]
  cases w.valueOf? name with
  | none => rfl
  | some s =>
    cases blank : isBlankText s with
    | false => simp [Option.filter, blank]
    | true =>
      have nothing := blanks s blank
      simp only [Option.filter, present, blank, Bool.not_true, Bool.false_eq_true, if_false]
      split <;> simp [nothing]

theorem numberOf?_withoutBlanks {key : SettingKey} (mem : (key, name) ∈ numberVariables) :
    numberOf? (withoutBlanks w) name = numberOf? w name := by
  rw [numberOf?, numberOf?, present_withoutBlanks (reads_of_number mem) readFloat?]
  exact fun _ => readFloat?_of_isBlankText

theorem startOf?_withoutBlanks (w : World) : startOf? (withoutBlanks w) = startOf? w := by
  have own : (Place.top "default_start_block").Reads startVariable := by decide
  rw [startOf?, startOf?, present_withoutBlanks own fun raw => (readInt raw).toOption]
  intro s blank
  rw [readInt_of_isBlankText blank]
  rfl

theorem valueOf?_haltVariable_withoutBlanks (h : ¬ (Place.top "halt_on_malformed").IsBlanked w) :
    (withoutBlanks w).valueOf? haltVariable = w.valueOf? haltVariable := by
  have own : (Place.top "halt_on_malformed").Reads haltVariable := by decide
  rw [valueOf?_of_reads own]
  cases set : w.valueOf? haltVariable with
  | none => rfl
  | some s =>
    have ink : isBlankText s = false :=
      Bool.eq_false_iff.mpr fun blank => h ⟨rfl, s, set, blank⟩
    simp [Option.filter, ink]

/-- Of an option that no blank text decides, the variables say the same without blanks. -/
theorem fromVariables_withoutBlanks (h : ¬ p.IsBlanked w) :
    fromVariables (withoutBlanks w) p = fromVariables w p := by
  cases p with
  | within key =>
    have texts : (textVariables.lookup key).bind (textOf? (withoutBlanks w)) =
        (textVariables.lookup key).bind (textOf? w) := by
      cases found : textVariables.lookup key with
      | none => rfl
      | some names => exact textOf?_withoutBlanks (mem_of_lookup found) h
    have numbers : (numberVariables.lookup key).bind (numberOf? (withoutBlanks w)) =
        (numberVariables.lookup key).bind (numberOf? w) := by
      cases found : numberVariables.lookup key with
      | none => rfl
      | some name => exact numberOf?_withoutBlanks (mem_of_lookup found)
    rw [fromVariables, fromVariables, texts, numbers]
  | top name =>
    rw [fromVariables, fromVariables, startOf?_withoutBlanks]
    split
    · rename_i halt
      subst halt
      rw [haltOf?, haltOf?, valueOf?_haltVariable_withoutBlanks h]
    · rfl

/-! ### All layers -/

/-- Where no blank text decides an option, the variables write the same without blanks. -/
theorem overlaid_withoutBlanks (h : ∀ p : Place, ¬ p.IsBlanked w) (fields : Fields) :
    overlaid (withoutBlanks w) fields = overlaid w fields := by
  have texts : writesOf (textOf? (withoutBlanks w)) textVariables =
      writesOf (textOf? w) textVariables :=
    List.filterMap_congr fun e mem => by rw [textOf?_withoutBlanks mem (h _)]
  have numbers : writesOf (numberOf? (withoutBlanks w)) numberVariables =
      writesOf (numberOf? w) numberVariables :=
    List.filterMap_congr fun e mem => by rw [numberOf?_withoutBlanks mem]
  have halts : applyHalt (withoutBlanks w) = applyHalt w := by
    funext fs
    rw [applyHalt, applyHalt, valueOf?_haltVariable_withoutBlanks (h _)]
  have starts : withStart (withoutBlanks w) = withStart w := by
    funext fs
    rw [withStart, withStart, startOf?_withoutBlanks]
  rw [overlaid, overlaid, writes, writes, texts, numbers, halts, starts]

theorem document_withoutBlanks (h : ∀ p : Place, ¬ p.IsBlanked w) (asked workspace : Option Path) :
    document (withoutBlanks w) asked workspace = document w asked workspace := by
  have overlays : overlaid (withoutBlanks w) = overlaid w :=
    funext (overlaid_withoutBlanks h)
  rw [document, document, operatorFile_withoutBlanks, overlays]
  rfl

/-- What the options are with the blank variables, in the first of two documents, and without them,
in the second. -/
structure Blanked (w : World) (below above fields fields' : Fields) : Prop where
  /-- An option that a blank text decides: blank, or what its other variables and the files say. -/
  blanked : ∀ p : Place, p.IsOption → p.IsBlanked w → p.of? fields = some p.blank ∧
    p.of? fields' = (fromVariables (withoutBlanks w) p).or (fileValue? below above p)
  /-- Every other option: the same. -/
  others : ∀ p : Place, p.IsOption → ¬ p.IsBlanked w → p.of? fields' = p.of? fields

/-- Settings are loaded as if the blank variables were not there, faults included, where no blank
text decides an option.  Where one does, this option is blank whatever the files and its other
variables say, and no other option is changed. -/
theorem load_withoutBlanks (w : World) (asked workspace : Option Path) :
    ∃ x x', (load asked workspace).Finds w x ∧ (load asked workspace).Finds (withoutBlanks w) x' ∧
      ((∀ p : Place, ¬ p.IsBlanked w) → x' = x) ∧
      ∀ below above, Layers w asked workspace below above →
        ∃ fields fields', Blanked w below above fields fields' ∧
          x = ofFields fields (workspace.getD (FileTree.pathOf w.files.here)) ∧
          x' = ofFields fields' (workspace.getD (FileTree.pathOf w.files.here)) := by
  refine ⟨_, _, load_finds asked workspace w, load_finds asked workspace (withoutBlanks w),
    fun h => ?_, fun below above layers => ?_⟩
  · rw [document_withoutBlanks h]
    rfl
  · have rest : Layers (withoutBlanks w) asked workspace below above :=
      ⟨operatorFile_withoutBlanks w asked ▸ layers.operator, layers.workspace,
        layers.below_sectioned, layers.above_sectioned⟩
    obtain ⟨fields, found, decided⟩ := document_of_layers layers
    obtain ⟨fields', found', decided'⟩ := document_of_layers rest
    refine ⟨fields, fields', ⟨fun p option blanked => ⟨?_, decided' p option⟩,
      fun p option unblanked => ?_⟩, by rw [found]; rfl, by rw [found']; rfl⟩
    · rw [decided p option, fromVariables_of_isBlanked blanked]
      rfl
    · rw [decided p option, decided' p option, fromVariables_withoutBlanks unblanked]

/-- A world with variables, and no files. -/
def variablesWorld (environment : List (String × String)) : World :=
  { sampleWorld with files := ⟨[], []⟩, environment := environment }

theorem load_withoutBlanks_sample :
    let quiet := variablesWorld [("BLOCKPROVER_RPC_URL", ""), ("KATLA_ENDPOINT", "http://k"),
      ("BLOCKPROVER_POLL_INTERVAL", " ")]
    let loud := variablesWorld [("BLOCKPROVER_RPC_URL", " "), ("KATLA_ENDPOINT", "http://k")]
    ((∀ p : Place, ¬ p.IsBlanked quiet) ∧
      (withoutBlanks quiet).environment = [("KATLA_ENDPOINT", "http://k")] ∧
      ∃ x, (load none none).Finds quiet x ∧ (load none none).Finds (withoutBlanks quiet) x) ∧
    Layers loud none none [] [] ∧ ∃ fields fields', Blanked loud [] [] fields fields' ∧
      Place.of? fields (.within ⟨"chain", "rpc_url"⟩) = some (.str "") ∧
      Place.of? fields' (.within ⟨"chain", "rpc_url"⟩) = some (.str "http://k") := by
  intro quiet loud
  have ink : ∀ e ∈ textVariables, ∀ s, firstValueOf? quiet e.2 = some s →
      isBlankText s = false := by
    decide +kernel
  have unblanked : ∀ p : Place, ¬ p.IsBlanked quiet := by
    rintro (key | name)
    · rintro ⟨names, s, mem, first, blank⟩
      rw [ink _ mem s first] at blank
      cases blank
    · rintro ⟨-, s, set, -⟩
      cases set
  refine ⟨⟨unblanked, by decide +kernel, ?_⟩, ?_⟩
  · obtain ⟨x, x', found, found', same, -⟩ := load_withoutBlanks quiet none none
    exact ⟨x, found, same unblanked ▸ found'⟩
  · have empty : IsSectioned [] := isSectioned_of_forall (by simp)
    have layers : Layers loud none none [] [] :=
      ⟨⟨some (.ofString "/root/.blockprover/config.json"), by decide +kernel, by decide +kernel⟩,
        rfl, empty, empty⟩
    have known : "chain" ∈ areas := by decide
    have blanked : (Place.within ⟨"chain", "rpc_url"⟩).IsBlanked loud :=
      ⟨_, " ", List.mem_cons_self, by decide +kernel, by decide⟩
    obtain ⟨_, _, -, -, -, both⟩ := load_withoutBlanks loud none none
    obtain ⟨fields, fields', outcome, -⟩ := both [] [] layers
    obtain ⟨here, gone⟩ := outcome.blanked (.within ⟨"chain", "rpc_url"⟩) known blanked
    refine ⟨layers, fields, fields', outcome, here, gone.trans ?_⟩
    decide +kernel

/-- Blank variables count: an empty one turns off that a malformed verification ends a run, and
blanks in the place of the first name hide the address under the second one. -/
theorem blank_variables_count :
    let w := variablesWorld [("BLOCKPROVER_HALT_ON_MALFORMED", ""), ("BLOCKPROVER_RPC_URL", " "),
      ("KATLA_ENDPOINT", "http://k")]
    let told := fun w : World => ((load none none).runIn w).1.toOption.map fun s =>
      (s.haltOnMalformed, s.rpcUrl.text?)
    told w = some (false, some "") ∧ told (withoutBlanks w) = some (true, some "http://k") := by
  decide +kernel

end Settings

end ProofRelay

import ProofRelay.CommandLine.Frontend
import ProofRelay.Proofs.CommandLine.RunTask

/-!
# Reading arguments

A list of arguments is read from its front: a word stands for itself, an option may take the
argument behind it.  The rules of the parameters are then applied one after the other in the order
of their ranks, the rules of parameters that were not given among them.  So what is true of all that
a command is told follows rule by rule: each rule that is applied keeps it, whatever the order is.

For a few lists of arguments the order is found by hand.

## Main definitions

* `Parameter.Keeps` : rules that keep a property of what a command is told.
* `RunTask.saidAboutMalformed` : what the last of two options says.
* `PlanTask.argumentsFor` : the arguments that name a witness by its checksum and its block.

## Main results

* `readArguments_word`, `readArguments_value` : a word alone, and an option with its value in front
  of other arguments.
* `exists_of_readAll` : what a command is told comes from its rules in some order.
* `RunTask.isSound_of_readAll`, `RunTask.halt_of_readAll` : what the command that runs jobs is told.
* `ResultTask.readAll_word`, `PlanTask.readAll_argumentsFor` : what two other commands are told.
* `Invocation.read_run` : the command that runs jobs behind no options of the group.
-/

namespace ProofRelay.CommandLine

open ProofRelay.Text ProofRelay.Decimal

/-! ### Arguments one after the other -/

section Forms

variable {forms : List OptionForm} {a : Arguments}

/-- A text that does not begin with a dash is no option. -/
theorem readArguments_word {text : String} (word : text.toList.head? ≠ some '-') :
    readArguments forms true [text] = .ok ⟨[], [text]⟩ := by
  have noDashes : text ≠ "--" := by
    rintro rfl
    exact word rfl
  have noOption : isOption text = false := by
    rw [isOption]
    split
    · next chars =>
      rw [chars] at word
      exact absurd rfl word
    · rfl
  rw [readArguments, if_neg noDashes, noOption]
  rfl

/-- An option takes the argument behind it, whatever that is. -/
theorem readArguments_value (name : String) {value : String} {rest : List String}
    (dashes : name ≠ "--") (option : isOption name = true)
    (awaits : readOption forms name = .ok ⟨[], some name⟩)
    (others : readArguments forms true rest = .ok a) :
    readArguments forms true (name :: value :: rest) =
      .ok ⟨⟨name, some value⟩ :: a.options, a.words⟩ := by
  rw [readArguments, if_neg dashes, option, awaits]
  dsimp only
  rw [others]
  rfl

end Forms

/-! ### Parameters in order -/

section Order

variable {α : Type} (le : α → α → Bool)

theorem mergeSort_two (a b : α) : [a, b].mergeSort le = if le a b then [a, b] else [b, a] := by
  simp [List.mergeSort, List.MergeSort.Internal.splitInTwo, List.merge]

theorem mergeSort_six (a b c d e f : α) :
    [a, b, c, d, e, f].mergeSort le =
      (([a, b].mergeSort le).merge [c] le).merge (([d, e].mergeSort le).merge [f] le) le := by
  simp [List.mergeSort, List.MergeSort.Internal.splitInTwo]

end Order

/-! ### Rules in a row -/

section Rules

variable {σ : Type} {P : σ → Prop} {a : Arguments} {names : List String}

/-- Whether a rule keeps a property of what a command is told. -/
def Parameter.Keeps (a : Arguments) (P : σ → Prop) (p : Parameter σ) : Prop :=
  ∀ s s', P s → p.read (p.given? a) s = .ok s' → P s'

/-- What rules tell one after the other. -/
def tell (a : Arguments) (rules : List (Parameter σ)) (s : σ) : Except Halt σ :=
  rules.foldlM (fun s p => p.read (p.given? a) s) s

theorem tell_cons {p : Parameter σ} {rules : List (Parameter σ)} {s t : σ}
    (h : tell a (p :: rules) s = .ok t) :
    ∃ s', p.read (p.given? a) s = .ok s' ∧ tell a rules s' = .ok t := by
  rw [tell, List.foldlM_cons] at h
  cases read : p.read (p.given? a) s with
  | error e => rw [read] at h; cases h
  | ok s' => rw [read] at h; exact ⟨s', rfl, h⟩

/-- A property that each rule keeps holds in the end. -/
theorem Parameter.Keeps.tell {rules : List (Parameter σ)} (h : ∀ p ∈ rules, p.Keeps a P) {s t : σ}
    (start : P s) (told : tell a rules s = .ok t) : P t := by
  induction rules generalizing s with
  | nil => cases told; exact start
  | cons p rules ih =>
    obtain ⟨first, rest⟩ := List.forall_mem_cons.mp h
    obtain ⟨s', read, told⟩ := tell_cons told
    exact ih rest (first s s' start read) told

/-- What one of the rules makes true and each keeps holds in the end. -/
theorem tell_of_mem {rules : List (Parameter σ)} (h : ∀ p ∈ rules, p.Keeps a P) {p : Parameter σ}
    (mem : p ∈ rules) (makes : ∀ s s', p.read (p.given? a) s = .ok s' → P s') {s t : σ}
    (told : tell a rules s = .ok t) : P t := by
  induction rules generalizing s with
  | nil => cases mem
  | cons q rules ih =>
    obtain ⟨s', read, later⟩ := tell_cons told
    obtain ⟨-, rest⟩ := List.forall_mem_cons.mp h
    rcases List.mem_cons.mp mem with rfl | mem
    · exact Parameter.Keeps.tell rest (makes s s' read) later
    · exact ih rest mem later

theorem Parameter.Keeps.help : (Parameter.help : Parameter σ).Keeps a P := by
  intro s s' holds read
  rw [Parameter.help] at read
  dsimp only at read
  split at read <;> cases read
  exact holds

theorem Parameter.Keeps.switch {change : σ → σ} (h : ∀ s, P s → P (change s)) :
    (Parameter.switch names change).Keeps a P := by
  intro s s' holds read
  rw [Parameter.switch] at read
  dsimp only at read
  split at read <;> cases read
  · exact h s holds
  · exact holds

theorem Parameter.Keeps.option {change : String → σ → Except ValueRefusal σ}
    (h : ∀ text s s', P s → change text s = .ok s' → P s') :
    (Parameter.option names change).Keeps a P := by
  intro s s' holds read
  rw [Parameter.option] at read
  dsimp only at read
  split at read
  · cases read
    exact holds
  · split at read
    · rename_i changed
      cases read
      exact h _ _ _ holds changed
    · cases read

/-- An option whose value is read, and then set. -/
theorem Parameter.Keeps.setting {β : Type} {read : String → Except ValueRefusal β}
    {set : β → σ → σ} (h : ∀ text y s, P s → read text = .ok y → P (set y s)) :
    (Parameter.option names fun text s => do return set (← read text) s).Keeps a P := by
  refine .option fun text s s' holds changed => ?_
  cases value : read text with
  | error e => rw [value] at changed; cases changed
  | ok y =>
    rw [value] at changed
    cases changed
    exact h text y s holds value

/-- What a command is told comes from its rules in some order. -/
theorem exists_of_readAll {parameters : List (Parameter σ)} {initial t : σ}
    {arguments : List String} (h : readAll parameters initial arguments = .ok t) :
    ∃ a, readArguments (parameters.filterMap (·.form)) true arguments = .ok a ∧
      ∃ rules, (∀ p, p ∈ rules ↔ p ∈ parameters) ∧ tell a rules initial = .ok t := by
  rw [readAll, readParameters] at h
  cases given : readArguments (parameters.filterMap (·.form)) true arguments with
  | error f => rw [given] at h; cases h
  | ok a =>
    rw [given] at h
    refine ⟨a, rfl, parameters.mergeSort fun p q => p.rank a ≤ q.rank a,
      fun p => List.mem_mergeSort, ?_⟩
    dsimp only at h
    cases told : tell a (parameters.mergeSort fun p q => p.rank a ≤ q.rank a) initial with
    | error e =>
      rw [tell] at told
      rw [told] at h
      cases h
    | ok t' =>
      rw [tell] at told
      rw [told] at h
      change (if _ then Except.ok t' else Except.error _) = Except.ok t at h
      split at h
      · exact h
      · cases h

/-- What a command is told, from its rules in their order. -/
theorem readAll_eq (ordered : List (Parameter σ)) {parameters : List (Parameter σ)} {initial t : σ}
    {arguments : List String}
    (given : readArguments (parameters.filterMap (·.form)) true arguments = .ok a)
    (inOrder : (parameters.mergeSort fun p q => decide (p.rank a ≤ q.rank a)) = ordered)
    (told : tell a ordered initial = .ok t)
    (taken : (a.words.drop (parameters.countP fun p => p.form.isNone)).isEmpty = true) :
    readAll parameters initial arguments = .ok t := by
  rw [tell] at told
  rw [readAll, readParameters, given]
  dsimp only
  rw [inOrder, told]
  change (if _ then _ else _) = _
  rw [if_pos taken]
  rfl

end Rules

/-! ### The command that runs jobs -/

theorem wholeFrom_eq_ok {least n : Int} {text : String} (h : wholeFrom least text = .ok n) :
    least ≤ n := by
  rw [wholeFrom] at h
  split at h
  · cases h
  · split at h
    · cases h
    · rename_i enough
      cases h
      omega

theorem positiveNumber_eq_ok {x : Float} {text : String} (h : positiveNumber text = .ok x) :
    ¬ x ≤ 0 := by
  rw [positiveNumber] at h
  split at h
  · cases h
  · split at h
    · cases h
    · rename_i positive
      cases h
      exact positive

namespace RunTask

variable {arguments : List String} {t : RunTask}

theorem keeps_isSound (a : Arguments) : ∀ p ∈ parameters, p.Keeps a IsSound := by
  have first : startParameter.Keeps a IsSound := by
    intro s s' holds read
    rw [startParameter] at read
    dsimp only at read
    split at read
    · cases read
      exact holds
    · split at read
      · rename_i n whole
        cases read
        refine { holds with start := ?_ }
        rintro _ ⟨⟩
        exact wholeFrom_eq_ok whole
      · cases read
  have halts : haltParameter.Keeps a IsSound := by
    intro s s' holds read
    rw [haltParameter] at read
    dsimp only at read
    split at read <;> cases read
    · exact holds
    · exact { holds with }
  have mode : ∀ text s s', IsSound s → readMode text s = .ok s' → IsSound s' := by
    intro text s s' holds read
    rw [readMode] at read
    split at read <;> cases read
    exact { holds with }
  simp only [parameters, List.forall_mem_cons, List.not_mem_nil, false_imp_iff, implies_true,
    and_true]
  refine ⟨first, .option mode, .setting fun text n s holds whole => ?_,
    .switch fun s holds => { holds with }, halts, .setting fun text x s holds positive => ?_,
    .setting fun text x s holds _ => { holds with }, .help⟩
  · refine { holds with limit := ?_ }
    rintro _ ⟨⟩
    exact wholeFrom_eq_ok whole
  · refine { holds with interval := ?_ }
    rintro _ ⟨⟩
    exact positiveNumber_eq_ok positive

theorem isSound_of_readAll (h : readAll parameters .initial arguments = .ok t) : t.IsSound := by
  obtain ⟨a, -, rules, same, told⟩ := exists_of_readAll h
  refine Parameter.Keeps.tell (fun p mem => keeps_isSound a p ((same p).mp mem)) ?_ told
  exact { start := fun _ => nofun, limit := fun _ => nofun, interval := fun _ => nofun }

/-- What is told about malformed verifications by the last of the two options that was given. -/
def saidAboutMalformed (a : Arguments) : Option Bool :=
  (haltParameter.given? a).map fun g => g.name == "--halt-on-malformed"

/-- No other rule touches what is told about malformed verifications. -/
theorem keeps_halt (a : Arguments) {said : Option Bool}
    (h : ∀ g, haltParameter.given? a = some g → said = saidAboutMalformed a) :
    ∀ p ∈ parameters, p.Keeps a fun t => t.halt = said := by
  have first : startParameter.Keeps a fun t => t.halt = said := by
    intro s s' holds read
    rw [startParameter] at read
    dsimp only at read
    split at read
    · cases read
      exact holds
    · split at read <;> cases read
      exact holds
  have halts : haltParameter.Keeps a fun t => t.halt = said := by
    intro s s' holds read
    cases given : haltParameter.given? a with
    | none =>
      rw [given] at read
      cases read
      exact holds
    | some g =>
      have last := h g given
      rw [given] at read
      cases read
      rw [last, saidAboutMalformed, given, Option.map_some]
  have mode : ∀ text (s s' : RunTask), s.halt = said → readMode text s = .ok s' →
      s'.halt = said := by
    intro text s s' holds read
    rw [readMode] at read
    split at read <;> cases read
    exact holds
  simp only [parameters, List.forall_mem_cons, List.not_mem_nil, false_imp_iff, implies_true,
    and_true]
  exact ⟨first, .option mode, .setting fun text n s holds _ => holds, .switch fun s holds => holds,
    halts, .setting fun text x s holds _ => holds, .setting fun text x s holds _ => holds, .help⟩

/-- Whether a malformed verification ends the run is told by the last of the two options for it that
was given. -/
theorem halt_of_readAll (h : readAll parameters .initial arguments = .ok t) :
    ∃ a, readArguments (parameters.filterMap (·.form)) true arguments = .ok a ∧
      t.halt = saidAboutMalformed a := by
  obtain ⟨a, read, rules, same, told⟩ := exists_of_readAll h
  refine ⟨a, read, ?_⟩
  have keeps := fun said h p mem => @keeps_halt a said h p ((same p).mp mem)
  cases given : haltParameter.given? a with
  | none =>
    rw [saidAboutMalformed, given, Option.map_none]
    refine Parameter.Keeps.tell (keeps none fun g other => ?_) rfl told
    rw [given] at other
    cases other
  | some g =>
    have mem : haltParameter ∈ rules := (same _).mpr (by simp [parameters])
    refine tell_of_mem (keeps _ fun _ _ => rfl) mem (fun s s' read => ?_) told
    rw [given] at read
    cases read
    rw [saidAboutMalformed, given, Option.map_some]

section Arguments

variable {text number : String} {n m : Int}

theorem read_startParameter {a : Arguments} {rest : List String} (words : a.words = text :: rest)
    (whole : wholeFrom 0 text = .ok n) (t : RunTask) :
    startParameter.read (startParameter.given? a) t = .ok { t with start := some n } := by
  simp only [startParameter, Parameter.given?, words, List.head?_cons, Option.map_some,
    Option.bind_some, whole]

/-- A block alone. -/
theorem readAll_start (word : text.toList.head? ≠ some '-') (whole : wholeFrom 0 text = .ok n) :
    readAll parameters .initial [text] = .ok { initial with start := some n } := by
  refine readAll_eq (.help :: parameters.dropLast) (readArguments_word word) ?_ ?_ rfl
  · simp [parameters, List.mergeSort, List.MergeSort.Internal.splitInTwo, Parameter.rank,
      Parameter.place, Parameter.help, Parameter.switch, Parameter.option, startParameter,
      haltParameter]
  · change (startParameter.read (startParameter.given? ⟨[], [text]⟩) initial >>=
      tell ⟨[], [text]⟩ parameters.dropLast.tail) = _
    rw [read_startParameter rfl whole]
    rfl

/-- A number of blocks from one on. -/
theorem readAll_follow (word : text.toList.head? ≠ some '-') (whole : wholeFrom 0 text = .ok n)
    (many : wholeFrom 1 number = .ok m) :
    readAll parameters .initial ["--mode", "follow", "--count", number, text] =
      .ok { initial with start := some n, mode := .follow, limit := some m } := by
  let a : Arguments := ⟨[⟨"--mode", some "follow"⟩, ⟨"--count", some number⟩], [text]⟩
  have given : readArguments (parameters.filterMap (·.form)) true
      ["--mode", "follow", "--count", number, text] = .ok a :=
    readArguments_value "--mode" (by decide) (by decide) rfl
      (readArguments_value "--count" (by decide) (by decide) rfl (readArguments_word word))
  refine readAll_eq (.help :: (parameters.dropLast.tail.take 2 ++
    startParameter :: parameters.dropLast.drop 3)) given ?_ ?_ rfl
  · simp [a, parameters, List.mergeSort, List.MergeSort.Internal.splitInTwo, Parameter.rank,
      Parameter.place, Parameter.help, Parameter.switch, Parameter.option, startParameter,
      haltParameter, List.findIdx?_cons]
  · have counted : (Parameter.option ["--count"] fun text (t : RunTask) => do
        return { t with limit := some (← wholeFrom 1 text) }).read (some ⟨"--count", some number⟩)
          { initial with mode := .follow } =
            .ok { initial with mode := .follow, limit := some m } := by
      simp only [Parameter.option, Option.bind_some, many]
      rfl
    change (Parameter.read _ (some ⟨"--count", some number⟩) { initial with mode := .follow } >>=
      tell a (startParameter :: parameters.dropLast.drop 3)) = _
    rw [counted]
    change (startParameter.read (startParameter.given? a) _ >>=
      tell a (parameters.dropLast.drop 3)) = _
    rw [read_startParameter rfl whole]
    rfl

end Arguments

end RunTask

/-! ### The command that polls a transaction once -/

/-- A word that does not begin with a dash is the transaction. -/
theorem ResultTask.readAll_word {transaction : String}
    (word : transaction.toList.head? ≠ some '-') :
    readAll ResultTask.parameters .initial [transaction] = .ok ⟨transaction⟩ := by
  have ordered : (ResultTask.parameters.mergeSort fun p q =>
      decide (p.rank ⟨[], [transaction]⟩ ≤ q.rank ⟨[], [transaction]⟩)) =
        [.help, ResultTask.transactionParameter] := by
    rw [ResultTask.parameters, mergeSort_two]
    rfl
  rw [readAll, readParameters, readArguments_word word]
  dsimp only
  rw [ordered]
  rfl

/-! ### The command that shows a plan -/

namespace PlanTask

/-- The arguments that name a witness by its checksum and its block. -/
def argumentsFor (checksum number : String) (pretty : Bool) : List String :=
  "--checksum" :: checksum :: "--block" :: number :: if pretty then ["--pretty"] else []

/-- The options in them. -/
def optionsFor (checksum number : String) (pretty : Bool) : List Given :=
  ⟨"--checksum", some checksum⟩ :: ⟨"--block", some number⟩ ::
    if pretty then [⟨"--pretty", none⟩] else []

theorem readArguments_argumentsFor (checksum number : String) (pretty : Bool) :
    readArguments (parameters.filterMap (·.form)) true (argumentsFor checksum number pretty) =
      .ok ⟨optionsFor checksum number pretty, []⟩ := by
  have switched : readArguments (parameters.filterMap (·.form)) true
      (if pretty then ["--pretty"] else []) =
        .ok ⟨if pretty then [⟨"--pretty", none⟩] else [], []⟩ := by
    cases pretty <;> rfl
  exact readArguments_value "--checksum" (by decide) (by decide) rfl
    (readArguments_value "--block" (by decide) (by decide) rfl switched)

section Order

variable {σ : Type} {a : Arguments} {c b n u p h : Parameter σ}

theorem inOrder_plain (hc : c.rank a = 4) (hb : b.rank a = 5) (hn : n.rank a = 7)
    (hu : u.rank a = 7) (hp : p.rank a = 7) (hh : h.rank a = 3) :
    ([c, b, n, u, p, h].mergeSort fun p q => decide (p.rank a ≤ q.rank a)) =
      [h, c, b, n, u, p] := by
  simp [mergeSort_six, mergeSort_two, hc, hb, hn, hu, hp, hh]

theorem inOrder_pretty (hc : c.rank a = 5) (hb : b.rank a = 6) (hn : n.rank a = 9)
    (hu : u.rank a = 9) (hp : p.rank a = 7) (hh : h.rank a = 4) :
    ([c, b, n, u, p, h].mergeSort fun p q => decide (p.rank a ≤ q.rank a)) =
      [h, c, b, p, n, u] := by
  simp [mergeSort_six, mergeSort_two, hc, hb, hn, hu, hp, hh]

end Order

/-- What the arguments tell the command. -/
theorem readAll_argumentsFor (checksum : String) {number : String} {n : Int} (pretty : Bool)
    (numbered : wholeFrom 0 number = .ok n) :
    readAll parameters initial (argumentsFor checksum number pretty) =
      .ok ⟨checksum, some n, none, none, pretty⟩ := by
  rw [readAll, readParameters, readArguments_argumentsFor]
  dsimp only
  cases pretty with
  | false =>
    rw [parameters, inOrder_plain rfl rfl rfl rfl rfl rfl]
    simp [Parameter.given?, optionsFor, Parameter.help, Parameter.required, Parameter.option,
      Parameter.switch, numbered, initial, bind, Except.bind, pure, Except.pure]
  | true =>
    rw [parameters, inOrder_pretty rfl rfl rfl rfl rfl rfl]
    simp [Parameter.given?, optionsFor, Parameter.help, Parameter.required, Parameter.option,
      Parameter.switch, numbered, initial, bind, Except.bind, pure, Except.pure]

end PlanTask

/-! ### Looking up the command that runs jobs -/

/-- The command that runs jobs, behind no options of the group. -/
theorem Invocation.read_run (f : FileTree) (rest : List String) :
    read f ("run" :: rest) = .ok ⟨.initial, .run, rest⟩ := by
  have words : readArguments ((GroupTask.parameters f).filterMap (·.form)) false ("run" :: rest) =
      .ok ⟨[], "run" :: rest⟩ := rfl
  have ordered : ((GroupTask.parameters f).mergeSort fun p q =>
      decide (p.rank ⟨[], "run" :: rest⟩ ≤ q.rank ⟨[], "run" :: rest⟩)) =
        GroupTask.versionParameter :: .help :: (GroupTask.parameters f).dropLast.tail := by
    simp [GroupTask.parameters, List.mergeSort, List.MergeSort.Internal.splitInTwo, Parameter.rank,
      Parameter.place, Parameter.help, Parameter.switch, GroupTask.pathParameter,
      GroupTask.versionParameter]
  have group : GroupTask.read f ("run" :: rest) = .ok (.initial, "run" :: rest) := by
    rw [GroupTask.read, readParameters, words]
    dsimp only
    rw [ordered]
    rfl
  rw [read, group]
  rfl

end ProofRelay.CommandLine

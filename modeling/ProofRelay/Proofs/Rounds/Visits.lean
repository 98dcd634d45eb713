import Mathlib.Data.List.Chain
import Mathlib.Data.List.Nodup
import ProofRelay.Proofs.World.Conduct
import ProofRelay.Rounds

/-!
# Rounds, visit by visit

The jobs that rounds start, each with the world in which it was started, what became of it and the
world after it, are their *visits*.  Rounds pass a visit whose job succeeded, and one with a
malformed verification unless that ends them; then they note no more than a log line before the next
visit.  Before each visit they look for a request to stop and at the count of the visits.  So the
visits tell the whole course of the rounds: the blocks follow each other, each world is the one in
which the visit before left off, and the rounds end in one of five ways.

Nothing is assumed of the job, which may change the world in any way and may raise the request to
stop at any time.

## Main definitions

* `Visit` : a job that was started, and what became of it.
* `Rounds.Passes`, `Rounds.leaves` : visits after which the rounds go on, and the world then.
* `Rounds.Course` : the courses of rounds from a block on.
* `Rounds.Opening`, `Rounds.Ending` : how the first block is found, and how rounds end.
* `Rounds.Conducted` : what is true of the visits of rounds.

## Main results

* `Rounds.runFrom_course` : rounds take one of the courses.
* `Rounds.run_conducted` : what is true of all rounds.
-/

namespace ProofRelay

open Activity

/-! ### Visits -/

/-- The payload of the malformed verification that ended an activity, if one did. -/
def Interruption.malformed? : Interruption → Option String
  | .fault (.stage f) =>
    match f.cause with
    | .malformed payload .. => some payload
    | _ => none
  | _ => none

/-- A job that was started for a block. -/
structure Visit where
  /-- The block. -/
  block : Int
  /-- The world in which it was started. -/
  before : World
  /-- What became of it. -/
  outcome : Except Interruption Unit
  /-- The world after it. -/
  after : World

namespace Visit

/-- Whether the job did what it does. -/
def IsOf (job : Int → Activity Unit) (v : Visit) : Prop :=
  (job v.block).runIn v.before = (v.outcome, v.after)

/-- Whether the block was verified. -/
def isVerified (v : Visit) : Bool :=
  match v.outcome with
  | .ok _ => true
  | .error _ => false

/-- The payload of the malformed verification, if that is what became of the job. -/
def malformed? (v : Visit) : Option String :=
  match v.outcome with
  | .ok _ => none
  | .error i => i.malformed?

end Visit

namespace Tally

/-- One more block, verified or not. -/
def count (t : Tally) (v : Visit) : Tally :=
  if v.isVerified then t.addVerified v.block else t.addMalformed v.block

theorem processed_count (t : Tally) (v : Visit) : (t.count v).processed = t.processed + 1 := by
  rw [count]
  split
  · simp only [processed, addVerified, List.length_append, List.length_singleton]
    omega
  · simp only [processed, addMalformed, List.length_append, List.length_singleton]
    omega

theorem foldl_count (vs : List Visit) (t : Tally) :
    vs.foldl count t =
      ⟨t.verified ++ (vs.filter Visit.isVerified).map Visit.block,
        t.malformed ++ (vs.filter (!·.isVerified)).map Visit.block⟩ := by
  induction vs generalizing t with
  | nil => simp
  | cons v vs ih =>
    rw [List.foldl_cons, ih, count]
    cases verified : v.isVerified <;> simp [verified, addVerified, addMalformed]

end Tally

namespace Rounds

variable (r : Rounds) (job : Int → Activity Unit)

/-! ### One visit -/

/-- Whether the rounds go on after a visit: its block was verified, or was malformed while that does
not end them. -/
def Passes (v : Visit) : Prop :=
  v.outcome = .ok () ∨ v.malformed?.isSome = true ∧ r.haltOnMalformed = false

/-- The log line of a malformed verification that does not end the rounds. -/
def skipLine (block : Int) (payload : String) : Event :=
  .log .warning "run_loop" ("block " ++ toString block ++
    ": malformed verification, continuing: " ++ String.ofList (payload.toList.take shownLength))

/-- The world after a visit that was passed: there may be a log line more. -/
def leaves (v : Visit) : World :=
  match v.malformed? with
  | some payload => v.after.note (skipLine v.block payload)
  | none => v.after

theorem headReads_note_log (w : World) (level : Level) (source message : String) :
    (w.note (.log level source message)).headReads = w.headReads := by
  simp [World.headReads, World.note]

theorem headReads_leaves (v : Visit) : (leaves v).headReads = v.after.headReads := by
  rw [leaves]
  cases v.malformed? with
  | none => rfl
  | some payload => exact headReads_note_log ..

/-- Rounds count a visit that they pass. -/
theorem runIn_step_of_passes {v : Visit} (run : v.IsOf job) (passes : r.Passes v) (t : Tally) :
    (r.step job t v.block).runIn v.before = (.ok (t.count v), leaves v) := by
  obtain ⟨block, before, outcome, after⟩ := v
  have run : (job block).runIn before = (outcome, after) := run
  rw [step, runIn_tryCatch, runIn_bind, run]
  rcases passes with verified | ⟨malformed, goesOn⟩
  · obtain rfl : outcome = .ok () := verified
    rfl
  · match outcome with
    | .ok () => rfl
    | .error (.fault (.stage f)) =>
      simp only [Visit.malformed?, Interruption.malformed?] at malformed
      cases cause : f.cause with
      | malformed payload transaction leaf =>
        simp only [leaves, Visit.malformed?, Interruption.malformed?, cause, goesOn]
        rfl
      | _ => simp [cause] at malformed
    | .error .endless => cases malformed

/-- A visit that is not passed ends the rounds with what became of it. -/
theorem runIn_step_of_not_passes {v : Visit} (run : v.IsOf job) (halts : ¬ r.Passes v) (t : Tally) :
    ∃ i, v.outcome = .error i ∧ (r.step job t v.block).runIn v.before = (.error i, v.after) := by
  obtain ⟨block, before, outcome, after⟩ := v
  have run : (job block).runIn before = (outcome, after) := run
  match outcome with
  | .ok () => exact absurd (.inl rfl) halts
  | .error i =>
    refine ⟨i, rfl, ?_⟩
    have ended : ((do job block; return t.addVerified block : Activity Tally)).runIn before =
        (.error i, after) := runIn_bind_error run _
    rw [step, runIn_tryCatch, ended]
    simp only
    split
    · next f =>
      split
      · next payload _ _ cause =>
        have halting : r.haltOnMalformed = true := by
          refine Bool.not_eq_false _ ▸ fun goesOn => halts (.inr ⟨?_, goesOn⟩)
          simp [Visit.malformed?, Interruption.malformed?, cause]
        rw [if_pos halting]
        rfl
      · rfl
    · rfl

/-! ### The courses -/

/-- The log line of a request to stop that is found before a block. -/
def stopLine (block : Int) : Event :=
  .log .info "run_loop" ("stop requested before block " ++ toString block)

/-- Whether a job may be started: there is no request to stop, and there are not enough blocks
yet. -/
structure MayStart (t : Tally) (w : World) : Prop where
  /-- There is no request to stop. -/
  free : w.stopDue = false
  /-- There are not enough blocks. -/
  wanted : r.isFull t = false

/-- The courses of rounds from a block on, with the blocks that were done before, a bound on the
visits, and the visits. -/
inductive Course :
    Nat → Tally → Int → World → List Visit → Except Interruption Tally → World → Prop
  /-- The bound is reached. -/
  | bounded {t n w} : Course 0 t n w [] (.error .endless) w
  /-- There is a request to stop. -/
  | stopped {k t n w} (due : w.stopDue = true) :
    Course (k + 1) t n w [] (.ok t) (w.note (stopLine n))
  /-- There are enough blocks. -/
  | full {k t n w} (free : w.stopDue = false) (full : r.isFull t = true) :
      Course (k + 1) t n w [] (.ok t) w
  /-- A job ends the rounds. -/
  | failed {k t i} {v : Visit} (starts : r.MayStart t v.before) (run : v.IsOf job)
      (halts : ¬ r.Passes v) (outcome : v.outcome = .error i) :
      Course (k + 1) t v.block v.before [v] (.error i) v.after
  /-- There are no more blocks. -/
  | done {k t} {v : Visit} (starts : r.MayStart t v.before) (run : v.IsOf job)
      (passes : r.Passes v) (once : r.mode ≠ .follow) :
      Course (k + 1) t v.block v.before [v] (.ok (t.count v)) (leaves v)
  /-- The next block follows. -/
  | went {k t vs x w'} {v : Visit} (starts : r.MayStart t v.before) (run : v.IsOf job)
      (passes : r.Passes v) (follow : r.mode = .follow)
      (rest : Course k (t.count v) (v.block + 1) (leaves v) vs x w') :
      Course (k + 1) t v.block v.before (v :: vs) x w'

/-- Rounds take one of the courses. -/
theorem runFrom_course (k : Nat) (t : Tally) (n : Int) (w : World) :
    ∃ vs, r.Course job k t n w vs ((r.runFrom job k t n).runIn w).1
      ((r.runFrom job k t n).runIn w).2 := by
  induction k generalizing t n w with
  | zero => exact ⟨[], .bounded⟩
  | succ k ih =>
    have asked : stopRequested.runIn w = (.ok w.stopDue, w) := rfl
    rw [runFrom, runIn_bind_ok asked]
    cases due : w.stopDue with
    | true => exact ⟨[], .stopped due⟩
    | false =>
      cases full : r.isFull t with
      | true => exact ⟨[], .full due full⟩
      | false =>
        let v : Visit := ⟨n, w, ((job n).runIn w).1, ((job n).runIn w).2⟩
        have starts : r.MayStart t v.before := ⟨due, full⟩
        have run : v.IsOf job := rfl
        simp only [Bool.false_eq_true, if_false]
        by_cases passes : r.Passes v
        · have stepped : (r.step job t n).runIn w = (.ok (t.count v), leaves v) :=
            r.runIn_step_of_passes job run passes t
          rw [runIn_bind_ok stepped]
          split
          · next follow =>
            obtain ⟨vs, course⟩ := ih (t.count v) (v.block + 1) (leaves v)
            exact ⟨v :: vs, .went starts run passes follow course⟩
          · next once => exact ⟨[v], .done starts run passes once⟩
        · obtain ⟨i, outcome, stepped⟩ := r.runIn_step_of_not_passes job run passes t
          rw [runIn_bind_error stepped]
          exact ⟨[v], .failed starts run passes outcome⟩

/-! ### What the visits tell -/

/-- The world after visits, as the last one leaves it. -/
def reached (w : World) (vs : List Visit) : World :=
  (vs.getLast?.map leaves).getD w

theorem reached_cons (w : World) (v : Visit) (vs : List Visit) :
    reached w (v :: vs) = reached (leaves v) vs := by
  rw [reached, reached, List.getLast?_cons]
  cases vs.getLast? <;> rfl

/-- How rounds end from a block on, with the blocks that were done before. -/
inductive Ending (bound : Nat) (t : Tally) (n : Int) (w : World) (vs : List Visit) :
    Except Interruption Tally → World → Prop
  /-- There is a request to stop before the next block. -/
  | stopped (all : ∀ v ∈ vs, r.Passes v) (due : (reached w vs).stopDue = true) :
      Ending bound t n w vs (.ok (vs.foldl Tally.count t))
        ((reached w vs).note (stopLine (n + vs.length)))
  /-- There are enough blocks. -/
  | full (all : ∀ v ∈ vs, r.Passes v) (full : r.isFull (vs.foldl Tally.count t) = true) :
      Ending bound t n w vs (.ok (vs.foldl Tally.count t)) (reached w vs)
  /-- The one block is done. -/
  | done (all : ∀ v ∈ vs, r.Passes v) (once : r.mode ≠ .follow) (one : vs.length = 1) :
      Ending bound t n w vs (.ok (vs.foldl Tally.count t)) (reached w vs)
  /-- What became of the last job ends them. -/
  | failed {us v i} (last : vs = us ++ [v]) (earlier : ∀ u ∈ us, r.Passes u)
      (halts : ¬ r.Passes v) (outcome : v.outcome = .error i) :
      Ending bound t n w vs (.error i) v.after
  /-- The bound is reached. -/
  | bounded (all : ∀ v ∈ vs, r.Passes v) (reaches : vs.length = bound) :
      Ending bound t n w vs (.error .endless) (reached w vs)

namespace Course

variable {r job} {k : Nat} {t : Tally} {n : Int} {w w' : World} {vs : List Visit}
  {x : Except Interruption Tally}

theorem isOf (h : r.Course job k t n w vs x w') : ∀ v ∈ vs, v.IsOf job := by
  induction h with
  | bounded | stopped | full => simp
  | failed _ run | done _ run => simpa using run
  | went _ run _ _ _ ih => exact List.forall_mem_cons.mpr ⟨run, ih⟩

/-- The first visit is to the first block. -/
theorem head (h : r.Course job k t n w vs x w') : ∀ v ∈ vs.head?, v.block = n ∧ v.before = w := by
  cases h with
  | bounded | stopped | full => simp
  | failed | done | went => simp

/-- The blocks follow each other. -/
theorem blocks (h : r.Course job k t n w vs x w') :
    vs.map Visit.block = (List.range vs.length).map fun i => n + (i : Nat) := by
  induction h with
  | bounded | stopped | full => rfl
  | failed | done => simp
  | @went k t vs x w' v _ _ _ _ _ ih =>
    rw [List.map_cons, ih, List.length_cons, List.range_succ_eq_map, List.map_cons, List.map_map]
    congr 1
    · simp
    · refine List.map_congr_left fun i _ => ?_
      simp only [Function.comp_apply]
      omega

/-- A job is started in the world in which the visit before left off, and after one that was
passed. -/
theorem chain (h : r.Course job k t n w vs x w') :
    vs.IsChain fun v u => r.Passes v ∧ u.before = leaves v := by
  induction h with
  | bounded | stopped | full => exact .nil
  | failed | done => exact .singleton _
  | @went k t vs x w' v _ _ passes _ rest ih =>
    refine List.isChain_cons.mpr ⟨fun u first => ⟨passes, (rest.head u first).2⟩, ih⟩

/-- No job is started when there is a request to stop. -/
theorem free (h : r.Course job k t n w vs x w') : ∀ v ∈ vs, v.before.stopDue = false := by
  induction h with
  | bounded | stopped | full => simp
  | failed starts | done starts => simpa using starts.free
  | went starts _ _ _ _ ih => exact List.forall_mem_cons.mpr ⟨starts.free, ih⟩

/-- No job is started when there are enough blocks. -/
theorem limited (h : r.Course job k t n w vs x w') {limit : Int} (limited : r.limit = some limit) :
    ∀ i < vs.length, (t.processed : Int) + (i : Nat) < limit := by
  have wanted : ∀ {t : Tally}, r.isFull t = false → (t.processed : Int) < limit := by
    intro t wanted
    simpa [isFull, limited] using wanted
  induction h with
  | bounded | stopped | full => simp
  | failed starts | done starts =>
    intro i within
    obtain rfl : i = 0 := by simpa using within
    simpa using wanted starts.wanted
  | @went k t vs x w' v starts _ _ _ _ ih =>
    intro i within
    match i with
    | 0 => simpa using wanted starts.wanted
    | i + 1 =>
      have later := ih i (by simpa using within)
      rw [Tally.processed_count] at later
      push_cast at later ⊢
      omega

/-- One job at most is started for a single block. -/
theorem once (h : r.Course job k t n w vs x w') (once : r.mode ≠ .follow) : vs.length ≤ 1 := by
  cases h with
  | bounded | stopped | full => simp
  | failed | done => simp
  | went _ _ _ follow => exact absurd follow once

theorem ending (h : r.Course job k t n w vs x w') : r.Ending k t n w vs x w' := by
  induction h with
  | bounded => exact .bounded (by simp) rfl
  | @stopped k t n w due =>
    have ends : r.Ending (k + 1) t n w [] (.ok t) (w.note (stopLine (n + (0 : Nat)))) :=
      .stopped (by simp) due
    rwa [Int.natCast_zero, Int.add_zero] at ends
  | full free full => exact .full (by simp) full
  | failed _ _ halts outcome => exact .failed (List.nil_append _).symm (by simp) halts outcome
  | done _ _ passes once => exact .done (by simpa using passes) once rfl
  | @went k t vs x w' v _ _ passes _ _ ih =>
    cases ih with
    | stopped all due =>
      rw [← reached_cons v.before] at due ⊢
      have counted : v.block + 1 + (vs.length : Int) = v.block + ((v :: vs).length : Nat) := by
        rw [List.length_cons]
        push_cast
        omega
      rw [counted]
      exact .stopped (List.forall_mem_cons.mpr ⟨passes, all⟩) due
    | full all full =>
      rw [← reached_cons v.before]
      exact .full (List.forall_mem_cons.mpr ⟨passes, all⟩) full
    | done _ once => contradiction
    | @failed us u i last earlier halts outcome =>
      have last' : v :: vs = (v :: us) ++ [u] := by rw [last, List.cons_append]
      exact .failed last' (List.forall_mem_cons.mpr ⟨passes, earlier⟩) halts outcome
    | bounded all reaches =>
      rw [← reached_cons v.before]
      exact .bounded (List.forall_mem_cons.mpr ⟨passes, all⟩) (by rw [List.length_cons, reaches])

theorem headReads_eq (h : r.Course job k t n w vs x w')
    (kept : ∀ v ∈ vs, v.after.headReads = v.before.headReads) : w'.headReads = w.headReads := by
  induction h with
  | bounded | full => rfl
  | stopped => exact headReads_note_log ..
  | failed => exact kept _ List.mem_cons_self
  | done => exact (headReads_leaves _).trans (kept _ List.mem_cons_self)
  | went _ _ _ _ _ ih =>
    obtain ⟨first, later⟩ := List.forall_mem_cons.mp kept
    exact (ih later).trans ((headReads_leaves _).trans first)

end Course

/-- Rounds that give their blocks have passed all visits and counted them. -/
theorem Ending.of_ok {r : Rounds} {bound : Nat} {t t' : Tally} {n : Int} {w w' : World}
    {vs : List Visit} (h : r.Ending bound t n w vs (.ok t') w') :
    t' = vs.foldl Tally.count t ∧ ∀ v ∈ vs, r.Passes v := by
  cases h with
  | stopped all | full all | done all => exact ⟨rfl, all⟩

/-! ### All rounds -/

/-- How the first block is found. -/
inductive Opening (w : World) : Except Interruption Int → World → Prop
  /-- It is given. -/
  | given {n} (mode : r.mode ≠ .latest) (start : r.start = some n) : Opening w (.ok n) w
  /-- It is the head of the chain. -/
  | read {c n} (mode : r.mode = .latest) (chain : r.chain = some c)
      (number : c.number (w.chain w.headReads) = .ok n) :
      Opening w (.ok n)
        ((w.note .head).note (.log .info "chain" ("chain head is block " ++ toString n)))
  /-- The chain does not tell its head. -/
  | unread {c f} (mode : r.mode = .latest) (chain : r.chain = some c)
      (number : c.number (w.chain w.headReads) = .error f) :
      Opening w (.error (.fault f)) (w.note .head)
  /-- What the rounds need is not there. -/
  | missing {message} (lacking : r.mode = .latest ∧ r.chain = none ∨
      r.mode ≠ .latest ∧ r.start = none) : Opening w (.error (.fault (.setting message))) w

theorem first_opening (w : World) : r.Opening w (r.first.runIn w).1 (r.first.runIn w).2 := by
  cases mode : r.mode with
  | latest =>
    cases chain : r.chain with
    | none =>
      simp only [first, mode, chain]
      exact .missing (.inl ⟨mode, chain⟩)
    | some c =>
      have asked : askHead.runIn w = (.ok (w.chain w.headReads), w.note .head) := rfl
      simp only [first, mode, chain]
      rw [ChainClient.head, runIn_bind_ok asked, runIn_bind, runIn_ofExcept]
      cases number : c.number (w.chain w.headReads) with
      | error f => exact .unread mode chain number
      | ok n => exact .read mode chain number
  | fixed | follow =>
    cases start : r.start with
    | none =>
      simp only [first, mode, start]
      exact .missing (.inr ⟨by simp [mode], start⟩)
    | some n =>
      simp only [first, mode, start]
      exact .given (by simp [mode]) start

/-- The head of the chain is asked for once to find the latest block, and never else. -/
theorem Opening.headReads_eq {r : Rounds} {w w₁ : World} {x : Except Interruption Int}
    (h : r.Opening w x w₁) :
    w₁.headReads = w.headReads + if r.mode = .latest ∧ r.chain.isSome = true then 1 else 0 := by
  have once : (w.note .head).headReads = w.headReads + 1 := by
    simp [World.headReads, World.note]
  cases h with
  | given mode => simp [mode]
  | read mode chain => simp [mode, chain, headReads_note_log, once]
  | unread mode chain => simp [mode, chain, once]
  | missing lacking =>
    rcases lacking with ⟨_, chain⟩ | ⟨mode, _⟩
    · simp [chain]
    · simp [mode]

end Rounds

/-- The blocks of visits, each on the list of what became of it. -/
structure Tally.Lists (t : Tally) (vs : List Visit) : Prop where
  /-- The verified blocks are those whose jobs succeeded. -/
  verified : ∀ b, b ∈ t.verified ↔ ∃ v ∈ vs, v.block = b ∧ v.outcome = .ok ()
  /-- The malformed ones are those with a malformed verification. -/
  malformed : ∀ b, b ∈ t.malformed ↔ ∃ v ∈ vs, v.block = b ∧ v.malformed?.isSome = true
  /-- The verified blocks are in order. -/
  verified_lt : t.verified.Pairwise (· < ·)
  /-- So are the malformed ones. -/
  malformed_lt : t.malformed.Pairwise (· < ·)
  /-- No block is on both lists. -/
  disjoint : t.verified.Disjoint t.malformed
  /-- The blocks on the two lists are all blocks, each once. -/
  together : (t.verified ++ t.malformed).Perm (vs.map Visit.block)

theorem Visit.isVerified_iff {v : Visit} : v.isVerified = true ↔ v.outcome = .ok () := by
  rw [isVerified]
  cases v.outcome <;> simp

/-- The count of visits in order, of which each was verified or malformed, lists their blocks. -/
theorem Tally.lists_foldl_count {vs : List Visit}
    (increasing : (vs.map Visit.block).Pairwise (· < ·))
    (each : ∀ v ∈ vs, v.outcome = .ok () ∨ v.malformed?.isSome = true) :
    (vs.foldl Tally.count .empty).Lists vs := by
  have counted : vs.foldl Tally.count .empty =
      ⟨(vs.filter Visit.isVerified).map Visit.block,
        (vs.filter (!·.isVerified)).map Visit.block⟩ := by
    rw [foldl_count]
    rfl
  have apart : ∀ v ∈ vs, v.isVerified = false ↔ v.malformed?.isSome = true := by
    intro v visited
    have unverified : v.isVerified = false ↔ v.outcome ≠ .ok () := by
      rw [← Bool.not_eq_true, Visit.isVerified_iff]
    rw [unverified]
    constructor
    · exact fun failed => (each v visited).resolve_left failed
    · intro malformed verified
      simp [Visit.malformed?, verified] at malformed
  have together : ((vs.filter Visit.isVerified).map Visit.block ++
      (vs.filter (!·.isVerified)).map Visit.block).Perm (vs.map Visit.block) := by
    rw [← List.map_append]
    exact (List.filter_append_perm _ _).map _
  have nodup := together.nodup_iff.mpr (increasing.imp fun less => Int.ne_of_lt less)
  rw [counted]
  exact
    { verified := by
        intro b
        simp only [List.mem_map, List.mem_filter, Visit.isVerified_iff]
        exact ⟨fun ⟨v, ⟨visited, ok⟩, block⟩ => ⟨v, visited, block, ok⟩,
          fun ⟨v, visited, block, ok⟩ => ⟨v, ⟨visited, ok⟩, block⟩⟩
      malformed := by
        intro b
        simp only [List.mem_map, List.mem_filter, Bool.not_eq_true']
        exact ⟨fun ⟨v, ⟨visited, bad⟩, block⟩ => ⟨v, visited, block, (apart v visited).mp bad⟩,
          fun ⟨v, visited, block, bad⟩ => ⟨v, ⟨visited, (apart v visited).mpr bad⟩, block⟩⟩
      verified_lt := increasing.sublist (List.filter_sublist.map _)
      malformed_lt := increasing.sublist (List.filter_sublist.map _)
      disjoint := List.disjoint_of_nodup_append nodup
      together := together }

namespace Rounds

variable (r : Rounds) (job : Int → Activity Unit)

/-- What is true of the visits of rounds that begin with a block in a world. -/
structure Conducted (bound : Nat) (n : Int) (w : World) (vs : List Visit)
    (x : Except Interruption Tally) (w' : World) : Prop where
  /-- At each visit the job did what it does. -/
  isOf : ∀ v ∈ vs, v.IsOf job
  /-- The blocks are the first one and those that follow it, without a gap. -/
  blocks : vs.map Visit.block = (List.range vs.length).map fun i => n + (i : Nat)
  /-- The first job is started in the world of the beginning. -/
  head : ∀ v ∈ vs.head?, v.before = w
  /-- Another one is started only after one that succeeded, or that had a malformed verification
  which does not end the rounds; it is started where that one left off. -/
  chain : vs.IsChain fun v u => r.Passes v ∧ u.before = leaves v
  /-- No job is started when there is a request to stop. -/
  free : ∀ v ∈ vs, v.before.stopDue = false
  /-- No job is started after as many as were wanted. -/
  limited : ∀ limit, r.limit = some limit → ∀ i < vs.length, (i : Int) < limit
  /-- One job at most is started for a given block or for the latest one. -/
  once : r.mode ≠ .follow → vs.length ≤ 1
  /-- The rounds do not ask for the head of the chain again. -/
  heads : (∀ v ∈ vs, v.after.headReads = v.before.headReads) → w'.headReads = w.headReads
  /-- They end in one of the five ways: a job that ends them is the last one, and what became of it
  is what becomes of them. -/
  ending : r.Ending bound .empty n w vs x w'
  /-- The blocks that they give are those of the visits. -/
  lists : ∀ t, x = .ok t → t.Lists vs

theorem Course.conducted {r : Rounds} {job : Int → Activity Unit} {bound : Nat} {n : Int}
    {w w' : World} {vs : List Visit} {x : Except Interruption Tally}
    (h : r.Course job bound .empty n w vs x w') : r.Conducted job bound n w vs x w' where
  isOf := h.isOf
  blocks := h.blocks
  head := fun v first => (h.head v first).2
  chain := h.chain
  free := h.free
  limited := fun limit limited i within => by
    have started := h.limited limited i within
    simpa [Tally.processed, Tally.empty] using started
  once := h.once
  heads := h.headReads_eq
  ending := h.ending
  lists := by
    rintro t rfl
    obtain ⟨rfl, all⟩ := h.ending.of_ok
    refine Tally.lists_foldl_count ?_ fun v visited => (all v visited).imp_right And.left
    rw [h.blocks, List.pairwise_map]
    exact List.pairwise_lt_range.imp fun less => by omega

/-- What is true of all rounds: the first block is found, and if it is, then the rounds begin with
it there. -/
theorem run_conducted (bound : Nat) (w : World) :
    ∃ first w₁, r.Opening w first w₁ ∧
      (w₁.headReads = w.headReads + if r.mode = .latest ∧ r.chain.isSome = true then 1 else 0) ∧
      match first with
      | .error i => (r.run job bound).runIn w = (.error i, w₁)
      | .ok n => ∃ vs, r.Conducted job bound n w₁ vs ((r.run job bound).runIn w).1
          ((r.run job bound).runIn w).2 := by
  have opening := r.first_opening w
  refine ⟨_, _, opening, opening.headReads_eq, ?_⟩
  cases opened : r.first.runIn w with
  | mk first w₁ =>
    cases first with
    | error i =>
      rw [run]
      exact runIn_bind_error opened _
    | ok n =>
      obtain ⟨vs, course⟩ := r.runFrom_course job bound .empty n w₁
      rw [run, runIn_bind_ok opened]
      exact ⟨vs, course.conducted⟩

end Rounds

end ProofRelay

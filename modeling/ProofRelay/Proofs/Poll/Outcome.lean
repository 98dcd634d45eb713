import ProofRelay.Proofs.Poll.Vigil
import ProofRelay.Proofs.World.Conduct

/-!
# What a wait comes to

A wait that nobody stops polls again as long as a poll is pending and its delay does not pass the
longest wait.  The first poll of another kind is its last one: a final result is given as it was
found, with the leaf and the payload that the network told; a fault is passed on; a pending poll
whose delay would be too long ends in the fault of that.  Each poll before is followed by its delay,
the last one by none.

## Main definitions

* `Answer.Told` : the network told a leaf, and a payload under it.
* `Vigil.Idles` : a poll after which the wait goes on.
* `Vigil.LastPoll` : a poll that ends the wait, and how.
* `Vigil.Gives` : a poll that gives a result, as it was told.

## Main results

* `Vigil.plain_run` : what a wait that nobody stops comes to.
-/

namespace ProofRelay

open ProofRelay.Text

/-! ### Final results -/

/-- The network told a leaf, and a payload under it. -/
structure Answer.Told {α : Type} (a : Answer α) (leaf payload : String) : Prop where
  /-- The tree has the leaf. -/
  tree : ∃ said, a.tree.said = .ok said ∧ Label.value? leafLabel said.out = some leaf
  /-- The output holds the payload. -/
  output : ∃ said, a.output.said = .ok said ∧ Payload.ofOutput said.out = .ok payload

/-- A poll that finds a result is told a tree without a leaf, or a payload under one. -/
theorem Answer.leafless_or_told {α : Type} {a : Answer α} {result : PollResult}
    (found : a.outcome = .ok result) :
    (∃ said, a.tree.said = .ok said ∧ Label.value? leafLabel said.out = none ∧
        result = .noLeaf) ∨
      ∃ leaf payload, a.Told leaf payload ∧ result = .ofPayload leaf payload := by
  rw [Answer.outcome] at found
  cases tree : a.tree.said with
  | error f => simp [tree, bind, Except.bind] at found
  | ok said =>
    simp only [tree, bind, Except.bind] at found
    cases leaf : Label.value? leafLabel said.out with
    | none =>
      simp only [leaf] at found
      exact .inl ⟨said, rfl, leaf, (Except.ok.inj found).symm⟩
    | some leaf' =>
      simp only [leaf] at found
      cases output : a.output.said with
      | error f => simp [output] at found
      | ok said' =>
        simp only [output] at found
        cases payload : Payload.ofOutput said'.out with
        | error f => simp [payload] at found
        | ok payload' =>
          simp only [payload] at found
          exact .inr ⟨leaf', payload', ⟨⟨said, tree, leaf⟩, said', output, payload⟩,
            (Except.ok.inj found).symm⟩

/-- A poll that finds a final result finds a payload under a leaf, both as the network told them. -/
theorem Answer.told_of_outcome {α : Type} {a : Answer α} {result : PollResult}
    (found : a.outcome = .ok result) (final : result.verdict ≠ .pending) :
    ∃ leaf payload, a.Told leaf payload ∧ result = .ofPayload leaf payload := by
  rcases Answer.leafless_or_told found with ⟨_, -, -, rfl⟩ | told
  · exact absurd rfl final
  · exact told

/-- A poll that is told a leaf and a payload finds the payload under the leaf. -/
theorem Answer.Told.outcome {α : Type} {a : Answer α} {leaf payload : String}
    (told : a.Told leaf payload) : a.outcome = .ok (.ofPayload leaf payload) := by
  obtain ⟨⟨said, tree, leafTold⟩, said', output, payloadTold⟩ := told
  simp [Answer.outcome, tree, leafTold, output, payloadTold, bind, Except.bind, pure, Except.pure]

namespace Vigil

variable {α : Type} [LT α] [DecidableLT α] [Add α] [Sub α] [Mul α] (v : Vigil α)

/-! ### The polls that go on, and the last one -/

/-- A poll after which the wait goes on: it is pending, and its delay does not pass the longest
wait. -/
def Idles (n : Nat) : Prop :=
  (∃ result, (v.answers n).outcome = .ok result ∧ result.verdict = .pending) ∧
    ∀ limit, v.policy.maxWait = some limit → ¬ limit < v.ends n - v.start + v.policy.delay n

/-- A poll that ends the wait, and how. -/
inductive LastPoll (n : Nat) : Except Fault PollResult → Prop
  /-- It finds a final result, with the leaf and the payload that it was told. -/
  | final {leaf payload} (told : (v.answers n).Told leaf payload)
      (final : Verdict.ofPayload payload ≠ .pending) : LastPoll n (.ok (.ofPayload leaf payload))
  /-- It fails. -/
  | failed {f} (failed : (v.answers n).outcome = .error f) : LastPoll n (.error f)
  /-- It is pending, and its delay passes the longest wait. -/
  | late {result limit} (found : (v.answers n).outcome = .ok result)
      (pending : result.verdict = .pending) (limited : v.policy.maxWait = some limit)
      (exceeds : limit < v.ends n - v.start + v.policy.delay n) :
      LastPoll n (.error (timeoutFault v.transaction (toString (v.seconds (v.ends n - v.start)))
        (n + 1)))

omit [Sub α] [Mul α] in
theorem expires_iff {elapsed delay : α} :
    v.policy.expires elapsed delay = true ↔
      ∃ limit, v.policy.maxWait = some limit ∧ limit < elapsed + delay := by
  rw [PollPolicy.expires]
  cases v.policy.maxWait <;> simp

theorem ending?_eq_none_iff {n : Nat} : v.ending? n = none ↔ v.Idles n := by
  constructor
  · intro h
    rw [ending?] at h
    split at h
    · cases h
    · next result found =>
      split at h
      · next pending =>
        split at h
        · cases h
        · next timely =>
          refine ⟨⟨result, found, pending⟩, fun limit limited exceeds => timely ?_⟩
          exact v.expires_iff.mpr ⟨limit, limited, exceeds⟩
      · cases h
  · rintro ⟨⟨result, found, pending⟩, timely⟩
    have inTime : ¬ v.policy.expires (v.ends n - v.start) (v.policy.delay n) = true := by
      intro late
      obtain ⟨limit, limited, exceeds⟩ := v.expires_iff.mp late
      exact timely limit limited exceeds
    simp only [ending?, found, if_pos pending, if_neg inTime]

theorem ending?_eq_some_iff {n : Nat} {e : Except Fault PollResult} :
    v.ending? n = some e ↔ v.LastPoll n e := by
  constructor
  · intro h
    rw [ending?] at h
    split at h
    · next f failed =>
      obtain rfl := Option.some.inj h
      exact .failed failed
    · next result found =>
      split at h
      · next pending =>
        split at h
        · next late =>
          obtain ⟨limit, limited, exceeds⟩ := v.expires_iff.mp late
          obtain rfl := Option.some.inj h
          exact .late found pending limited exceeds
        · cases h
      · next final =>
        obtain rfl := Option.some.inj h
        obtain ⟨leaf, payload, told, rfl⟩ := Answer.told_of_outcome found final
        exact .final told final
  · intro last
    cases last with
    | @final leaf payload told final =>
      have final' : ¬ (PollResult.ofPayload leaf payload).verdict = .pending := final
      simp only [ending?, told.outcome, if_neg final']
    | failed failed => simp only [ending?, failed]
    | late found pending limited exceeds =>
      simp only [ending?, found, if_pos pending, if_pos (v.expires_iff.mpr ⟨_, limited, exceeds⟩)]

/-- The wait does not go on after its last poll. -/
theorem LastPoll.not_idles {v : Vigil α} {n : Nat} {e : Except Fault PollResult}
    (last : v.LastPoll n e) : ¬ v.Idles n := by
  intro idles
  have ending := v.ending?_eq_some_iff.mpr last
  rw [v.ending?_eq_none_iff.mpr idles] at ending
  cases ending

/-- A poll that gives a result, with the leaf and the payload that the network told. -/
structure Gives (n : Nat) (result : PollResult) : Prop where
  /-- The network told the leaf, and the payload under it. -/
  told : ∃ leaf, (v.answers n).Told leaf result.payload ∧ result.leaf = some leaf
  /-- The verdict is that of the payload. -/
  verdict : result.verdict = .ofPayload result.payload

/-- The result that a last poll gives is final, and told by the network. -/
theorem LastPoll.gives {v : Vigil α} {n : Nat} {e : Except Fault PollResult}
    {result : PollResult} (last : v.LastPoll n e) (given : e = .ok result) :
    result.verdict ≠ .pending ∧ v.Gives n result := by
  cases last with
  | final told final =>
    obtain rfl := Except.ok.inj given
    exact ⟨final, ⟨_, told, rfl⟩, rfl⟩
  | failed failed => cases given
  | late found pending limited exceeds => cases given

/-- Some poll is the first after which a wait does not go on, if there is one. -/
theorem exists_lastPoll_or_idles (bound : Nat) :
    (∃ n < bound, ∃ e, (∀ i < n, v.Idles i) ∧ v.LastPoll n e) ∨ ∀ i < bound, v.Idles i := by
  induction bound with
  | zero => exact .inr fun i before => absurd before (Nat.not_lt_zero i)
  | succ bound ih =>
    rcases ih with ⟨n, within, e, earlier, last⟩ | every
    · exact .inl ⟨n, Nat.lt_succ_of_lt within, e, earlier, last⟩
    · cases ending : v.ending? bound with
      | some e =>
        exact .inl ⟨bound, Nat.lt_succ_self bound, e, every, v.ending?_eq_some_iff.mp ending⟩
      | none =>
        refine .inr fun i within => ?_
        rcases Nat.lt_succ_iff_lt_or_eq.mp within with before | rfl
        · exact every i before
        · exact v.ending?_eq_none_iff.mp ending

/-! ### The wait -/

variable [LE α] [DecidableLE α]

/-- What a wait comes to whose last poll is a given one. -/
structure EndsAt (n : Nat) (came : Except Fault (Option PollResult) × Timeline α) : Prop where
  /-- The wait goes on after each poll before. -/
  earlier : ∀ i < n, v.Idles i
  /-- It does not go on after this one. -/
  stops : ¬ v.Idles n
  /-- What the poll gives is what the wait gives. -/
  last : ∃ e, v.LastPoll n e ∧ came.1 = e.map some
  /-- No other poll is made. -/
  polls : came.2.trees = n + 1
  /-- The calls are those of the polls, in order. -/
  calls : came.2.calls =
    (List.range (n + 1)).flatMap fun i => (v.answers i).calls v.settings v.transaction
  /-- The times slept are the delays of the schedule, one for each poll but the last. -/
  slept : came.2.slept = (List.range n).map v.policy.delay
  /-- Each of them comes right after its poll. -/
  order : came.2.journal = v.roundsBefore n ++ v.callsOf n
  /-- No time passes after the poll. -/
  clock : came.2.clock = v.ends n

/-- What a wait comes to that has made as many polls as it may. -/
structure Exhausted (bound : Nat) (came : Except Fault (Option PollResult) × Timeline α) :
    Prop where
  /-- The wait goes on after each poll. -/
  every : ∀ i < bound, v.Idles i
  /-- It gives nothing. -/
  nothing : came.1 = .ok none
  /-- All polls are made. -/
  polls : came.2.trees = bound
  /-- Each poll is followed by its delay. -/
  order : came.2.journal = v.roundsBefore bound

/-- A wait that nobody stops gives what the first poll gives after which it does not go on. -/
theorem plain_run_of_lastPoll {bound n : Nat} {e : Except Fault PollResult} (within : n < bound)
    (earlier : ∀ i < n, v.Idles i) (last : v.LastPoll n e) :
    v.plain.run bound = (e.map some, v.plain.polled n) := by
  have course := v.plain.run_course bound
  generalize v.plain.run bound = came at course
  obtain ⟨result, t⟩ := came
  cases course with
  | @ended n' e' within' earlier' last' =>
    have idles : ∀ i < n', v.Idles i := by
      intro i before
      rw [← ending?_eq_none_iff, ← plain_ending?]
      exact (earlier' i before).1
    rw [plain_ending?, ending?_eq_some_iff] at last'
    -- Neither of the two polls comes before the other.
    rcases Nat.lt_trichotomy n n' with before | rfl | after
    · exact absurd (idles n before) last.not_idles
    · have same : some e = some e' := by
        rw [← v.ending?_eq_some_iff.mpr last, v.ending?_eq_some_iff.mpr last']
      obtain rfl := Option.some.inj same
      rfl
    · exact absurd (earlier n' after) last'.not_idles
  | @cut n' _ _ _ cut => exact absurd cut (by simp [plain_pauseAfter_cut])
  | bounded all =>
    have idles : v.Idles n := by
      rw [← ending?_eq_none_iff, ← plain_ending?]
      exact (all n within).1
    exact absurd idles last.not_idles

/-- A wait that nobody stops gives nothing as long as it goes on after each poll. -/
theorem plain_run_of_idles {bound : Nat} (every : ∀ i < bound, v.Idles i) :
    v.plain.run bound = (.ok none, v.plain.before bound) := by
  have course := v.plain.run_course bound
  generalize v.plain.run bound = came at course
  obtain ⟨result, t⟩ := came
  cases course with
  | @ended n e within earlier last =>
    rw [plain_ending?, ending?_eq_some_iff] at last
    exact absurd (every n within) last.not_idles
  | @cut n _ _ _ cut => exact absurd cut (by simp [plain_pauseAfter_cut])
  | bounded all => rfl

omit [LE α] [DecidableLE α] in
theorem endsAt_of_lastPoll {n : Nat} {e : Except Fault PollResult}
    (earlier : ∀ i < n, v.Idles i) (last : v.LastPoll n e) :
    v.EndsAt n (e.map some, v.plain.polled n) where
  earlier := earlier
  stops := last.not_idles
  last := ⟨e, last, rfl⟩
  polls := rfl
  calls := by
    change (v.roundsBefore n ++ v.callsOf n).filterMap Moment.call? = _
    rw [List.filterMap_append, calls_roundsBefore, calls_callsOf, List.range_succ]
    simp
  slept := by
    change (v.roundsBefore n ++ v.callsOf n).filterMap Moment.slept? = _
    rw [List.filterMap_append, slept_roundsBefore, slept_callsOf, List.append_nil]
  order := rfl
  clock := v.plain_ends n

/-- A wait that nobody stops ends at the first poll after which it does not go on, with what that
poll gives, unless it has made as many polls as it may before.  A result that it gives is never
pending, and its leaf and payload are those of this last poll. -/
theorem plain_run (bound : Nat) :
    ((∃ n < bound, v.EndsAt n (v.plain.run bound)) ∨ v.Exhausted bound (v.plain.run bound)) ∧
      ∀ result, (v.plain.run bound).1 = .ok (some result) → result.verdict ≠ .pending ∧
        ∃ n < bound, v.EndsAt n (v.plain.run bound) ∧ v.Gives n result := by
  rcases v.exists_lastPoll_or_idles bound with ⟨n, within, e, earlier, last⟩ | every
  · rw [v.plain_run_of_lastPoll within earlier last]
    have ends := v.endsAt_of_lastPoll earlier last
    refine ⟨.inl ⟨n, within, ends⟩, fun result given => ?_⟩
    cases e with
    | error f => cases given
    | ok result' =>
      obtain rfl := Option.some.inj (Except.ok.inj given)
      obtain ⟨final, gives⟩ := last.gives rfl
      exact ⟨final, n, within, ends, gives⟩
  · rw [v.plain_run_of_idles every]
    refine ⟨.inr ⟨every, rfl, rfl, rfl⟩, fun result given => ?_⟩
    cases given

/-- Polls of a transaction whose tree gets a leaf after the first one. -/
def belatedVigil : Vigil Int where
  settings := Settings.standard ⟨"/", ["run"]⟩
  transaction := "0xabc"
  policy := ⟨10, 2, 300, some 60⟩
  answers := fun n => ⟨⟨1, false, .ok ⟨if n = 0 then "" else "  Leaf: 0xdead\n", ""⟩⟩,
    ⟨2, false, .ok ⟨"[\x7b\"kind\":\"Verification\",\"data\":\"e30=\"\x7d]\n", ""⟩⟩⟩
  start := 0
  stop := none
  seconds := id
  rounded := toString

/-- The second poll ends this wait, after one delay. -/
theorem plain_run_sample :
    (belatedVigil.plain.run 5).1 = .ok (some (.ofPayload "0xdead" "\x7b\x7d")) ∧
      (belatedVigil.plain.run 5).2.slept = [10] ∧ (belatedVigil.plain.run 5).2.clock = 14 ∧
      ∃ n < 5, belatedVigil.EndsAt n (belatedVigil.plain.run 5) ∧
        belatedVigil.Gives n (.ofPayload "0xdead" "\x7b\x7d") := by
  have came : (belatedVigil.plain.run 5).1 = .ok (some (.ofPayload "0xdead" "\x7b\x7d")) :=
    eq_ok_of_toOption (by decide +kernel)
  exact ⟨came, by decide +kernel, by decide +kernel, ((belatedVigil.plain_run 5).2 _ came).2⟩

end Vigil

end ProofRelay

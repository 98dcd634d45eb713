import ProofRelay.Proofs.Job.Questions

/-!
# The conduct of the wait

A poll asks for the tree of a transaction, and for the output under its leaf once it has one.  The
wait is a row of polls: each of them but the last is pending, and only a last one with a final
verdict gives a result.  What else may end the wait — the bound on the polls, the longest wait, a
request to stop, a time that cannot be written — leaves no deed.

## Main definitions

* `PollOnce` : the conduct of one poll.
* `Polls` : the conduct of the wait.

## Main results

* `pollOnce_does` : the conduct of `pollOnce`.
* `waitForVerdict_does` : the conduct of `waitForVerdict`.
-/

namespace ProofRelay

open Activity ProofRelay.Text

variable {s : Settings} {transaction : String}

/-- The conduct of one poll. -/
inductive PollOnce (s : Settings) (transaction : String) :
    List Deed → Except Interruption PollResult → Prop
  /-- The tree was not told. -/
  | treeless {reply i} (unsaid : reply.said? = none) :
      PollOnce s transaction [.call (treeCall s transaction) reply] (.error i)
  /-- The tree has no leaf. -/
  | leafless {reply said} (told : reply.said? = some said)
      (absent : Label.value? leafLabel said.out = none) :
      PollOnce s transaction [.call (treeCall s transaction) reply] (.ok .noLeaf)
  /-- The output under the leaf was not told. -/
  | outputless {reply said leaf reply' i} (told : reply.said? = some said)
      (found : Label.value? leafLabel said.out = some leaf) (unsaid : reply'.said? = none) :
      PollOnce s transaction
        [.call (treeCall s transaction) reply, .call (outputCall s leaf) reply'] (.error i)
  /-- The output under the leaf holds no payload. -/
  | garbled {reply said leaf reply' said' f i} (told : reply.said? = some said)
      (found : Label.value? leafLabel said.out = some leaf) (told' : reply'.said? = some said')
      (bad : Payload.ofOutput said'.out = .error f) :
      PollOnce s transaction
        [.call (treeCall s transaction) reply, .call (outputCall s leaf) reply'] (.error i)
  /-- The output under the leaf holds a payload. -/
  | answered {reply said leaf reply' said' payload} (told : reply.said? = some said)
      (found : Label.value? leafLabel said.out = some leaf) (told' : reply'.said? = some said')
      (good : Payload.ofOutput said'.out = .ok payload) :
      PollOnce s transaction
        [.call (treeCall s transaction) reply, .call (outputCall s leaf) reply']
        (.ok (.ofPayload leaf payload))

/-- The calls of a poll: the tree, and the output under its leaf if there is one. -/
theorem PollOnce.calls_eq {ds : List Deed} {r : Except Interruption PollResult}
    (h : PollOnce s transaction ds r) :
    ∃ reply₁, ds = [.call (treeCall s transaction) reply₁] ∨ ∃ said leaf reply₂,
      ds = [.call (treeCall s transaction) reply₁, .call (outputCall s leaf) reply₂] ∧
        reply₁.said? = some said ∧ Label.value? leafLabel said.out = some leaf := by
  cases h with
  | treeless unsaid => exact ⟨_, .inl rfl⟩
  | leafless told absent => exact ⟨_, .inl rfl⟩
  | outputless told found unsaid => exact ⟨_, .inr ⟨_, _, _, rfl, told, found⟩⟩
  | garbled told found told' bad => exact ⟨_, .inr ⟨_, _, _, rfl, told, found⟩⟩
  | answered told found told' good => exact ⟨_, .inr ⟨_, _, _, rfl, told, found⟩⟩

/-- What holds of the calls for trees and outputs holds of every deed of a poll. -/
theorem PollOnce.forall_mem {P : Deed → Prop} {ds : List Deed}
    {r : Except Interruption PollResult} (h : PollOnce s transaction ds r)
    (tree : ∀ reply, P (.call (treeCall s transaction) reply))
    (output : ∀ leaf reply, P (.call (outputCall s leaf) reply)) : ∀ d ∈ ds, P d := by
  intro d hd
  obtain ⟨reply, rfl | ⟨said, leaf, reply', rfl, -⟩⟩ := h.calls_eq
  · rw [List.mem_singleton.1 hd]
    exact tree reply
  · rcases List.mem_cons.1 hd with rfl | hd
    · exact tree reply
    · rw [List.mem_singleton.1 hd]
      exact output leaf reply'

/-- The question for the leaf of a transaction is one call. -/
theorem resolveLeaf_does (s : Settings) (transaction : String) (w : World) :
    (resolveLeaf s transaction).Does w fun ds r w' =>
      w'.job = w.job ∧ ∃ reply, ds = [.call (treeCall s transaction) reply] ∧
        r.toOption = reply.said?.map fun said => Label.value? leafLabel said.out := by
  rw [resolveLeaf, Poller.leaf?]
  refine .runTool_bind (fun reply i w' unsaid job => ⟨job, reply, rfl, ?_⟩)
    fun reply said w' told job => .pure ⟨job, reply, rfl, ?_⟩
  · rw [unsaid]
    rfl
  · rw [told]
    rfl

/-- The conduct of one poll is one of these. -/
theorem pollOnce_does (s : Settings) (transaction : String) (w : World) :
    (pollOnce s transaction).Does w fun ds r w' =>
      PollOnce s transaction ds r ∧ w'.job = w.job := by
  rw [pollOnce, Poller.pollOnce]
  refine .bind ((resolveLeaf_does s transaction w).mono ?_)
  rintro _ r w₁ ⟨job, reply, rfl, answer⟩
  cases told : reply.said? with
  | none =>
    rw [told] at answer
    cases r with
    | error i => exact ⟨.treeless told, job⟩
    | ok leaf? => cases answer
  | some said =>
    rw [told] at answer
    cases r with
    | error i => cases answer
    | ok leaf? =>
      cases (Option.some.inj answer : leaf? = _)
      dsimp only
      cases leaf : Label.value? leafLabel said.out with
      | none => exact .pure ⟨.leafless told leaf, job⟩
      | some leaf' =>
        dsimp only
        rw [Poller.payload, bind_assoc]
        refine .runTool_bind (fun reply' i w' unsaid job' => ⟨.outputless told leaf unsaid,
          job'.trans job⟩) fun reply' said' w' told' job' => ?_
        refine .ofExcept_bind (fun f bad => ⟨.garbled told leaf told' bad, job'.trans job⟩)
          fun payload good => ?_
        exact .pure ⟨.answered told leaf told' good, job'.trans job⟩

/-! ### The wait -/

/-- The conduct of the wait. -/
inductive Polls (s : Settings) (transaction : String) :
    List Deed → Except Interruption PollResult → Prop
  /-- It ended before a poll. -/
  | unpolled {i} : Polls s transaction [] (.error i)
  /-- A poll failed. -/
  | failed {ds i} (poll : PollOnce s transaction ds (.error i)) : Polls s transaction ds (.error i)
  /-- The verdict was final. -/
  | settled {ds result} (poll : PollOnce s transaction ds (.ok result))
      (final : result.verdict.isFinal = true) : Polls s transaction ds (.ok result)
  /-- It ended after a poll without a result. -/
  | ended {ds result i} (poll : PollOnce s transaction ds (.ok result)) :
      Polls s transaction ds (.error i)
  /-- A poll was pending, and it went on. -/
  | again {ds es result r} (poll : PollOnce s transaction ds (.ok result))
      (pending : result.verdict = .pending) (more : Polls s transaction es r) :
      Polls s transaction (ds ++ es) r

/-- What holds of the calls for trees and outputs holds of every deed of a wait. -/
theorem Polls.forall_mem {P : Deed → Prop} {ds : List Deed} {r : Except Interruption PollResult}
    (h : Polls s transaction ds r) (tree : ∀ reply, P (.call (treeCall s transaction) reply))
    (output : ∀ leaf reply, P (.call (outputCall s leaf) reply)) : ∀ d ∈ ds, P d := by
  induction h with
  | unpolled => simp
  | failed poll => exact poll.forall_mem tree output
  | settled poll final => exact poll.forall_mem tree output
  | ended poll => exact poll.forall_mem tree output
  | again poll pending more ih =>
    intro d hd
    exact (List.mem_append.1 hd).elim (poll.forall_mem tree output d) (ih d)

theorem quiet_wholeSeconds (x : Float) : (wholeSeconds x).Quiet :=
  (Quiet.ofExcept _).bind fun _ => .pure _

theorem quiet_settled (result : PollResult) (polls : Nat) (elapsed : Float) :
    ((verificationWait s transaction).settled result polls elapsed).Quiet :=
  (quiet_wholeSeconds elapsed).bind fun _ => quiet_log _ _ _

theorem quiet_pending (polls : Nat) (elapsed delay : Float) :
    ((verificationWait s transaction).pending polls elapsed delay).Quiet :=
  (quiet_wholeSeconds elapsed).bind fun _ => quiet_log _ _ _

theorem quiet_expired (polls : Nat) (elapsed : Float) :
    ((verificationWait s transaction).expired polls elapsed).Quiet :=
  (quiet_wholeSeconds elapsed).bind fun _ => .fail _

/-- Giving up is no result. -/
theorem runIn_expired_ne_ok (polls : Nat) (elapsed : Float) (w : World) (result : PollResult) :
    (((verificationWait s transaction).expired polls elapsed).runIn w).1 ≠ .ok result := by
  change ((wholeSeconds elapsed >>= fun _ => fail _).runIn w).1 ≠ _
  rw [runIn_bind]
  split <;> simp

/-- What polls with a bound on their number give: nothing when the bound is reached. -/
def BoundedPolls (s : Settings) (transaction : String) (w : World) : Post (Option PollResult) :=
  fun ds r w' => w'.job = w.job ∧
    match r with
    | .ok (some result) => Polls s transaction ds (.ok result)
    | .ok none => ∀ i, Polls s transaction ds (.error i)
    | .error i => Polls s transaction ds (.error i)

/-- Polls with a bound on their number are a wait. -/
theorem runFrom_does (s : Settings) (transaction : String) (policy : PollPolicy Float)
    (start : Float) (polls attempt : Nat) (delay : Float) (w : World) :
    ((verificationWait s transaction).runFrom policy start polls attempt delay).Does w
      (BoundedPolls s transaction w) := by
  induction polls generalizing attempt delay w with
  | zero => exact .pure ⟨rfl, fun _ => .unpolled⟩
  | succ polls ih =>
    rw [Waiting.runFrom]
    refine .bind ((pollOnce_does s transaction w).mono ?_)
    rintro ds r w₁ ⟨poll, job⟩
    cases r with
    | error i => exact ⟨job, .failed poll⟩
    | ok result =>
      have stopped : ∀ i (v : World), v.job = w₁.job →
          BoundedPolls s transaction w (ds ++ []) (.error i) v := by
        intro i v hv
        rw [List.append_nil]
        exact ⟨hv.trans job, .ended poll⟩
      dsimp only
      refine quiet_now.does_bind (fun i v _ hv => stopped i v hv) fun time v _ _ hv => ?_
      split
      · next final =>
        refine (quiet_settled _ _ _).does_bind (fun i u _ hu => stopped i u (hu.trans hv))
          fun _ u _ _ hu => .pure ⟨hu.trans (hv.trans job), ?_⟩
        dsimp only
        rw [List.append_nil]
        exact .settled poll final
      · next notFinal =>
        have pending : result.verdict = .pending := by
          simpa [Verdict.isFinal] using notFinal
        split
        · refine (quiet_expired _ _).does_bind (fun i u _ hu => stopped i u (hu.trans hv))
            fun x u hx _ _ => absurd hx (runIn_expired_ne_ok _ _ _ _)
        · refine (quiet_pending _ _ _).does_bind (fun i u _ hu => stopped i u (hu.trans hv))
            fun _ u _ _ hu => ?_
          refine (quiet_pause delay).does_bind
            (fun i z _ hz => stopped i z (hz.trans (hu.trans hv))) fun cut z _ _ hz => ?_
          have hz' : z.job = w₁.job := hz.trans (hu.trans hv)
          cases cut with
          | true => exact .of_eq (runIn_bind_error (runIn_fail _ z) _) rfl (stopped _ z hz')
          | false =>
            refine (ih (attempt + 1) (policy.nextDelay delay) z).mono ?_
            rintro es r w₂ ⟨job', more⟩
            refine ⟨job'.trans (hz'.trans job), ?_⟩
            match r, more with
            | .ok (some x), more => exact .again poll pending more
            | .ok none, more => exact fun i => .again poll pending (more i)
            | .error i, more => exact .again poll pending more

/-- The conduct of the wait is a row of polls. -/
theorem waitForVerdict_does (s : Settings) (transaction : String) (bound : Nat) (w : World) :
    (waitForVerdict s transaction bound).Does w fun ds r w' =>
      Polls s transaction ds r ∧ w'.job = w.job := by
  rw [waitForVerdict, Waiting.run, bind_assoc]
  refine quiet_now.does_bind (fun i v _ hv => ⟨.unpolled, hv⟩) fun start v _ _ hv => ?_
  refine .bind ((runFrom_does s transaction _ _ _ _ _ v).mono ?_)
  rintro ds r w₁ ⟨job, polls⟩
  match r, polls with
  | .ok (some result), polls =>
    refine .pure ⟨?_, job.trans hv⟩
    rw [List.append_nil]
    exact polls
  | .ok none, polls =>
    refine .of_eq (runIn_endless w₁) rfl ⟨?_, job.trans hv⟩
    rw [List.append_nil]
    exact polls _
  | .error i, polls => exact ⟨polls, job.trans hv⟩

end ProofRelay

import ProofRelay.Proofs.World.History

/-!
# What activities do

The conduct of an activity begun in a world: the history that it makes, what it gives, and the
world after it.  `a.Does w Q` says that the conduct of `a` in `w` is one of those that `Q` allows.
Each operation of a run has one lemma of this form, and the lemma of a larger operation is put
together from those of its parts.

## Main definitions

* `Activity.runIn` : what an activity gives in a world, and the world after it.
* `Post`, `Activity.Does` : allowed conducts, and that the conduct of an activity is one of them.
* `Post.andThen` : one conduct after another.
* `Activity.Quiet` : activities without deeds that leave the job in hand.

## Main results

* `Activity.Does.bind`, `Activity.Does.andThen` : the conduct of two activities in a row.
* `Activity.Quiet.does_bind` : the conduct of an activity behind a quiet one.
* `callTool_does`, `sendFile_does` : one question each.
-/

namespace ProofRelay

/-- What gives a result when its fault is left out gives this result. -/
theorem eq_ok_of_toOption {ε α : Type} {r : Except ε α} {x : α} (h : r.toOption = some x) :
    r = .ok x := by
  cases r with
  | error e => cases h
  | ok y => exact congrArg Except.ok (Option.some.inj h)

/-- What gives a result has given one at each step. -/
theorem exists_of_bind_eq_ok {ε α β : Type} {x : Except ε α} {f : α → Except ε β} {y : β}
    (h : x >>= f = .ok y) : ∃ z, x = .ok z ∧ f z = .ok y := by
  cases x with
  | error e => cases h
  | ok z => exact ⟨z, rfl, h⟩

/-- A value gives a result exactly if each step gives one. -/
theorem bind_eq_ok_iff {ε α β : Type} {x : Except ε α} {f : α → Except ε β} {y : β} :
    x >>= f = .ok y ↔ ∃ z, x = .ok z ∧ f z = .ok y :=
  ⟨exists_of_bind_eq_ok, fun ⟨_, hx, hf⟩ => by rw [hx]; exact hf⟩

namespace Activity

variable {α β : Type}

/-- What an activity gives in a world, and the world after it. -/
def runIn (a : Activity α) (w : World) : Except Interruption α × World :=
  a.run.run w

@[simp] theorem runIn_pure (x : α) (w : World) : (pure x : Activity α).runIn w = (.ok x, w) := rfl

theorem runIn_bind (a : Activity α) (f : α → Activity β) (w : World) :
    (a >>= f).runIn w =
      match a.runIn w with
      | (.ok x, w') => (f x).runIn w'
      | (.error i, w') => (.error i, w') := by
  have unfolded : (a >>= f).runIn w = (ExceptT.bindCont f (a.runIn w).1).run (a.runIn w).2 := rfl
  rw [unfolded]
  rcases a.runIn w with ⟨_ | _, _⟩ <;> rfl

theorem runIn_bind_ok {a : Activity α} {w w' : World} {x : α} (h : a.runIn w = (.ok x, w'))
    (f : α → Activity β) : (a >>= f).runIn w = (f x).runIn w' := by
  rw [runIn_bind, h]

theorem runIn_bind_error {a : Activity α} {w w' : World} {i : Interruption}
    (h : a.runIn w = (.error i, w')) (f : α → Activity β) :
    (a >>= f).runIn w = (.error i, w') := by
  rw [runIn_bind, h]

/-- The two parts of what gave something in the end gave something each. -/
theorem exists_of_runIn_bind_ok {a : Activity α} {f : α → Activity β} {w w' : World} {y : β}
    (h : (a >>= f).runIn w = (.ok y, w')) :
    ∃ x w₁, a.runIn w = (.ok x, w₁) ∧ (f x).runIn w₁ = (.ok y, w') := by
  rw [runIn_bind] at h
  rcases ran : a.runIn w with ⟨i | x, w₁⟩ <;> rw [ran] at h
  · cases h
  · exact ⟨x, w₁, rfl, h⟩

@[simp] theorem runIn_fail (f : Fault) (w : World) :
    (fail f : Activity α).runIn w = (.error (.fault f), w) := rfl

@[simp] theorem runIn_endless (w : World) :
    (endless : Activity α).runIn w = (.error .endless, w) := rfl

@[simp] theorem runIn_get (w : World) : (get : Activity World).runIn w = (.ok w, w) := rfl

@[simp] theorem runIn_set (w w' : World) : (set w' : Activity Unit).runIn w = (.ok (), w') := rfl

@[simp] theorem runIn_modify (f : World → World) (w : World) :
    (modify f : Activity Unit).runIn w = (.ok (), f w) := rfl

@[simp] theorem runIn_note (e : Event) (w : World) : (note e).runIn w = (.ok (), w.note e) := rfl

theorem runIn_ofExcept (x : Except Fault α) (w : World) :
    (ofExcept x).runIn w = (x.mapError .fault, w) := by
  cases x <;> rfl

theorem runIn_tryCatch (a : Activity α) (handle : Interruption → Activity α) (w : World) :
    (tryCatch a handle).runIn w =
      match a.runIn w with
      | (.error i, w') => (handle i).runIn w'
      | c => c := by
  have unfolded : (tryCatch a handle).runIn w =
      (match (a.runIn w).1 with
        | .ok x => (pure x : Activity α)
        | .error i => handle i).runIn (a.runIn w).2 := by
    simp only [runIn, tryCatch, tryCatchThe, MonadExceptOf.tryCatch, ExceptT.tryCatch,
      ExceptT.run, ExceptT.mk, StateT.run, bind, StateT.bind]
    rcases a w with ⟨_ | _, _⟩ <;> rfl
  rw [unfolded]
  rcases a.runIn w with ⟨_ | _, _⟩ <;> rfl

theorem runIn_onFault (a : Activity α) (handle : Fault → Activity α) (w : World) :
    (onFault a handle).runIn w =
      match a.runIn w with
      | (.error (.fault f), w') => (handle f).runIn w'
      | c => c := by
  rw [onFault, runIn_tryCatch]
  rcases a.runIn w with ⟨(_ | _) | _, _⟩ <;> rfl

theorem runIn_onFault_ok {a : Activity α} {handle : Fault → Activity α} {w w' : World} {x : α}
    (h : a.runIn w = (.ok x, w')) : (onFault a handle).runIn w = (.ok x, w') := by
  rw [runIn_onFault, h]

theorem runIn_onFault_fault {a : Activity α} {handle : Fault → Activity α} {w w' : World}
    {f : Fault} (h : a.runIn w = (.error (.fault f), w')) :
    (onFault a handle).runIn w = (handle f).runIn w' := by
  rw [runIn_onFault, h]

end Activity

/-! ### Conduct -/

/-- The conducts that are allowed: deeds, what was given, and the world after them. -/
abbrev Post (α : Type) := List Deed → Except Interruption α → World → Prop

namespace Activity

variable {α β : Type} {a : Activity α} {f : α → Activity β} {w : World} {P : Post α} {Q : Post β}

/-- Whether the conduct of an activity in a world is allowed. -/
def Does (a : Activity α) (w : World) (Q : Post α) : Prop :=
  ∃ ds, History w.outside ds (a.runIn w).2.outside ∧ Q ds (a.runIn w).1 (a.runIn w).2

theorem Does.mono {P' : Post α} (h : a.Does w P) (hP : ∀ ds r w', P ds r w' → P' ds r w') :
    a.Does w P' := by
  obtain ⟨ds, hs, hd⟩ := h
  exact ⟨ds, hs, hP _ _ _ hd⟩

/-- The deeds of a conduct are the history that was made. -/
theorem Does.with_history (h : a.Does w P) :
    a.Does w fun ds r w' => History w.outside ds w'.outside ∧ P ds r w' := by
  obtain ⟨ds, hs, hd⟩ := h
  exact ⟨ds, hs, hs, hd⟩

/-- An activity without deeds. -/
theorem Does.of_eq {r : Except Interruption α} {w' : World} (h : a.runIn w = (r, w'))
    (same : w'.outside = w.outside) (hP : P [] r w') : a.Does w P := by
  rw [Does, h]
  exact ⟨[], same, hP⟩

theorem Does.pure {x : α} (h : P [] (.ok x) w) : (Pure.pure x : Activity α).Does w P :=
  .of_eq (runIn_pure x w) rfl h

theorem Does.fail {f : Fault} (h : P [] (.error (.fault f)) w) :
    (Activity.fail f : Activity α).Does w P :=
  .of_eq (runIn_fail f w) rfl h

/-- The first of two activities decides whether the second is begun. -/
theorem Does.bind
    (h : a.Does w fun ds r w₁ =>
      match r with
      | .ok x => (f x).Does w₁ fun es r' w' => Q (ds ++ es) r' w'
      | .error i => Q ds (.error i) w₁) :
    (a >>= f).Does w Q := by
  obtain ⟨ds, hs, hd⟩ := h
  cases hr : a.runIn w with
  | mk r w₁ =>
    rw [hr] at hs hd
    cases r with
    | error i =>
      rw [Does, runIn_bind_error hr]
      exact ⟨ds, hs, hd⟩
    | ok x =>
      obtain ⟨es, hs', hd'⟩ := hd
      rw [Does, runIn_bind_ok hr]
      exact ⟨ds ++ es, hs.append hs', hd'⟩

/-- An activity begun in a world that only looks different. -/
theorem Does.of_outside {a' : Activity α} {w₁ : World} (h : a'.Does w₁ P)
    (same : w₁.outside = w.outside) (run : a.runIn w = a'.runIn w₁) : a.Does w P := by
  rw [Does, run, ← same]
  exact h

/-- A look at the world comes first. -/
theorem Does.get_bind {g : World → Activity α} (h : (g w).Does w P) : (get >>= g).Does w P :=
  h.of_outside rfl (runIn_bind_ok (runIn_get w) g)

/-- A change that is no deed comes first. -/
theorem Does.modify_bind {g : World → World} {f : Unit → Activity α}
    (h : (f ()).Does (g w) P) (same : (g w).outside = w.outside) :
    ((modify g : Activity Unit) >>= f).Does w P :=
  h.of_outside same (runIn_bind_ok (runIn_modify g w) f)

/-- An entry of the journal that is no question comes first. -/
theorem Does.note_bind {e : Event} {f : Unit → Activity α} (h : (f ()).Does (w.note e) P)
    (same : (w.note e).outside = w.outside) : (note e >>= f).Does w P :=
  h.of_outside same (runIn_bind_ok (runIn_note e w) f)

/-- A value or a fault comes first. -/
theorem Does.ofExcept_bind {x : Except Fault β} {f : β → Activity α}
    (bad : ∀ e, x = .error e → P [] (.error (.fault e)) w)
    (good : ∀ y, x = .ok y → (f y).Does w P) : (ofExcept x >>= f).Does w P := by
  cases x with
  | error e => exact .of_eq (runIn_bind_error (runIn_fail e w) f) rfl (bad e rfl)
  | ok y => exact (good y rfl).of_outside rfl (runIn_bind_ok (runIn_pure y w) f)

end Activity

/-- What answers the faults of an activity comes after it. -/
theorem Activity.Does.onFault {α : Type} {a : Activity α} {handle : Fault → Activity α} {w : World}
    {P Q : Post α} (h : a.Does w P) (good : ∀ ds x w₁, P ds (.ok x) w₁ → Q ds (.ok x) w₁)
    (endless : ∀ ds w₁, P ds (.error .endless) w₁ → Q ds (.error .endless) w₁)
    (bad : ∀ ds f w₁, P ds (.error (.fault f)) w₁ →
      (handle f).Does w₁ fun es r w' => Q (ds ++ es) r w') : (onFault a handle).Does w Q := by
  obtain ⟨ds, hs, hd⟩ := h
  rw [Does, runIn_onFault]
  rcases hr : a.runIn w with ⟨(f | _) | x, w₁⟩
  · rw [hr] at hs hd
    obtain ⟨es, hs', hd'⟩ := bad ds f w₁ hd
    exact ⟨ds ++ es, hs.append hs', hd'⟩
  · rw [hr] at hs hd
    exact ⟨ds, hs, endless ds w₁ hd⟩
  · rw [hr] at hs hd
    exact ⟨ds, hs, good ds x w₁ hd⟩

/-- One conduct after another: the second is begun when the first gives a result. -/
inductive Post.andThen {α β : Type} (w : World) (P : Post α) (Q : α → World → Post β) : Post β
  /-- The first ended with a fault. -/
  | stopped {ds i w'} (first : P ds (.error i) w') : andThen w P Q ds (.error i) w'
  /-- Both were begun. -/
  | went {ds es x r w₁ w'} (earlier : History w.outside ds w₁.outside) (first : P ds (.ok x) w₁)
      (later : History w₁.outside es w'.outside) (second : Q x w₁ es r w') :
      andThen w P Q (ds ++ es) r w'

/-- The conduct of two activities is one conduct after the other. -/
theorem Activity.Does.andThen {α β : Type} {a : Activity α} {f : α → Activity β} {w : World}
    {P : Post α} {Q : α → World → Post β} (h : a.Does w P)
    (hf : ∀ ds x w₁, P ds (.ok x) w₁ → (f x).Does w₁ (Q x w₁)) :
    (a >>= f).Does w (P.andThen w Q) := by
  refine .bind (h.with_history.mono fun ds r w₁ hP => ?_)
  obtain ⟨hs, hP⟩ := hP
  cases r with
  | error i => exact .stopped hP
  | ok x =>
    obtain ⟨es, hs', hQ⟩ := hf ds x w₁ hP
    exact ⟨es, hs', .went hs hP hs' hQ⟩

/-! ### Quiet activities -/

namespace Activity

variable {α β : Type} {a : Activity α} {f : α → Activity β}

/-- An activity without deeds that leaves the job in hand. -/
def Quiet (a : Activity α) : Prop :=
  ∀ w, (a.runIn w).2.outside = w.outside ∧ (a.runIn w).2.job = w.job

/-- A quiet activity comes first. -/
theorem Quiet.does_bind {a : Activity β} {f : β → Activity α} (quiet : a.Quiet) {w : World}
    {P : Post α}
    (bad : ∀ i (v : World), (a.runIn w).1 = .error i → v.job = w.job → P [] (.error i) v)
    (good : ∀ x (v : World), (a.runIn w).1 = .ok x → v.outside = w.outside → v.job = w.job →
      (f x).Does v P) : (a >>= f).Does w P := by
  obtain ⟨same, job⟩ := quiet w
  cases hr : a.runIn w with
  | mk r v =>
    rw [hr] at same job
    cases r with
    | error i => exact .of_eq (runIn_bind_error hr f) same (bad i v (by rw [hr]) job)
    | ok x => exact (good x v (by rw [hr]) same job).of_outside same (runIn_bind_ok hr f)

/-- A quiet activity that cannot fail comes first. -/
theorem Quiet.does_bind_of_sure {a : Activity β} {f : β → Activity α} (quiet : a.Quiet)
    {w : World} (sure : ∃ x, (a.runIn w).1 = .ok x) {P : Post α}
    (h : ∀ x (v : World), v.outside = w.outside → v.job = w.job → (f x).Does v P) :
    (a >>= f).Does w P := by
  obtain ⟨x, hx⟩ := sure
  refine quiet.does_bind (fun i v hi _ => ?_) fun x v _ => h x v
  rw [hx] at hi
  cases hi

theorem Quiet.pure (x : α) : Quiet (Pure.pure x : Activity α) := fun _ => ⟨rfl, rfl⟩

theorem Quiet.fail (e : Fault) : Quiet (fail e : Activity α) := fun _ => ⟨rfl, rfl⟩

theorem Quiet.ofExcept (x : Except Fault α) : Quiet (ofExcept x) := fun w => by
  rw [runIn_ofExcept]
  exact ⟨rfl, rfl⟩

theorem Quiet.bind (h : a.Quiet) (hf : ∀ x, (f x).Quiet) : (a >>= f).Quiet := fun w => by
  obtain ⟨same, job⟩ := h w
  rw [runIn_bind]
  cases hr : a.runIn w with
  | mk r w₁ =>
    rw [hr] at same job
    cases r with
    | error i => exact ⟨same, job⟩
    | ok x =>
      obtain ⟨same', job'⟩ := hf x w₁
      exact ⟨same'.trans same, job'.trans job⟩

theorem quiet_log (level : Level) (source message : String) : (log level source message).Quiet :=
  fun _ => ⟨rfl, rfl⟩

theorem quiet_now : now.Quiet := fun _ => ⟨rfl, rfl⟩

/-- A delay is quiet, also when a request to stop cuts it short. -/
theorem quiet_pause (seconds : Float) : (pause seconds).Quiet := fun w => by
  rw [pause, runIn_bind_ok (runIn_get w)]
  dsimp only
  split <;> exact ⟨rfl, rfl⟩

end Activity

/-! ### Single steps -/

open Activity

/-- What gives a result gives it, and leaves a world. -/
theorem Activity.runIn_eq_of_toOption {α : Type} {a : Activity α} {w : World} {x : α}
    (h : (a.runIn w).1.toOption = some x) : a.runIn w = (.ok x, (a.runIn w).2) :=
  Prod.ext (eq_ok_of_toOption h) rfl

/-- A world after a reply: its time has passed, its files are written and its requests raised. -/
def World.afterReply (w : World) (c : ToolCall) (reply : ToolReply) : World :=
  let w' :=
    { w.note (.call c) with
      clock := w.clock + reply.delay
      files := (Deed.call c reply).files w.files }
  let w' := if reply.raisesStop then w'.raiseStop else w'
  if reply.sendsSignal then
    (w'.note (.log .warning "run_cmd" "signal 15 received, stopping after current poll")).raiseStop
  else w'

theorem runIn_callTool (c : ToolCall) (w : World) :
    (callTool c).runIn w =
      let reply := w.tools.reply w.calls w.files c
      (.ok reply.ending, w.afterReply c reply) := by
  rw [callTool, runIn_bind_ok (runIn_get w), runIn_bind_ok (runIn_note _ _),
    runIn_bind_ok (runIn_modify _ _)]
  obtain ⟨delay, writes, raisesStop, sendsSignal, ending⟩ := w.tools.reply w.calls w.files c
  cases raisesStop <;> cases sendsSignal <;> rfl

@[simp] theorem World.outside_afterReply (w : World) (c : ToolCall) (reply : ToolReply) :
    (w.afterReply c reply).outside = (Deed.call c reply).apply w.outside := by
  rw [afterReply]
  split <;> split <;> rfl

@[simp] theorem World.job_afterReply (w : World) (c : ToolCall) (reply : ToolReply) :
    (w.afterReply c reply).job = w.job := by
  rw [afterReply]
  split <;> split <;> rfl

/-- A call of a tool is one deed, whose reply ends the call. -/
theorem callTool_does (c : ToolCall) (w : World) :
    (callTool c).Does w fun ds r w' =>
      ∃ reply, ds = [.call c reply] ∧ r = .ok reply.ending ∧ w'.job = w.job := by
  have fits : (Deed.call c (w.tools.reply w.calls w.files c)).Fits w.outside := by
    rw [Deed.Fits, World.calls_outside]
    rfl
  rw [Does, runIn_callTool]
  refine ⟨[.call c (w.tools.reply w.calls w.files c)], ?_, _, rfl, rfl, World.job_afterReply ..⟩
  rw [World.outside_afterReply]
  exact .single fits

theorem runIn_changeFiles (change : FileTree → FileTree × Option Fault) (w : World) :
    (changeFiles change).runIn w =
      (match (change w.files).2 with
        | none => .ok ()
        | some f => .error (.fault f), { w with files := (change w.files).1 }) := by
  rw [changeFiles, runIn_bind_ok (runIn_get w)]
  rcases hc : change w.files with ⟨t, _ | f⟩
  · dsimp only
    rw [runIn_bind_ok (runIn_set w _)]
    rfl
  · dsimp only
    rw [runIn_bind_ok (runIn_set w _)]
    rfl

/-- A world with more entries in its journal. -/
def World.withLines (w : World) (lines : List Event) : World :=
  { w with journal := lines ++ w.journal }

theorem World.withLines_withLines (w : World) (lines more : List Event) :
    (w.withLines lines).withLines more = w.withLines (more ++ lines) := by
  simp only [withLines, List.append_assoc]

/-- Entries that are written one after the other. -/
theorem runIn_forM_note (es : List Event) (w : World) :
    (es.forM note).runIn w = (.ok (), w.withLines es.reverse) := by
  induction es generalizing w with
  | nil => rfl
  | cons e es ih =>
    rw [List.forM_eq_forM, List.forM_cons, ← List.forM_eq_forM, runIn_bind_ok (runIn_note e w), ih,
      List.reverse_cons, ← World.withLines_withLines]
    rfl

theorem runIn_logClient (settings : ClientSettings) (u : Upload) (w : World) :
    (logClient settings u).runIn w =
      (.ok (), w.withLines ((w.clientLines settings u).map ClientLine.entry).reverse) := by
  rw [logClient, runIn_bind_ok (runIn_get w), runIn_forM_note]

/-- The storage client may write log lines, and does nothing else outside of its answer. -/
theorem quiet_logClient (settings : ClientSettings) (u : Upload) :
    (logClient settings u).Quiet := fun w => by
  rw [runIn_logClient]
  refine ⟨?_, rfl⟩
  have lines : ((w.clientLines settings u).map ClientLine.entry).reverse.filter Event.isQuestion =
      [] := by
    simp [List.filter_eq_nil_iff, ClientLine.entry, Event.isQuestion]
  simp only [World.outside, World.withLines, List.filter_append, lines, List.nil_append]

/-- A file sent to the storage is one deed. -/
theorem sendFile_does (settings : ClientSettings) (u : Upload) (w : World) :
    (sendFile settings u).Does w fun ds r w' =>
      ∃ reply, ds = [.upload u reply] ∧ r = .ok reply ∧ w'.job = w.job := by
  have send : ∀ v : World, (logClient settings u >>= fun _ => do
      let w ← get
      note (.upload u)
      return w.storage w.uploads u : Activity UploadReply).Does v fun ds r w' =>
        ∃ reply, ds = [.upload u reply] ∧ r = .ok reply ∧ w'.job = v.job := by
    intro v
    refine (quiet_logClient settings u).does_bind_of_sure ⟨(), by rw [runIn_logClient]⟩ ?_
    intro _ v' _ job
    have fits : (Deed.upload u (v'.storage v'.uploads u)).Fits v'.outside := by
      rw [Deed.Fits, World.uploads_outside]
      rfl
    exact ⟨[.upload u (v'.storage v'.uploads u)], .single fits, _, rfl, rfl, job⟩
  rw [sendFile]
  refine .get_bind ?_
  split
  · exact send w
  · exact .note_bind (send (w.note _)) rfl

end ProofRelay

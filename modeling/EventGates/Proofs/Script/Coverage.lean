import EventGates.Proofs.Script.Courses
import EventGates.Script.Steps

/-!
# Scripts are runs

Whatever a script does, its system is one that a run of moves leads to (`exists_run`). Workers take
turns, and each step of a worker is a move, after the course of things that its callback gives rise
to. The worker may look different after that, since a callback can give signals and open callbacks;
but it is still in the callback, so the move that the step stands for can be made.
-/

namespace EventGates

namespace System

variable {κ : Type} {s : System κ} {w : WorkerId} {a b : Worker κ}

/-- A worker that may stop does so. -/
lemma moveWorker_stop (may : s.mayStop a = true) :
    s.moveWorker w a a.phase .stop = some (s.finish w a) := by
  obtain ⟨g, t, phase, aborted⟩ := a
  match phase with
  | .unstarted | .ready | .idle | .holding _ | .delivering ⟨_, none, []⟩
  | .delivering ⟨_, none, _ :: _⟩ | .delivering ⟨_, some _, _⟩ => simp [moveWorker, may]

/-- Where a worker is in a callback, it ends all the same whatever it has left to do. -/
lemma finish_congr {e e' : Event} {k k' : κ} {xs xs' : List ListenerId} (gate : a.gate = b.gate)
    (here : a.phase = .delivering ⟨e, some k, xs⟩)
    (there : b.phase = .delivering ⟨e', some k', xs'⟩) : s.finish w a = s.finish w b := by
  simp only [finish, endDelivery, here, there, gate]

end System

namespace Script.Session

variable {s s' : Session} {w : WorkerId} {a : Worker Callback}

/-! ## Steps of workers -/

/-- A worker ends. In a callback it gives up waiting first, which may change other callbacks. -/
lemma Lawful.finish (h : s.Lawful) (found : s.system.workers.find? w = some a)
    (may : s.system.mayStop a = true) : (s.finish w a).Lawful := by
  have stopped : (s.system.finish w a).Lawful s.names.dispatchers :=
    System.Lawful.worker h found (System.moveWorker_stop may)
  cases phase : a.phase with
  | delivering d =>
    obtain ⟨e, callback, xs⟩ := d
    cases callback with
    | none =>
      simp only [Session.finish, phase]
      exact stopped
    | some c =>
      obtain ⟨h', steady⟩ := s.goes_giveUp w c.pause h
      obtain ⟨a', k', found', gate, phase', stopping⟩ := steady w a e c xs found phase
      -- whatever that did to callbacks, the worker is still in its own and still to stop
      have may' : (s.giveUp w c.pause).system.mayStop a' = true := by
        simp only [System.mayStop, phase, phase', Phase.isWaiting, Option.isSome_some,
          Bool.true_and] at may ⊢
        exact stopping may
      simp only [Session.finish, phase]
      show ((s.giveUp w c.pause).system.finish w a).Lawful _
      rw [System.finish_congr gate.symm phase phase']
      exact System.Lawful.worker h' found' (System.moveWorker_stop may')
  | _ =>
    simp only [Session.finish, phase]
    exact stopped

/-- A step of a callback is followed by a move of its worker, which is still in the callback. -/
lemma Lawful.progress (h : s.Lawful) (found : s.system.workers.find? w = some a) {e : Event}
    {c : Callback} {xs : List ListenerId} (phase : a.phase = .delivering ⟨e, some c, xs⟩)
    (course : s.Goes s') (progress : Progress) :
    (s'.onSystem fun sys =>
      match progress with
      | .underWay c => sys.setPhase w (.delivering ⟨e, some c, xs⟩)
      | .returned => sys.setPhase w (.delivering ⟨e, none, xs⟩)
      | .panicked message => sys.panicked w a ⟨e, some c, xs⟩ message).Lawful := by
  obtain ⟨h', steady⟩ := course h
  obtain ⟨a', k, found', gate, phase', -⟩ := steady w a e c xs found phase
  cases progress with
  | underWay c' =>
    have made : s'.system.moveWorker w a' a'.phase (.proceed c') =
        some (s'.system.setPhase w (.delivering ⟨e, some c', xs⟩)) := by rw [phase']; rfl
    exact System.Lawful.worker h' found' made
  | returned =>
    have made : s'.system.moveWorker w a' a'.phase .returned =
        some (s'.system.setPhase w (.delivering ⟨e, none, xs⟩)) := by rw [phase']; rfl
    exact System.Lawful.worker h' found' made
  | panicked message =>
    have made : s'.system.moveWorker w a' a'.phase (.panicked message) =
        some (s'.system.panicked w a ⟨e, some c, xs⟩ message) := by
      rw [phase']
      simp only [System.moveWorker, System.panicked, gate]
    exact System.Lawful.worker h' found' made

/-- A step of a delivery. -/
lemma Lawful.stepDelivery (h : s.Lawful) (found : s.system.workers.find? w = some a)
    {d : Delivery Callback} (phase : a.phase = .delivering d)
    (made : s.stepDelivery w a d = some s') : s'.Lawful := by
  obtain ⟨e, callback, xs⟩ := d
  cases callback with
  | none =>
    cases xs with
    | nil =>
      cases made
      have moved : s.system.moveWorker w a a.phase .complete =
          some (s.system.completeDelivery w a) := by rw [phase]; rfl
      exact System.Lawful.worker h found moved
    | cons x xs =>
      cases made
      have called := s.goes_call x e
      have same : (s.call x e).1.system = s.system := by
        simp only [call]
        split <;> rfl
      have moved : (s.call x e).1.system.moveWorker w a a.phase (.call ⟨[(s.call x e).2], .none⟩) =
          some ((s.call x e).1.system.setPhase w
            (.delivering ⟨e, some ⟨[(s.call x e).2], .none⟩, xs⟩)) := by rw [phase]; rfl
      exact System.Lawful.worker (called h).1 (same ▸ found) moved
  | some c =>
    simp only [Session.stepDelivery] at made
    split at made
    · next stopping =>
      cases made
      apply h.finish found
      simp only [System.mayStop, phase, Phase.isWaiting, Option.isSome_some, Bool.true_and]
      exact (Bool.and_eq_true_iff.mp stopping).2
    · obtain ⟨⟨s1, progress⟩, stepped, rfl⟩ := Option.map_eq_some_iff.mp made
      exact h.progress found phase (goes_stepCallback stepped) progress

/-- A worker ends within a callback only where that waits for a signal, and only if it is to stop. -/
theorem stepWorker_ends (h : s.Lawful) (found : s.system.workers.find? w = some a) {e : Event}
    {c : Callback} {xs : List ListenerId} (phase : a.phase = .delivering ⟨e, some c, xs⟩)
    (made : s.stepWorker w a = some s') (gone : s'.system.workers.find? w = none) :
    c.pause.isInterruptible = true ∧ s.system.isStopping a = true := by
  simp only [Session.stepWorker, phase, Session.stepDelivery] at made
  split at made
  · next stopping => exact Bool.and_eq_true_iff.mp stopping
  · -- a callback that goes on leaves its worker where it is
    obtain ⟨⟨s1, progress⟩, stepped, rfl⟩ := Option.map_eq_some_iff.mp made
    obtain ⟨-, steady⟩ := goes_stepCallback stepped h
    obtain ⟨a', k, found', -⟩ := steady w a e c xs found phase
    have found' : s1.system.workers.find? w = some a' := found'
    cases progress <;>
      simp [Session.onSystem, System.setPhase, System.panicked, System.onFabric, found'] at gone

/-- A worker takes an event. -/
lemma Lawful.receive (h : s.Lawful) (found : s.system.workers.find? w = some a)
    (take : s.system.moveWorker w a a.phase .take = s.system.receive w a)
    (made : s.receive w a = some s') : s'.Lawful := by
  obtain ⟨system, received, rfl⟩ := Option.map_eq_some_iff.mp made
  exact System.Lawful.worker h found (take.trans received)

/-- A step of a worker. -/
lemma Lawful.stepWorker (h : s.Lawful) (found : s.system.workers.find? w = some a)
    (made : s.stepWorker w a = some s') : s'.Lawful := by
  cases phase : a.phase with
  | unstarted =>
    simp only [Session.stepWorker, phase, Option.some.injEq] at made
    subst made
    cases aborted : a.aborted with
    | true =>
      refine h.finish found ?_
      simp only [System.mayStop, phase, aborted]
    | false =>
      have moved : s.system.moveWorker w a a.phase .begin = some (s.system.begin w a) := by
        simp [System.moveWorker, phase, aborted]
      exact System.Lawful.worker h found moved
  | ready =>
    simp only [Session.stepWorker, phase, Option.some.injEq] at made
    subst made
    cases cancelled : s.system.isCancelled a.token with
    | true =>
      refine h.finish found ?_
      simp [System.mayStop, phase, Phase.isWaiting, System.isStopping, cancelled]
    | false =>
      cases received : s.receive w a with
      | some s' =>
        refine h.receive found ?_ received
        simp [System.moveWorker, phase, cancelled]
      | none =>
        have none : s.system.receive w a = none := Option.map_eq_none_iff.mp received
        have moved : s.system.moveWorker w a a.phase .rest = some (s.system.setPhase w .idle) := by
          simp [System.moveWorker, phase, cancelled, none]
        exact System.Lawful.worker h found moved
  | idle =>
    simp only [Session.stepWorker, phase] at made
    split at made
    · next stopping =>
      cases made
      refine h.finish found ?_
      simp [System.mayStop, phase, Phase.isWaiting, stopping]
    · next going =>
      refine h.receive found ?_ made
      simp [System.moveWorker, phase, going]
  | holding e =>
    simp only [Session.stepWorker, phase] at made
    split at made
    · next dropped =>
      cases made
      refine h.finish found ?_
      have aborted : a.aborted = true := (Bool.and_eq_true_iff.mp dropped).1
      simp [System.mayStop, phase, Phase.isWaiting, System.isStopping, aborted]
    · split at made
      · cases made
      · cases made
        cases cancelled : s.system.isCancelled a.token with
        | true =>
          refine h.finish found ?_
          simp [System.mayStop, phase, Phase.isWaiting, System.isStopping, cancelled]
        | false =>
          have moved : s.system.moveWorker w a a.phase .deliver =
              some (s.system.beginDelivery w a e) := by
            simp [System.moveWorker, phase, cancelled]
          exact System.Lawful.worker h found moved
  | delivering d =>
    simp only [Session.stepWorker, phase] at made
    exact h.stepDelivery found phase made

/-- A step of the first worker in line. -/
lemma Lawful.step (h : s.Lawful) (made : s.step = some s') : s'.Lawful := by
  simp only [Session.step] at made
  split at made
  · cases made
  · next w ws line =>
    cases made
    have turn : ∀ s : Session, s.Lawful → s.endTurn.Lawful := fun s h => h
    have rest : ∀ s : Session, s.Lawful → (s.collect.awaken []).Lawful :=
      fun s h => ((goes_collect s).trans (goes_awaken _ _) h).1
    apply rest
    split
    · exact turn s h
    · next s1 stepped =>
      obtain ⟨a, found, stepped⟩ := Option.bind_eq_some_iff.mp stepped
      have lawful := h.stepWorker found stepped
      split
      · exact turn s1 lawful
      · exact lawful

/-! ## Steps of scripts -/

lemma Lawful.settleWithin (steps : Nat) {s : Session} (h : s.Lawful) :
    (settleWithin steps s).Lawful := by
  induction steps generalizing s with
  | zero => exact h
  | succ n ih =>
    simp only [Session.settleWithin]
    split
    · exact h
    · next made => exact ih (h.step made)

lemma Lawful.settle (h : s.Lawful) : s.settle.Lawful :=
  ((goes_awaken s []) h).1.settleWithin patience

lemma goes_peer (s : Session) (target : Target) : s.Goes (s.peer target).1 := by
  cases target with
  | closed => exact .refl s
  | silent => exact .refl s
  | node key => exact s.goes_table key

lemma goes_postPeer (s : Session) (key : String) (target : Target) (path : String) (d : Draft) :
    s.Goes (s.postPeer key target path d).1 := by
  refine (s.goes_makeEvent d).trans ?_
  simp only [postPeer]
  split
  · exact .refl _
  · next r _ => exact (goes_peer _ _).trans (.of_system (r.goes_post _ _ _ _) rfl)

lemma goes_deliver (s : Session) (listener : String) (d : Draft) :
    s.Goes (s.deliver listener d) := by
  refine (s.goes_makeEvent d).trans ?_
  simp only [deliver]
  split
  · exact .refl _
  · exact (goes_call _ _ _).trans (goes_runCallback _ _ _)

lemma Lawful.shutdown (h : s.Lawful) (key : String) : (s.shutdown key).1.Lawful := by
  simp only [Session.shutdown, withHost]
  split
  · exact h
  · next host _ =>
    split
    · exact (s.goes_perform _ h).1
    · have settled := (s.goes_beginShutdown key host h).1.settle
      have ended : ∀ workers running, ((s.beginShutdown key host).1.settle.onSystem fun sys =>
          (Host.finishShutdown host.config workers running sys).1).Lawful :=
        fun workers running => (goes_onSystem (Host.goes_finishShutdown _ _ _ _) settled).1
      have ended := (ended (s.beginShutdown key host).2.1 (s.beginShutdown key host).2.2).settle
      split <;> exact ended

/-- A step of a script. -/
lemma Lawful.carryOut (h : s.Lawful) (step : Step) : (s.carryOut step).1.Lawful := by
  cases step with
  | perform c => exact (s.goes_perform c h).1
  | deliver listener d => exact (s.goes_deliver listener d h).1
  | settle => exact h.settle
  | stop gate => exact (s.goes_cancel gate h).1.settle
  | postPeer remote target path d => exact (goes_postPeer _ remote target path d h.settle).1.settle
  | shutdown host => exact h.shutdown host
  | runUntilSignal host =>
    have started := (s.goes_performHost (.start host) h).1
    simp only [Session.carryOut]
    split
    · next performed =>
      rw [performed] at started
      exact (started.settle.shutdown host).settle
    · next performed =>
      rw [performed] at started
      exact started
  | awaitReached key => exact h.settle
  | unblock key => exact (s.goes_unblock key h).1
  | awaitStopped gate => exact h.settle

/-- The session after some steps. -/
def afterFrom (s : Session) (steps : List Step) : Session :=
  steps.foldl (fun s step => (s.carryOut step).1) s

/-- The session after some steps of a script. -/
def after (steps : List Step) : Session := afterFrom {} steps

/-- Steps are carried out in the session that the steps before them leave. -/
theorem runFrom_append (reporting : Reporting) (steps more : List Step) (told : Nat) (s : Session) :
    ∃ told', runFrom reporting (steps ++ more) told s =
      runFrom reporting steps told s ++ runFrom reporting more told' (s.afterFrom steps) := by
  induction steps generalizing told s with
  | nil => exact ⟨told, rfl⟩
  | cons step steps ih =>
    cases due : reporting.isDue step with
    | true =>
      obtain ⟨told', rest⟩ := ih (s.carryOut step).1.trace.length (s.carryOut step).1
      refine ⟨told', ?_⟩
      simp only [List.cons_append, runFrom, due, if_true, rest]
      rfl
    | false =>
      obtain ⟨told', rest⟩ := ih told (s.carryOut step).1
      refine ⟨told', ?_⟩
      simp only [List.cons_append, runFrom, due, Bool.false_eq_true, if_false, rest]
      rfl

/-- A lawful session stays lawful in all steps. -/
lemma Lawful.afterFrom (h : s.Lawful) (steps : List Step) : (s.afterFrom steps).Lawful := by
  induction steps generalizing s with
  | nil => exact h
  | cons step steps ih => exact ih (h.carryOut step)

/-- A script is lawful after every step. -/
lemma lawful_after (steps : List Step) : (after steps).Lawful := by
  have start : Lawful {} := System.Lawful.start
  exact start.afterFrom steps

/-- Whatever a script does, a run of moves leads to its system. -/
theorem exists_run (steps : List Step) : ∃ ms, (after steps).system = (Chronicle.run ms).system :=
  (lawful_after steps).run

end Script.Session

end EventGates

import EventGates.Proofs.Dispatch.Custody
import Mathlib.Data.Finset.Dedup
import Mathlib.Data.Fintype.EquivFin

/-!
# Courses of things

What is done to a system without regard to who holds which dispatcher is a course of things
(`Goes`): it keeps the system lawful whoever holds what. Courses follow one another, so an operation
is a course if what it is made of is. A course also leaves every worker that is in a callback where
it is, whatever happens to the callback, so that the worker can go on afterwards.
-/

namespace EventGates

namespace System

variable {κ : Type}

/-- Workers in callbacks are still there and in callbacks, of the same events and with the same
listeners to call, and those that are to stop still are. -/
def Steady (s s' : System κ) : Prop :=
  ∀ w a e k xs, s.workers.find? w = some a → a.phase = .delivering ⟨e, some k, xs⟩ →
    ∃ a' k', s'.workers.find? w = some a' ∧ a'.gate = a.gate ∧
      a'.phase = .delivering ⟨e, some k', xs⟩ ∧ (s.isStopping a = true → s'.isStopping a' = true)

/-- A course of things that any held dispatchers allow. -/
def Goes (s s' : System κ) : Prop :=
  ∀ held, s.Lawful held → s'.Lawful held ∧ s.Steady s'

variable {s s' s'' : System κ}

/-! ## Courses -/

namespace Steady

/-- Nothing changes about the workers. -/
lemma of_workers (workers : s'.workers = s.workers)
    (cancelled : ∀ t, s.isCancelled t = true → s'.isCancelled t = true) : s.Steady s' := by
  intro w a e k xs found phase
  refine ⟨a, k, workers ▸ found, rfl, phase, ?_⟩
  intro stopping
  simp only [isStopping, Bool.or_eq_true] at stopping ⊢
  exact stopping.imp_right (cancelled a.token)

lemma trans (h : s.Steady s') (h' : s'.Steady s'') : s.Steady s'' := by
  intro w a e k xs found phase
  obtain ⟨a', k', found', gate, phase', stopping⟩ := h w a e k xs found phase
  obtain ⟨a'', k'', found'', gate', phase'', stopping'⟩ := h' w a' e k' xs found' phase'
  exact ⟨a'', k'', found'', gate'.trans gate, phase'', fun h => stopping' (stopping h)⟩

end Steady

namespace Goes

lemma refl (s : System κ) : s.Goes s :=
  fun _ h => ⟨h, .of_workers rfl fun _ => id⟩

lemma trans (h : s.Goes s') (h' : s'.Goes s'') : s.Goes s'' := by
  intro held lawful
  obtain ⟨lawful', steady⟩ := h held lawful
  obtain ⟨lawful'', steady'⟩ := h' held lawful'
  exact ⟨lawful'', steady.trans steady'⟩

/-- One thing after the other for each element of a list. -/
lemma foldl {α : Type} {f : System κ → α → System κ} (each : ∀ s x, Goes s (f s x))
    (xs : List α) (s : System κ) : s.Goes (xs.foldl f s) := by
  induction xs generalizing s with
  | nil => exact refl s
  | cons x xs ih => exact (each s x).trans (ih (f s x))

/-- A move that no queue and no worker takes part in. -/
lemma of_move (m : Move κ) (made : s.move m = some s') (workers : s'.workers = s.workers)
    (cancelled : ∀ t, s.isCancelled t = true → s'.isCancelled t = true)
    (out : ∀ g, s'.isOut g = s.isOut g) : s.Goes s' := by
  intro held h
  have served : ∀ g, s'.isServed g = s.isServed g :=
    isServed_congr fun w => by rw [workers]
  exact ⟨⟨exists_run_of_move h.run made, workers ▸ h.keys, h.custody.congr out served⟩,
    .of_workers workers cancelled⟩

end Goes

/-! ## Single moves -/

/-- What is done to nothing but links, buses, tables and numbers cancels nothing. -/
lemma cancelled_moveSide (s : System κ) (m : SideMove) : (s.moveSide m).cancelled = s.cancelled := by
  cases m with
  | register t path h =>
    simp only [moveSide, register]
    cases (s.endpoints t).register path h with
    | error _ => rfl
    | ok table => rfl
  | _ => rfl

/-- What is done to nothing but links, buses, tables and numbers. -/
lemma goes_side (s : System κ) (m : SideMove) : s.Goes (s.moveSide m) := by
  have alike := s.alike_moveSide m
  refine .of_move (.side m) rfl alike.workers ?_ (isOut_congr alike.gates)
  intro t cancelled
  simp only [isCancelled, cancelled_moveSide] at cancelled ⊢
  exact cancelled

/-- A token is cancelled. -/
lemma goes_cancel (s : System κ) (t : TokenId) : s.Goes (s.cancel t) := by
  refine .of_move (.cancel t) rfl rfl ?_ fun _ => rfl
  intro t' cancelled
  simp only [isCancelled, cancel, List.contains_cons, Bool.or_eq_true]
  exact .inr cancelled

/-- A record is made about a gate. -/
lemma goes_diagnose (s : System κ) (g : GateId) (kind : DiagnosticKind)
    (eventType reason : Option String) :
    s.Goes (s.onFabric (·.diagnose g kind eventType reason)) := by
  cases there : s.fabric.gates.find? g with
  | none =>
    have same : s.onFabric (·.diagnose g kind eventType reason) = s := by
      simp only [onFabric, Fabric.diagnose, there]
    rw [same]
    exact .refl s
  | some gate =>
    have same : s.onFabric (·.diagnose g kind eventType reason) =
        s.moveSide (.publish gate.bus { kind, gate := some gate.name, eventType, reason }) := by
      simp only [onFabric, Fabric.diagnose, there, moveSide]
    rw [same]
    exact s.goes_side _

/-- An event is offered to a gate. -/
lemma goes_offer (s : System κ) (g : GateId) (e : Event) : s.Goes (s.onFabric (·.offer g e)) :=
  .of_move (.gate g (.offer e)) rfl rfl (fun _ => id)
    (isOut_change (fun _ => Fabric.find?_offer ..) fun gate => gate.handedOut_offer e)

/-- A late offer gets to the queue of a gate. -/
lemma goes_enter (s : System κ) (g : GateId) (e : Event) : s.Goes (s.onFabric (·.enter g e)) :=
  .of_move (.gate g (.enter e)) rfl rfl (fun _ => id)
    (isOut_change (fun _ => Fabric.find?_enter ..) fun gate => gate.handedOut_push e)

/-- The listeners of a gate change. -/
lemma goes_change (s : System κ) (g : GateId) (c : Registry.Change ListenerId) :
    s.Goes (s.onFabric (·.changeListeners g c)) :=
  .of_move (.gate g (.change c)) rfl rfl (fun _ => id)
    (isOut_change (fun _ => Fabric.find?_changeListeners ..) fun _ => rfl)

/-- A gate is made. -/
lemma goes_create (s : System κ) (name : String) (capacity : Nat) (bus : Option BusId) :
    s.Goes (s.onFabric fun f => (f.addGate { name, capacity, bus }).1) := by
  intro held h
  refine Goes.of_move (.create name capacity bus) rfl rfl (fun _ => id) ?_ held h
  intro g
  simp only [isOut, onFabric, Fabric.addGate, Table.find?_insert]
  split
  · next hg =>
    rw [hg, h.newGate]
    rfl
  · rfl

/-- A worker changes and stays with its gate and, if it is in a callback, with that. -/
lemma Goes.of_modify (m : Move κ) {w : WorkerId} {a : Worker κ} {f : Worker κ → Worker κ}
    (found : s.workers.find? w = some a)
    (made : s.move m = some { s with workers := s.workers.modify w f })
    (gate : (f a).gate = a.gate) (token : (f a).token = a.token)
    (aborted : a.aborted = true → (f a).aborted = true)
    (phase : ∀ e k xs, a.phase = .delivering ⟨e, some k, xs⟩ →
      ∃ k', (f a).phase = .delivering ⟨e, some k', xs⟩) :
    s.Goes { s with workers := s.workers.modify w f } := by
  intro held h
  have served : ∀ g, System.isServed { s with workers := s.workers.modify w f } g =
      s.isServed g := by
    apply isServed_congr
    intro v
    by_cases hv : v = w
    · subst hv
      simp [found, gate]
    · simp [hv]
  refine ⟨⟨exists_run_of_move h.run made, ?_, h.custody.congr (fun _ => rfl) served⟩, ?_⟩
  · simpa using h.keys
  · intro v b e k xs there busy
    by_cases hv : v = w
    · subst hv
      rw [found] at there
      cases there
      obtain ⟨k', after⟩ := phase e k xs busy
      refine ⟨f a, k', by simp [found], gate, after, ?_⟩
      intro stopping
      simp only [isStopping, Bool.or_eq_true] at stopping ⊢
      rw [token]
      exact stopping.imp_left aborted
    · exact ⟨b, k, by simp [hv, there], rfl, busy, id⟩

/-- A worker is to be dropped. -/
lemma goes_abort (s : System κ) (w : WorkerId) : s.Goes (s.abort w) := by
  cases found : s.workers.find? w with
  | none =>
    have same : s.abort w = s := by
      simp only [abort, Table.modify_of_not_mem (Table.not_mem_keys_of_find?_eq_none found)]
    rw [same]
    exact .refl s
  | some a =>
    refine .of_modify (.worker w .abort) found ?_ rfl rfl (fun _ => rfl) fun e k xs busy => ⟨k, busy⟩
    simp [move, found, moveWorker, abort]

/-- A change that leaves a worker as it is. -/
lemma modify_of_free {held : Table String GateId} (h : s.Lawful held) {w : WorkerId}
    {a : Worker κ} (found : s.workers.find? w = some a) {f : Worker κ → Worker κ} (same : f a = a) :
    s.workers.modify w f = s.workers := by
  have agree : s.workers.modify w f = s.workers.modify w id := by
    apply Table.modify_congr h.keys
    intro b hb
    cases found.symm.trans hb
    exact same
  rw [agree, Table.modify_id]

/-- Where a worker is in a callback, the callback changes. -/
lemma goes_callback (s : System κ) (w : WorkerId) {f : Worker κ → Worker κ} (change : κ → κ)
    (busy : ∀ a e k xs, a.phase = .delivering ⟨e, some k, xs⟩ →
      f a = { a with phase := .delivering ⟨e, some (change k), xs⟩ })
    (free : ∀ a, (∀ e k xs, a.phase ≠ .delivering ⟨e, some k, xs⟩) → f a = a) :
    s.Goes { s with workers := s.workers.modify w f } := by
  intro held h
  cases found : s.workers.find? w with
  | none =>
    rw [Table.modify_of_not_mem (Table.not_mem_keys_of_find?_eq_none found)]
    exact Goes.refl s held h
  | some a =>
    cases at' : a.phase with
    | delivering d =>
      obtain ⟨e, callback, xs⟩ := d
      cases callback with
      | some k =>
        have after := busy a e k xs at'
        refine Goes.of_modify (.worker w (.proceed (change k))) found ?_ (by rw [after])
          (by rw [after]) (by rw [after]; exact id) ?_ held h
        · have made : s.move (.worker w (.proceed (change k))) =
              some (s.setPhase w (.delivering ⟨e, some (change k), xs⟩)) := by
            simp [move, found, moveWorker, at']
          rw [made]
          simp only [setPhase, Option.some.injEq]
          congr 1
          apply Table.modify_congr h.keys
          intro b hb
          cases found.symm.trans hb
          exact after.symm
        · intro e' k' xs' same
          rw [at'] at same
          cases same
          exact ⟨change k, by rw [after]⟩
      | none =>
        rw [modify_of_free h found (free a (by simp [at']))]
        exact Goes.refl s held h
    | _ =>
      rw [modify_of_free h found (free a (by simp [at']))]
      exact Goes.refl s held h

/-- A gate that goes away is not handed out any more. -/
lemma isOut_removeGate (s : System κ) (g x : GateId) :
    (s.onFabric (·.removeGate g)).isOut x = (decide (x ≠ g) && s.isOut x) := by
  by_cases hx : x = g
  · simp [isOut, onFabric, Fabric.removeGate, hx]
  · simp [isOut, onFabric, Fabric.removeGate, hx]

/-- A gate whose queue is not handed out goes away. -/
lemma goes_remove {g : GateId} (free : s.isOut g = false) :
    s.Goes (s.onFabric (·.removeGate g)) := by
  refine .of_move (.remove g) ?_ rfl (fun _ => id) ?_
  · simp only [isOut] at free
    simp [move, free]
  · intro x
    rw [isOut_removeGate]
    by_cases hx : x = g
    · simp [hx, free]
    · simp [hx]

/-- Gates whose queues are not handed out go away. -/
lemma goes_removeEach {gs : List GateId} (free : ∀ g ∈ gs, s.isOut g = false) :
    s.Goes (s.onFabric fun f => gs.foldl Fabric.removeGate f) := by
  induction gs generalizing s with
  | nil => exact .refl s
  | cons g gs ih =>
    refine (goes_remove (free g List.mem_cons_self)).trans (ih ?_)
    intro x mem
    rw [isOut_removeGate, free x (List.mem_cons_of_mem g mem), Bool.and_false]

/-! ## Events -/

/-- What is done to a fabric for each element of a list is done to it one after the other. -/
lemma goes_onFabric_foldl {α : Type} {op : Fabric → α → Fabric}
    (each : ∀ (s : System κ) x, s.Goes (s.onFabric (op · x))) (xs : List α) (s : System κ) :
    s.Goes (s.onFabric fun f => xs.foldl op f) := by
  induction xs generalizing s with
  | nil => exact .refl s
  | cons x xs ih => exact (each s x).trans (ih _)

/-- An event is posted at a gate. -/
lemma goes_post (s : System κ) (g : GateId) (e : Event) : s.Goes (s.onFabric (·.post g e)) :=
  goes_onFabric_foldl (fun s p => s.goes_offer p e) (s.fabric.links.partners g) s

/-- Several events are posted at a gate. -/
lemma goes_postBatch (s : System κ) (g : GateId) (es : List Event) :
    s.Goes (s.onFabric (·.postBatch g es)) := by
  have each : ∀ (s : System κ) p, s.Goes (s.onFabric fun f => es.foldl (·.offer p ·) f) :=
    fun s p => goes_onFabric_foldl (fun s e => s.goes_offer p e) es s
  exact goes_onFabric_foldl each (s.fabric.links.partners g) s

/-- An event is posted at a gate again and again. -/
lemma goes_postRepeatedly (s : System κ) (g : GateId) (e : Event) (times : Nat) :
    s.Goes (s.onFabric fun f => times.repeat (·.post g e) f) := by
  induction times with
  | zero => exact .refl s
  | succ n ih => exact ih.trans (goes_post _ g e)

/-- An event is made. -/
lemma goes_makeEvent (s : System κ) (d : Draft) : s.Goes (s.onFabric fun f => (f.makeEvent d).1) :=
  s.goes_side (.makeEvent d)

/-- Several events are made. -/
lemma goes_makeEvents (ds : List Draft) (s : System κ) :
    s.Goes (s.onFabric fun f => (Fabric.makeEvents ds f).1) := by
  induction ds generalizing s with
  | nil => exact .refl s
  | cons d ds ih => exact (s.goes_makeEvent d).trans (ih _)

/-! ## New workers -/

/-- A new worker does not touch the others. -/
lemma steady_addWorker (new : s.workers.find? s.nextWorker = none) (g : GateId) (t : TokenId) :
    s.Steady (s.addWorker g t).1 := by
  intro w a e k xs found phase
  have ne : w ≠ s.nextWorker := by
    rintro rfl
    rw [new] at found
    cases found
  exact ⟨a, k, by simp [addWorker, ne, found], rfl, phase, id⟩

/-- A queue is handed out to a new worker. -/
lemma goes_spawn {g : GateId} {t : TokenId} {w : WorkerId} (made : s.spawn g t = .ok (s', w)) :
    s.Goes s' := by
  intro held h
  simp only [spawn] at made
  split at made
  · cases made
  · next f out =>
    have made := congrArg Prod.fst (Except.ok.inj made)
    subst made
    obtain ⟨free, isOut⟩ := isOut_handOut out
    have unserved := h.isServed_of_isOut free
    have handed : s.move (.gate g .handOut) = some { s with fabric := f } := by
      simp only [move, moveGate, out, Option.map_some]
    have workers : System.workers { s with fabric := f } = s.workers := rfl
    have new : System.nextWorker { s with fabric := f } = s.nextWorker := rfl
    have steady : s.Steady { s with fabric := f } := .of_workers rfl fun _ => id
    -- in between the dispatcher is in nobody's hands, so this takes two moves
    generalize ({ s with fabric := f } : System κ) = m at isOut handed workers new steady ⊢
    have served : ∀ x, m.isServed x = s.isServed x := isServed_congr fun w => by rw [workers]
    have isHeld : m.isHeld g = true := by
      rw [isHeld_iff, isOut, served]
      exact ⟨by simp, unserved⟩
    have engaged : m.move (.gate g (.engage t)) = some (m.addWorker g t).1 := by
      simp only [move, moveGate, isHeld, if_true]
    have newWorker : m.workers.find? m.nextWorker = none := by
      rw [workers, new]
      exact h.newWorker
    have run := exists_run_of_move (exists_run_of_move h.run handed) engaged
    refine ⟨⟨run, ?_, h.custody.serve free isOut fun x => ?_⟩, ?_⟩
    · have keys := h.keys
      rw [← workers] at keys
      exact Table.nodup_keys_insert keys _ _
    · rw [isServed_addWorker newWorker, served]
    · exact steady.trans (steady_addWorker newWorker g t)

/-! ## Any move -/

/-- There is a name that nothing is held under. -/
lemma exists_free_name (held : Table String GateId) : ∃ key, held.find? key = none := by
  have names : Function.Injective fun n => String.ofList (List.replicate n 'a') := by
    intro n m same
    have lists := String.ofList_injective same
    simpa using congrArg List.length lists
  have infinite : Infinite String := .of_injective _ names
  obtain ⟨key, fresh⟩ := Infinite.exists_notMem_finset held.keys.toFinset
  rw [List.mem_toFinset] at fresh
  refine ⟨key, ?_⟩
  cases found : held.find? key with
  | none => rfl
  | some g => exact absurd (Table.mem_keys_of_find? found) fresh

/-- Every move leaves a lawful system, whoever holds what then. -/
theorem Lawful.exists_of_move {held : Table String GateId} (h : s.Lawful held) {m : Move κ}
    (made : s.move m = some s') : ∃ held', s'.Lawful held' := by
  -- a dispatcher that is not at work is held under some name
  have name : ∀ g, s.isHeld g = true → ∃ key, held.find? key = some g := by
    intro g idle
    obtain ⟨out, unserved⟩ := isHeld_iff.mp idle
    obtain served | name := h.custody.owned g out
    · rw [unserved] at served
      cases served
    · exact name
  cases m with
  | create name capacity bus =>
    cases made
    exact ⟨held, (s.goes_create name capacity bus held h).1⟩
  | remove g =>
    simp only [move] at made
    split at made
    · cases made
    · next free =>
      cases made
      exact ⟨held, (goes_remove (eq_false_of_ne_true free) held h).1⟩
  | worker w m =>
    simp only [move, Option.bind_eq_some_iff] at made
    obtain ⟨a, found, made⟩ := made
    exact ⟨held, h.worker found made⟩
  | cancel t =>
    cases made
    exact ⟨held, (s.goes_cancel t held h).1⟩
  | side m =>
    cases made
    exact ⟨held, (s.goes_side m held h).1⟩
  | gate g m =>
    cases m with
    | offer e =>
      cases made
      exact ⟨held, (s.goes_offer g e held h).1⟩
    | enter e =>
      cases made
      exact ⟨held, (s.goes_enter g e held h).1⟩
    | change c =>
      cases made
      exact ⟨held, (s.goes_change g c held h).1⟩
    | handOut =>
      simp only [move, moveGate, Option.map_eq_some_iff] at made
      obtain ⟨f, out, rfl⟩ := made
      obtain ⟨key, empty⟩ := exists_free_name held
      exact ⟨_, h.handOut out empty⟩
    | release =>
      simp only [move, moveGate] at made
      split at made
      · next idle =>
        cases made
        obtain ⟨key, found⟩ := name g idle
        exact ⟨_, h.release found⟩
      · cases made
    | engage t =>
      simp only [move, moveGate] at made
      split at made
      · next idle =>
        cases made
        obtain ⟨key, found⟩ := name g idle
        exact ⟨_, h.engage found t⟩
      · cases made

end System

end EventGates

import EventGates.Proofs.Dispatch.Accounting
import EventGates.Proofs.Registry.Arrival

/-!
# Deliveries in a ledger

What a ledger says about deliveries is in order: `History` lists how. The events that were taken are
accepted ones and stand in the order of acceptance; each delivery has called some of the listeners
that it began with, from the first on, and all of them if it ran to its end; and the callbacks are
those of the deliveries, one after the other. The lemmas follow the entries that are made in a
ledger, and `Desk.Recorded` says what ties a history to the worker whose delivery is under way.
-/

namespace EventGates

/-- A delivery calls each listener that it began with once, in order. -/
structure Passage.Proper (p : Passage) : Prop where
  called : p.called <+: p.snapshot.getD []
  nodup : (p.snapshot.getD []).Nodup
  whole : p.completed = true → p.snapshot = some p.called

/-- What a ledger says about deliveries is in order. -/
structure History (accepted gone : List Event) (added : List ListenerId) (ps : List Passage)
    (calls : List Call) : Prop where
  left : gone <+: accepted
  proper : ∀ p ∈ ps, p.Proper
  ascending : ps.Pairwise fun p q => p.entry < q.entry
  event : ∀ p ∈ ps, gone[p.entry]? = some p.event
  order : ∀ p ∈ ps, (p.snapshot.getD []).Sublist added
  made : calls = ps.flatMap Passage.calls

namespace History

variable {accepted gone : List Event} {added : List ListenerId} {ps : List Passage}
  {calls : List Call}

/-- Another event is accepted. -/
lemma accept (h : History accepted gone added ps calls) (e : Event) :
    History (accepted ++ [e]) gone added ps calls :=
  { h with left := h.left.trans (List.prefix_append _ _) }

/-- More listeners are added. -/
lemma add (h : History accepted gone added ps calls) (xs : List ListenerId) :
    History accepted gone (added ++ xs) ps calls :=
  { h with order := fun p hp => (h.order p hp).trans (List.sublist_append_left _ _) }

/-- Events leave the queue. -/
lemma leave (h : History accepted gone added ps calls) {es : List Event}
    (left : gone ++ es <+: accepted) : History accepted (gone ++ es) added ps calls := by
  refine { h with left, event := ?_ }
  intro p hp
  have found := h.event p hp
  rw [List.getElem?_append_left]
  · exact found
  · exact (List.getElem?_eq_some_iff.mp found).1

/-- An event is taken. -/
lemma take (h : History accepted gone added ps calls) {e : Event}
    (left : gone ++ [e] <+: accepted) :
    History accepted (gone ++ [e]) added (ps ++ [{ entry := gone.length, event := e }]) calls := by
  have h' := h.leave left
  refine { left, proper := ?_, ascending := ?_, event := ?_, order := ?_, made := ?_ }
  · intro p hp
    obtain hp | hp := List.mem_append.mp hp
    · exact h.proper p hp
    · cases List.mem_singleton.mp hp
      exact ⟨List.nil_prefix, List.nodup_nil, nofun⟩
  · refine List.pairwise_append.mpr ⟨h.ascending, List.pairwise_singleton _ _, ?_⟩
    intro p hp q hq
    cases List.mem_singleton.mp hq
    exact (List.getElem?_eq_some_iff.mp (h.event p hp)).1
  · intro p hp
    obtain hp | hp := List.mem_append.mp hp
    · exact h'.event p hp
    · cases List.mem_singleton.mp hp
      exact List.getElem?_concat_length
  · intro p hp
    obtain hp | hp := List.mem_append.mp hp
    · exact h.order p hp
    · cases List.mem_singleton.mp hp
      exact List.nil_sublist _
  · rw [List.flatMap_append, ← h.made]
    exact (List.append_nil _).symm

/-- The last delivery goes on. -/
lemma revise {p p' : Passage} (h : History accepted gone added (ps ++ [p]) calls)
    (proper : p'.Proper) (entry : p'.entry = p.entry) (event : p'.event = p.event)
    (order : (p'.snapshot.getD []).Sublist added) {more : List Call}
    (made : p'.calls = p.calls ++ more) :
    History accepted gone added (ps ++ [p']) (calls ++ more) := by
  refine
    { left := h.left, proper := ?_, ascending := ?_, event := ?_, order := ?_, made := ?_ }
  · intro q hq
    obtain hq | hq := List.mem_append.mp hq
    · exact h.proper q (List.mem_append_left _ hq)
    · cases List.mem_singleton.mp hq
      exact proper
  · obtain ⟨before, _, last⟩ := List.pairwise_append.mp h.ascending
    refine List.pairwise_append.mpr ⟨before, List.pairwise_singleton _ _, ?_⟩
    intro q hq r hr
    cases List.mem_singleton.mp hr
    rw [entry]
    exact last q hq p (List.mem_singleton_self p)
  · intro q hq
    obtain hq | hq := List.mem_append.mp hq
    · exact h.event q (List.mem_append_left _ hq)
    · cases List.mem_singleton.mp hq
      rw [entry, event]
      exact h.event p (List.mem_append_right _ (List.mem_singleton_self p))
  · intro q hq
    obtain hq | hq := List.mem_append.mp hq
    · exact h.order q (List.mem_append_left _ hq)
    · cases List.mem_singleton.mp hq
      exact order
  · rw [h.made]
    simp only [List.flatMap_append, List.flatMap_singleton, made, List.append_assoc]

end History

/-- The current entry of a ledger fits the phase of the worker. -/
def Phase.Fits {κ : Type} : Option (Phase κ) → Option Passage → Prop
  | some (.holding e), current => ∃ n, current = some { entry := n, event := e }
  | some (.delivering d), current =>
    ∃ n called, current = some ⟨n, d.event, some (called ++ d.remaining), called, false⟩
  | _, current => current = none

namespace Desk

variable {κ : Type}

/-- The ledger at a desk is in order, and fits the gate and the worker. -/
structure Recorded (d : Desk κ) : Prop where
  history : History d.ledger.accepted d.ledger.gone d.ledger.added d.ledger.passages d.ledger.calls
  queue : ∀ gate, d.gate = some gate → d.ledger.accepted = d.ledger.gone ++ gate.queue
  listeners : ∀ gate, d.gate = some gate → gate.registry.Follows d.ledger.added
  fits : Phase.Fits (d.worker.map Prod.snd) d.ledger.current

namespace Recorded

variable {gate : Gate} {worker : Option (WorkerId × Phase κ)} {l : Ledger}

/-- An event is put into the queue, or is not. -/
lemma push (h : Recorded ⟨some gate, worker, l⟩) (e : Event) :
    Recorded ⟨some (gate.push e).1, worker, l.offered e (gate.push e).2⟩ := by
  have queue : l.accepted = l.gone ++ gate.queue := h.queue gate rfl
  have listeners := h.listeners gate rfl
  obtain ⟨_, push⟩ | ⟨_, push⟩ := gate.push_cases e
  · rw [push]
    refine ⟨h.history.accept e, ?_, ?_, h.fits⟩
    · rintro _ ⟨⟩
      simp only [Ledger.offered, queue, List.append_assoc]
    · rintro _ ⟨⟩
      exact listeners
  · rw [push]
    refine ⟨h.history, ?_, ?_, h.fits⟩
    · rintro _ ⟨⟩
      exact queue
    · rintro _ ⟨⟩
      exact listeners

/-- An event is offered. -/
lemma offer (h : Recorded ⟨some gate, worker, l⟩) (e : Event) :
    Recorded ⟨some (gate.offer e).1, worker, l.offered e (gate.offer e).2⟩ := by
  obtain ⟨_, offer⟩ | ⟨_, offer⟩ := gate.offer_cases e
  · rw [offer]
    exact h.push e
  · rw [offer]
    refine ⟨h.history, ?_, ?_, h.fits⟩
    · rintro _ ⟨⟩
      exact h.queue gate rfl
    · rintro _ ⟨⟩
      exact h.listeners gate rfl

/-- The listeners change. -/
lemma change (h : Recorded ⟨some gate, worker, l⟩) (c : Registry.Change ListenerId) :
    Recorded
      ⟨some { gate with registry := gate.registry.change c }, worker, l.changed c⟩ := by
  refine ⟨h.history.add _, ?_, ?_, h.fits⟩
  · rintro _ ⟨⟩
    exact h.queue gate rfl
  · rintro _ ⟨⟩
    exact (h.listeners gate rfl).change c

/-- The dispatcher is handed out. -/
lemma handOut (h : Recorded ⟨some gate, worker, l⟩) {gate' : Gate}
    (out : gate.handOut = some gate') : Recorded ⟨some gate', worker, l.handedOut gate.queue⟩ := by
  obtain ⟨_, rfl⟩ := Gate.handOut_eq_some out
  have queue : l.accepted = l.gone ++ gate.queue := h.queue gate rfl
  have left : l.gone ++ gate.queue <+: l.accepted := queue ▸ List.prefix_refl _
  refine ⟨h.history.leave left, ?_, ?_, h.fits⟩
  · rintro _ ⟨⟩
    simpa [Ledger.handedOut] using queue
  · rintro _ ⟨⟩
    exact h.listeners gate rfl

/-- A dispatcher lets go of the queue. -/
lemma ended (h : Recorded ⟨some gate, worker, l⟩) {gate' : Gate}
    (listeners : gate'.registry.Follows l.added) (drained : gate'.queue = []) :
    Recorded (κ := κ) ⟨some gate', none, l.ended gate.queue⟩ := by
  have queue : l.accepted = l.gone ++ gate.queue := h.queue gate rfl
  have left : l.gone ++ gate.queue <+: l.accepted := queue ▸ List.prefix_refl _
  refine ⟨?_, ?_, ?_, rfl⟩
  · simp only [Ledger.ended, Ledger.passages, Option.toList_none, List.append_nil]
    exact h.history.leave left
  · rintro _ ⟨⟩
    simpa [Ledger.ended, drained] using queue
  · rintro _ ⟨⟩
    exact listeners

/-- A worker takes an event. -/
lemma take {w : WorkerId} {phase : Phase κ} (h : Recorded ⟨some gate, some (w, phase), l⟩)
    (free : phase.isFree = true) {gate' : Gate} {e : Event} (taken : gate.pop = some (e, gate')) :
    Recorded (κ := κ) ⟨some gate', some (w, .holding e), l.taken e⟩ := by
  have none : l.current = none := by
    have fits := h.fits
    cases phase with
    | ready => exact fits
    | idle => exact fits
    | _ => cases free
  have queue : l.accepted = l.gone ++ gate.queue := h.queue gate rfl
  obtain ⟨es, first, rfl⟩ := Gate.pop_eq_some taken
  have split : l.accepted = (l.gone ++ [e]) ++ es := by
    rw [List.append_assoc, List.singleton_append, ← first]
    exact queue
  have history := h.history
  simp only [Ledger.passages, none, Option.toList_none, List.append_nil] at history
  refine ⟨history.take ?_, ?_, ?_, ⟨_, rfl⟩⟩
  · rw [split]
    exact List.prefix_append _ _
  · rintro _ ⟨⟩
    exact split
  · rintro _ ⟨⟩
    exact h.listeners gate rfl

/-- A worker begins to deliver an event. -/
lemma deliver {w : WorkerId} {e : Event}
    (h : Recorded (κ := κ) ⟨some gate, some (w, .holding e), l⟩) :
    Recorded (κ := κ)
      ⟨some gate.beginDelivery, some (w, .delivering ⟨e, none, gate.registry.live⟩),
        l.begun gate.registry.live⟩ := by
  obtain ⟨n, current⟩ := h.fits
  have listeners := h.listeners gate rfl
  have history := h.history
  simp only at current
  simp only [Ledger.passages, current, Option.toList_some] at history
  have proper : Passage.Proper ⟨n, e, some gate.registry.live, [], false⟩ :=
    ⟨List.nil_prefix, listeners.nodup, fun whole => absurd whole Bool.false_ne_true⟩
  refine ⟨?_, ?_, ?_, n, [], ?_⟩
  · simp only [Ledger.begun, Ledger.passages, current, Option.map_some, Option.toList_some]
    rw [← List.append_nil l.calls]
    exact history.revise proper rfl rfl listeners.live_sublist rfl
  · rintro _ ⟨⟩
    exact h.queue gate rfl
  · rintro _ ⟨⟩
    exact listeners.beginDelivery
  · simp only [Ledger.begun, current, Option.map_some, List.nil_append]

/-- A worker calls the next listener. -/
lemma call {w : WorkerId} {e : Event} {x : ListenerId} {xs : List ListenerId}
    (h : Recorded (κ := κ) ⟨some gate, some (w, .delivering ⟨e, none, x :: xs⟩), l⟩) (k : κ) :
    Recorded ⟨some gate, some (w, .delivering ⟨e, some k, xs⟩), l.called x e⟩ := by
  obtain ⟨n, called, current⟩ := h.fits
  have history := h.history
  simp only at current
  simp only [Ledger.passages, current, Option.toList_some] at history
  have last := List.mem_append_right l.finished (List.mem_singleton_self (a :=
    (⟨n, e, some (called ++ x :: xs), called, false⟩ : Passage)))
  have order := history.order _ last
  have proper : Passage.Proper ⟨n, e, some (called ++ x :: xs), called ++ [x], false⟩ :=
    ⟨⟨xs, by simp⟩, (history.proper _ last).nodup, fun whole => absurd whole Bool.false_ne_true⟩
  refine ⟨?_, h.queue, h.listeners, n, called ++ [x], ?_⟩
  · simp only [Ledger.called, Ledger.passages, current, Option.map_some, Option.toList_some]
    apply history.revise proper rfl rfl order
    simp [Passage.calls]
  · simp [Ledger.called, current]

/-- A delivery runs to its end. -/
lemma complete {w : WorkerId} {e : Event}
    (h : Recorded (κ := κ) ⟨some gate, some (w, .delivering ⟨e, none, []⟩), l⟩) :
    Recorded (κ := κ) ⟨some gate.countDelivered.endDelivery, some (w, .ready), l.completed⟩ := by
  obtain ⟨n, called, current⟩ := h.fits
  have history := h.history
  simp only [List.append_nil] at current
  simp only [Ledger.passages, current, Option.toList_some] at history
  have last := List.mem_append_right l.finished (List.mem_singleton_self (a :=
    (⟨n, e, some called, called, false⟩ : Passage)))
  have order := history.order _ last
  have proper : Passage.Proper ⟨n, e, some called, called, true⟩ :=
    ⟨(history.proper _ last).called, (history.proper _ last).nodup, fun _ => rfl⟩
  refine ⟨?_, ?_, ?_, rfl⟩
  · simp only [Ledger.completed, Ledger.passages, current, Option.map_some, Option.toList_some,
      Option.toList_none, List.append_nil]
    rw [← List.append_nil l.calls]
    apply history.revise proper rfl rfl order
    simp [Passage.calls]
  · rintro _ ⟨⟩
    exact h.queue gate rfl
  · rintro _ ⟨⟩
    exact (h.listeners gate rfl).endDelivery

end Recorded

/-- A gate that has been left has the listeners in order. -/
lemma follows_leave {gate : Gate} {added : List ListenerId} (h : gate.registry.Follows added)
    (phase : Phase κ) : (phase.leave gate).registry.Follows added := by
  cases phase with
  | delivering d => exact h.endDelivery
  | _ => exact h

/-- Every step keeps the records. -/
lemma Step.recorded {d d' : Desk κ} (step : d.Step d') (h : d.Recorded) : d'.Recorded := by
  cases step with
  | stay => exact h
  | create name capacity bus =>
    refine ⟨?_, ?_, ?_, rfl⟩
    · exact ⟨List.nil_prefix, nofun, .nil, nofun, nofun, rfl⟩
    · rintro _ ⟨⟩
      rfl
    · rintro _ ⟨⟩
      exact ⟨List.nodup_nil, List.nil_sublist _, fun _ => rfl⟩
  | remove _ => exact ⟨h.history, nofun, nofun, h.fits⟩
  | offer e => exact h.offer e
  | enter e => exact h.push e
  | change c => exact h.change c
  | handOut out => exact h.handOut out
  | release _ =>
    have listeners := h.listeners _ rfl
    exact h.ended listeners rfl
  | engage w _ => exact ⟨h.history, h.queue, h.listeners, h.fits⟩
  | begin => exact ⟨h.history, h.queue, h.listeners, h.fits⟩
  | rest => exact ⟨h.history, h.queue, h.listeners, h.fits⟩
  | take free taken => exact h.take free taken
  | deliver => exact h.deliver
  | call k => exact h.call k
  | proceed callback => exact ⟨h.history, h.queue, h.listeners, h.fits⟩
  | panicked =>
    have queue := h.queue _ rfl
    have listeners := h.listeners _ rfl
    refine ⟨h.history, ?_, ?_, h.fits⟩
    · rintro _ ⟨⟩
      exact queue
    · rintro _ ⟨⟩
      exact listeners
  | complete => exact h.complete
  | @stop gate w phase l _ =>
    have listeners := follows_leave (h.listeners gate rfl) phase
    have drained : (phase.leave gate).close.drain.takeBack.queue = [] := rfl
    exact h.ended listeners drained

/-- A blank desk has nothing to record. -/
lemma recorded_blank : Recorded ({} : Desk κ) :=
  ⟨⟨List.nil_prefix, nofun, .nil, nofun, nofun, rfl⟩, nofun, nofun, rfl⟩

end Desk

end EventGates

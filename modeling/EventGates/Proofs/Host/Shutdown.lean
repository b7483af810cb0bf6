import EventGates.Proofs.Dispatch.Interruption
import EventGates.Proofs.Host.Company
import EventGates.Proofs.Remote.Withdrawal

/-!
# Shutting a host down

A shutdown removes every link of the gates of the host, withdraws the endpoints of its remote gates and
cancels its token, all at one instant, and then waits for its workers to end. While it waits workers go
on, those of the host and any others, and what broken-off callbacks had in hand goes away
(`Host.wait`); whether the host waited long enough shows in its answer.

What holds from the first instant on, until all workers have ended, is the invariant
`Service.Closing`. Its field `leaving` carries the argument: a worker is there, or it has let go of its
gate, and then nobody else moves the gate, because its queue is with nobody. The main theorem
`Service.runAmid_shutdown` says what a shutdown that succeeds leaves of a host in company
(`Service.Closed`), and that there is nothing left for another shutdown to do.
-/

namespace EventGates

/-- The end of a delivery leaves nothing to make. -/
lemma Registry.endDelivery_endDelivery (r : Registry ListenerId) :
    r.endDelivery.endDelivery = r.endDelivery := by
  simp [endDelivery]

/-- Whoever had the queue of a gate has closed it, drained it and given it back. -/
structure Gate.Released (g : Gate) : Prop where
  running : g.running = false
  queue : g.queue = []
  handedOut : g.handedOut = false

lemma Gate.released_leave (g : Gate) : g.close.drain.takeBack.Released := ⟨rfl, rfl, rfl⟩

/-- A worker makes no changes to the listeners but those that are staged, and when it ends it lets go
of its gate. -/
lemma Shift.work_settles {κ : Type} {a : Shift κ} {a' : Option (Shift κ)} {gate gate' : Gate}
    {phase : Phase κ} {m : WorkerMove κ} (worked : a.work gate phase m = some (gate', a')) :
    gate'.registry.endDelivery = gate.registry.endDelivery ∧ (a' = none → gate'.Released) := by
  have taken : a.take gate = some (gate', a') →
      gate'.registry.endDelivery = gate.registry.endDelivery ∧ (a' = none → gate'.Released) := by
    intro take
    obtain ⟨⟨e, popped⟩, pop, same⟩ := Option.map_eq_some_iff.mp take
    cases same
    obtain ⟨es, -, rfl⟩ := Gate.pop_eq_some pop
    exact ⟨rfl, fun gone => absurd gone (Option.some_ne_none _)⟩
  -- one case for each line of `work`, in its order
  simp only [Shift.work] at worked
  split at worked
  case h_2 | h_4 =>
    split at worked
    · cases worked
    · exact taken worked
  case h_1 | h_3 | h_5 =>
    split at worked
    · cases worked
    · cases worked
      exact ⟨rfl, fun gone => absurd gone (Option.some_ne_none _)⟩
  case h_10 =>
    cases worked
    exact ⟨Registry.endDelivery_endDelivery _, fun gone => absurd gone (Option.some_ne_none _)⟩
  case h_11 =>
    split at worked
    · cases worked
      refine ⟨?_, fun _ => Gate.released_leave _⟩
      cases phase with
      | delivering d => exact Registry.endDelivery_endDelivery _
      | _ => rfl
    · cases worked
  case h_13 => cases worked
  all_goals
    cases worked
    exact ⟨rfl, fun gone => absurd gone (Option.some_ne_none _)⟩

namespace System

variable {κ : Type} {s s' : System κ} {g : GateId} {w : WorkerId}

/-- Nothing is staged at a gate that nobody serves. -/
lemma Lawful.endDelivery_of_unserved {held : Table String GateId} (h : s.Lawful held) {gate : Gate}
    (there : s.fabric.gates.find? g = some gate) (unserved : s.isServed g = false) :
    gate.registry.endDelivery = gate.registry := by
  obtain ⟨ms, rfl⟩ := h.run
  obtain ⟨d, shows, -⟩ := (Chronicle.run_sound ms).desk g
  have rest : d.isDelivering = false := by
    cases worker : d.worker with
    | none =>
      rw [Desk.isDelivering, worker]
      rfl
    | some served =>
      obtain ⟨a, found, own, -⟩ := (shows.worker served.1 served.2).mp worker
      have served := isServed_iff.mpr ⟨_, a, found, own⟩
      rw [unserved] at served
      cases served
  obtain ⟨delivering, adds, removes⟩ :=
    (Chronicle.run_orderly ms shows).resting (shows.gate.symm.trans there) rest
  exact Registry.endDelivery_of_resting delivering adds removes

/-! ## Endpoints that are withdrawn -/

/-- A table is there and does not serve a path. -/
def Vacant (s : System κ) (t : TableId) (path : String) : Prop :=
  ∃ table, s.tables.find? t = some table ∧ table.lookup path = none

/-- A path is not served after it was withdrawn, and neither is one that was not before. -/
lemma vacant_unregister {t t' : TableId} {path path' : String}
    (vacant : s.Vacant t' path' ∨ t' = t ∧ path' = path) :
    (s.unregister t path).1.Vacant t' path' := by
  simp only [Vacant, unregister, Table.find?_insert]
  by_cases same : t' = t
  · refine ⟨_, if_pos same, ?_⟩
    rw [Endpoints.lookup_unregister]
    split
    · rfl
    · next other =>
      obtain ⟨table, there, free⟩ | ⟨-, rfl⟩ := vacant
      · rw [endpoints, ← same, there]
        exact free
      · exact absurd rfl other
  · rw [if_neg same]
    exact vacant.resolve_right fun h => same h.1

/-- Where nothing is served there is nothing to withdraw. -/
lemma unregister_eq_self {t : TableId} {path : String} (vacant : s.Vacant t path) :
    (s.unregister t path).1 = s := by
  obtain ⟨table, there, free⟩ := vacant
  have served : s.endpoints t = table := by rw [endpoints, there, Option.getD_some]
  have same : s.tables.insert t table = s.tables := Table.insert_of_find?_eq_some there
  simp only [unregister, served, Endpoints.unregister_of_lookup_eq_none free, same]

end System

namespace Host

variable {κ : Type}

/-- The endpoints of remote gates are withdrawn. -/
lemma vacant_withdraw (rs : List RemoteGate) {s : System κ} {t : TableId} {path : String}
    (vacant : s.Vacant t path ∨ ∃ r ∈ rs, t = r.table ∧ path = r.path) :
    (withdraw rs s).Vacant t path := by
  induction rs generalizing s with
  | nil => exact vacant.resolve_right nofun
  | cons r rs ih =>
    apply ih (s := (r.terminate s).1)
    obtain before | ⟨r', mem, here⟩ := vacant
    · exact .inl (System.vacant_unregister (.inl before))
    · cases mem with
      | head => exact .inl (System.vacant_unregister (.inr here))
      | tail _ mem => exact .inr ⟨r', mem, here⟩

/-- The endpoints of others are served as before. -/
lemma lookup_withdraw (rs : List RemoteGate) (s : System κ) {t : TableId} {path : String}
    (other : ∀ r ∈ rs, t = r.table → Text.plain path ≠ Text.plain r.path) :
    ((withdraw rs s).endpoints t).lookup path = (s.endpoints t).lookup path := by
  induction rs generalizing s with
  | nil => rfl
  | cons r rs ih =>
    have rest := ih (s.unregister r.table r.path).1 fun r' mem =>
      other r' (List.mem_cons_of_mem r mem)
    refine rest.trans ?_
    rw [System.endpoints_unregister]
    split
    · next same =>
      subst same
      rw [Endpoints.lookup_unregister, if_neg (other r List.mem_cons_self rfl)]
    · rfl

/-- Endpoints that are not served are left as they are. -/
lemma withdraw_eq_self {rs : List RemoteGate} {s : System κ}
    (vacant : ∀ r ∈ rs, s.Vacant r.table r.path) : withdraw rs s = s := by
  induction rs with
  | nil => rfl
  | cons r rs ih =>
    show withdraw rs (s.unregister r.table r.path).1 = s
    rw [System.unregister_eq_self (vacant r List.mem_cons_self)]
    exact ih fun r' mem => vacant r' (List.mem_cons_of_mem r mem)

/-! ## Whole shutdowns -/

/-- A host that is shut down, with another token. -/
def halted (h : Host) (token : TokenId) : Host :=
  { h with workers := [], running := [], token, started := false }

/-- A move that needs nobody to do anything while the host waits: a worker goes on or is to be dropped,
and what a callback that is broken off had in hand goes away, which may be a dispatcher or a gate. -/
def isUnprompted (h : Host) : Move κ → Bool
  | .worker _ _ => true
  | .gate _ .release => true
  | .remove g => !h.gates.contains g
  | _ => false

/-- What a move leads to while a host waits. Moves that cannot be made are passed over, and so are those
that somebody would have to make. -/
def bide (h : Host) (s : System κ) (m : Move κ) : System κ :=
  if h.isUnprompted m then (s.move m).getD s else s

/-- What a host finds when it has waited. -/
def wait (h : Host) (s : System κ) (meanwhile : List (Move κ)) : System κ := meanwhile.foldl h.bide s

/-- Shuts a host down. With a grace it waits for its workers to end. -/
def shutdown (h : Host) (s : System κ) (meanwhile : List (Move κ)) :
    System κ × Host × Except HostError Unit :=
  let (s, h', workers, running) := h.beginShutdown s
  if h.config.grace = 0 then (s, h', .ok ())
  else
    let (s, outcome) := finishShutdown h.config workers running (h.wait s meanwhile)
    (s, h', outcome)

/-- A gate that does not go away is still there when the host has waited. -/
lemma isLive_wait (h : Host) {s : System κ} (lawful : ∃ held, s.Lawful held) {x : GateId}
    (live : s.fabric.isLive x = true) {meanwhile : List (Move κ)} (kept : .remove x ∉ meanwhile) :
    (h.wait s meanwhile).fabric.isLive x = true := by
  induction meanwhile generalizing s with
  | nil => exact live
  | cons m ms ih =>
    rw [List.mem_cons, not_or] at kept
    show (h.wait (h.bide s m) ms).fabric.isLive x = true
    simp only [bide]
    split
    · obtain ⟨held, lawful⟩ := lawful
      cases made : s.move m with
      | none => exact ih ⟨held, lawful⟩ live kept.2
      | some s' =>
        exact ih (lawful.exists_of_move made) (lawful.isLive_move made (Ne.symm kept.1) live) kept.2
    · exact ih lawful live kept.2

/-- A host that begins to shut down has its gates unlinked. -/
lemma fabric_beginShutdown (h : Host) (s : System κ) :
    (h.beginShutdown s).1.fabric = h.gates.foldl (fun f g => (f.unlinkAll g).1) s.fabric := by
  simp only [beginShutdown, System.addToken, System.cancel]
  rw [fabric_withdraw, unlinkGates_eq]
  rfl

lemma gates_beginShutdown (h : Host) (s : System κ) :
    (h.beginShutdown s).1.fabric.gates = s.fabric.gates := by
  rw [fabric_beginShutdown, Fabric.gates_unlinkEach]

/-- A shutdown that succeeds finds that all workers have ended. -/
lemma finishShutdown_eq_ok {config : HostConfig} {workers : List Tracked} {running : List String}
    {s s' : System κ} (ended : finishShutdown config workers running s = (s', .ok ())) :
    s' = s ∧ ∀ t ∈ workers, s.workers.find? t.worker = none := by
  have none : (workers.partition fun t => s.workers.contains t.worker).1 = [] := by
    simp only [finishShutdown] at ended
    split at ended
    · next none => exact List.isEmpty_iff.mp none
    · cases ended
  constructor
  · have left := system_finishShutdown config workers running s
    rw [ended, none] at left
    exact left
  · intro t mem
    rw [List.partition_eq_filter_filter, List.filter_eq_nil_iff] at none
    have gone := none t mem
    rw [Bool.not_eq_true, Table.contains, Option.isSome_eq_false_iff,
      Option.isNone_iff_eq_none] at gone
    exact gone

end Host

namespace Service

variable {κ : Type} {v : Service κ} {s s' : System κ}

/-! ## While a host waits -/

/-- What holds of the system while the host shuts down, from when the workers are cancelled. -/
structure Closing (v : Service κ) (s : System κ) : Prop where
  lawful : ∃ held, s.Lawful held
  tidy : s.fabric.Tidy
  present : ∀ g ∈ v.host.gates, s.fabric.isLive g = true
  alone : ∀ g ∈ v.host.gates, s.fabric.links.entries g = []
  apart : ∀ x ∉ v.host.gates, s.fabric.isLive x = true →
    s.fabric.links.entries x =
      (v.system.fabric.links.entries x).filter fun y => y ∉ v.host.gates ∧ s.fabric.isLive y = true
  vacant : ∀ r ∈ v.host.remotes, s.Vacant r.table r.path
  others : ∀ t path, (∀ r ∈ v.host.remotes, t = r.table → Text.plain path ≠ Text.plain r.path) →
    (s.endpoints t).lookup path = (v.system.endpoints t).lookup path
  listeners : ∀ x gate', s.fabric.gates.find? x = some gate' →
    ∃ gate, v.system.fabric.gates.find? x = some gate ∧
      gate'.registry.endDelivery = gate.registry.endDelivery
  /-- A worker is there, or it has let go of its gate, and nobody else has its queue. -/
  leaving : ∀ t ∈ v.host.workers, ∃ g ∈ v.host.gates, (v.system.duty g t.worker).isSome = true ∧
    ((s.duty g t.worker).isSome = true ∨
      s.workers.find? t.worker = none ∧ ∃ gate, s.fabric.gates.find? g = some gate ∧ gate.Released)

namespace Closing

/-- A move that leaves gates, links and endpoints where they are, and listeners but for changes that
are staged. -/
lemma of_stands (h : v.Closing s) (lawful : ∃ held, s'.Lawful held)
    (stands : s.fabric.Stands s'.fabric) (tables : s'.tables = s.tables)
    (listeners : ∀ x gate', s'.fabric.gates.find? x = some gate' →
      ∃ gate, s.fabric.gates.find? x = some gate ∧
        gate'.registry.endDelivery = gate.registry.endDelivery)
    (leaving : ∀ g w, (s.duty g w).isSome = true →
      (s'.duty g w).isSome = true ∨ s'.workers.find? w = none ∧
        ∃ gate, s'.fabric.gates.find? g = some gate ∧ gate.Released)
    (left : ∀ g w gate, s.workers.find? w = none → s.fabric.gates.find? g = some gate →
      gate.Released → s'.workers.find? w = none ∧ s'.fabric.gates.find? g = some gate) :
    v.Closing s' where
  lawful := lawful
  tidy := h.tidy.stands stands
  present g mem := (stands.live g).trans (h.present g mem)
  alone g mem := by
    rw [stands.links]
    exact h.alone g mem
  apart x other live := by
    rw [stands.live] at live
    simp only [stands.links, stands.live]
    exact h.apart x other live
  vacant r mem := by
    simp only [System.Vacant, tables]
    exact h.vacant r mem
  others t path other := by
    simp only [System.endpoints, tables]
    exact h.others t path other
  listeners x gate' there := by
    obtain ⟨gate, before, same⟩ := listeners x gate' there
    obtain ⟨gate₀, first, eventual⟩ := h.listeners x gate before
    exact ⟨gate₀, first, same.trans eventual⟩
  leaving t mem := by
    obtain ⟨g, own, served, serves | ⟨gone, gate, there, released⟩⟩ := h.leaving t mem
    · exact ⟨g, own, served, leaving g t.worker serves⟩
    · obtain ⟨gone', there'⟩ := left g t.worker gate gone there released
      exact ⟨g, own, served, .inr ⟨gone', gate, there', released⟩⟩

/-- A worker goes on. -/
lemma worker (h : v.Closing s) {w : WorkerId} {m : WorkerMove κ}
    (made : s.move (.worker w m) = some s') : v.Closing s' := by
  obtain ⟨held, lawful⟩ := h.lawful
  have lawful' := lawful.exists_of_move made
  simp only [System.move, Option.bind_eq_some_iff] at made
  obtain ⟨a, found, made⟩ := made
  obtain ⟨gate, there, out⟩ := lawful.gate_of_worker found
  have does := System.moveWorker_work found there m
  rw [made] at does
  obtain ⟨⟨gate', shift⟩, worked, after, turns, rfl, -⟩ := System.does_of_rel does
  obtain ⟨eventual, released⟩ := Shift.work_settles worked
  refine h.of_stands lawful' (lawful.stands_moveWorker found made)
    (congrArg (·.tables) (System.frame_moveWorker made)) ?_ ?_ ?_
  · intro x gate₁ now
    rw [turns.gates] at now
    split at now
    · next same =>
      cases now
      exact ⟨gate, same ▸ there, eventual⟩
    · exact ⟨gate₁, now, rfl⟩
  · intro g u serves
    by_cases own : u = w
    · subst own
      obtain ⟨⟨t, dropped⟩, serves⟩ := Option.isSome_iff_exists.mp serves
      obtain ⟨b, found', rfl, -⟩ := System.duty_eq_some.mp serves
      cases found.symm.trans found'
      have now := (turns.workers u).trans (if_pos rfl)
      cases after with
      | none =>
        refine .inr ⟨now, gate', ?_, released rfl⟩
        rw [turns.gates, if_pos rfl]
      | some c =>
        left
        rw [System.duty, now, Option.bind_some, if_pos (turns.own c rfl)]
        rfl
    · left
      rw [System.duty, turns.workers, if_neg own]
      exact serves
  · intro g u gate₁ gone before free
    have other : u ≠ w := by
      rintro rfl
      rw [found] at gone
      cases gone
    have elsewhere : g ≠ a.gate := by
      rintro rfl
      cases there.symm.trans before
      exact Bool.false_ne_true (free.handedOut.symm.trans out)
    rw [turns.workers, turns.gates, if_neg other, if_neg elsewhere]
    exact ⟨gone, before⟩

/-- A dispatcher that is not at work goes away. -/
lemma release (h : v.Closing s) {x : GateId} (made : s.move (.gate x .release) = some s') :
    v.Closing s' := by
  obtain ⟨held, lawful⟩ := h.lawful
  have lawful' := lawful.exists_of_move made
  have stands : s.fabric.Stands s'.fabric := System.stands_moveGate (m := .release) made
  simp only [System.move, System.moveGate] at made
  split at made
  · next held =>
    cases made
    obtain ⟨⟨gate, there, out⟩, -⟩ := System.isHeld_elim held
    refine h.of_stands lawful' stands rfl ?_ (fun g w => .inl) ?_
    · intro y gate' now
      change (s.fabric.endDispatch x).gates.find? y = _ at now
      rw [Fabric.find?_endDispatch] at now
      split at now
      · next same =>
        obtain ⟨gate₁, before, rfl⟩ := Option.map_eq_some_iff.mp now
        exact ⟨gate₁, same ▸ before, rfl⟩
      · exact ⟨gate', now, rfl⟩
    · intro g w gate₁ gone before free
      have other : g ≠ x := by
        rintro rfl
        cases there.symm.trans before
        exact Bool.false_ne_true (free.handedOut.symm.trans out)
      refine ⟨gone, ?_⟩
      show (s.fabric.endDispatch x).gates.find? g = _
      rw [Fabric.find?_endDispatch, if_neg other]
      exact before
  · cases made

/-- A gate goes away that is none of the host's. -/
lemma remove (h : v.Closing s) {x : GateId} (other : x ∉ v.host.gates)
    (made : s.move (.remove x) = some s') : v.Closing s' := by
  obtain ⟨held, lawful⟩ := h.lawful
  have lawful' := lawful.exists_of_move made
  have apart : ∀ g ∈ v.host.gates, g ≠ x := by
    rintro g mem rfl
    exact other mem
  simp only [System.move] at made
  split at made
  · cases made
  · cases made
    refine ⟨lawful', h.tidy.removeGate x, ?_, ?_, ?_, h.vacant, h.others, ?_, ?_⟩
    · intro g mem
      show (s.fabric.removeGate x).isLive g = true
      rw [Fabric.isLive_removeGate, h.present g mem, decide_eq_false (apart g mem)]
      rfl
    · intro g mem
      show (s.fabric.removeGate x).links.entries g = []
      rw [h.tidy.entries_removeGate, h.alone g mem]
      simp
    · intro y outside live
      have stays : ∀ z, (s.onFabric (·.removeGate x)).fabric.isLive z =
          (!decide (z = x) && s.fabric.isLive z) := s.fabric.isLive_removeGate x
      have entries : (s.onFabric (·.removeGate x)).fabric.links.entries y = _ :=
        h.tidy.entries_removeGate x y
      simp only [stays, Bool.and_eq_true, Bool.not_eq_true', decide_eq_false_iff_not] at live ⊢
      rw [entries, if_neg live.1, h.apart y outside live.2, List.filter_filter]
      apply List.filter_congr
      intro z _
      rw [Bool.eq_iff_iff]
      simp only [Bool.and_eq_true, decide_eq_true_eq]
      tauto
    · intro y gate' now
      change (s.fabric.gates.erase x).find? y = _ at now
      rw [Table.find?_erase] at now
      split at now
      · cases now
      · exact h.listeners y gate' now
    · intro t mem
      obtain ⟨g, own, served, serves | ⟨gone, gate, there, released⟩⟩ := h.leaving t mem
      · exact ⟨g, own, served, .inl serves⟩
      · refine ⟨g, own, served, .inr ⟨gone, gate, ?_, released⟩⟩
        show (s.fabric.gates.erase x).find? g = _
        rw [Table.find?_erase, if_neg (apart g own)]
        exact there

lemma bide (h : v.Closing s) (m : Move κ) : v.Closing (v.host.bide s m) := by
  simp only [Host.bide]
  split
  · next unprompted =>
    cases made : s.move m with
    | none => exact h
    | some s' =>
      cases m with
      | worker w m => exact h.worker made
      | remove x =>
        refine h.remove ?_ made
        intro mem
        simp [Host.isUnprompted, mem] at unprompted
      | gate x m =>
        cases m with
        | release => exact h.release made
        | _ => cases unprompted
      | _ => cases unprompted
  · exact h

/-- What holds when a host begins to wait holds when it has waited. -/
lemma wait (h : v.Closing s) (meanwhile : List (Move κ)) :
    v.Closing (v.host.wait s meanwhile) := by
  induction meanwhile generalizing s with
  | nil => exact h
  | cons m ms ih => exact ih (h.bide m)

end Closing

/-- A host that begins to shut down has its links and endpoints withdrawn. -/
lemma Staffed.closing (h : v.Staffed) : v.Closing (v.host.beginShutdown v.system).1 := by
  have after := h.shutdown rfl
  have quiet := quiet_withdraw v.host v.system
  have entries := (h.tidy.unlinkEach v.host.gates).2
  rw [← Host.fabric_beginShutdown] at entries
  have gates := v.host.gates_beginShutdown v.system
  refine ⟨after.lawful, after.tidy, after.present, ?_, ?_, ?_, ?_, ?_, ?_⟩
  · intro g mem
    rw [entries, if_pos mem]
  · intro x other _
    rw [entries, if_neg other]
    apply List.filter_congr
    intro y mem
    have live : (v.host.beginShutdown v.system).1.fabric.isLive y = true := by
      rw [Fabric.isLive, gates]
      exact h.tidy.live mem
    simp [live]
  · intro r mem
    exact Host.vacant_withdraw v.host.remotes (.inr ⟨r, mem, rfl, rfl⟩)
  · intro t path other
    show ((Host.withdraw v.host.remotes (Host.unlinkGates v.host.gates v.system)).endpoints t).lookup
      path = _
    rw [Host.lookup_withdraw _ _ other, Host.unlinkGates_eq]
    rfl
  · intro x gate there
    exact ⟨gate, gates ▸ there, rfl⟩
  · intro t mem
    obtain ⟨g, own, serves⟩ := h.tracked t mem
    refine ⟨g, own, Option.isSome_of_eq_some serves, .inl ?_⟩
    have same : (v.host.beginShutdown v.system).1.duty g t.worker = v.system.duty g t.worker :=
      (quiet.leaves g).duty t.worker
    rw [same, serves]
    rfl

/-! ## What a shutdown leaves -/

/-- The host of `v`, which had spawned the given workers since it was last shut down, was shut down
while it waited for these moves, which has left the system `s`. -/
structure Closed (v : Service κ) (spawned : List WorkerId) (meanwhile : List (Move κ)) (s : System κ)
    (h : Host) : Prop where
  /-- No gate of the host has a partner or is in anybody's list. -/
  unlinked : ∀ g ∈ v.host.gates, s.fabric.links.entries g = [] ∧ ∀ x, g ∉ s.fabric.links.entries x
  /-- No path of a remote gate is served. -/
  withdrawn : ∀ r ∈ v.host.remotes, (s.endpoints r.table).lookup r.path = none
  /-- Other paths are served as before. -/
  others : ∀ t path, (∀ r ∈ v.host.remotes, t = r.table → Text.plain path ≠ Text.plain r.path) →
    (s.endpoints t).lookup path = (v.system.endpoints t).lookup path
  /-- Each worker that the host had spawned has ended. Its gate is not running and has nothing in its
  queue, and the changes to its listeners that were staged are made. -/
  ended : ∀ w ∈ spawned, s.workers.find? w = none ∧
    ∃ g ∈ v.host.gates, (v.system.duty g w).isSome = true ∧
      ∃ gate gate', v.system.fabric.gates.find? g = some gate ∧
        s.fabric.gates.find? g = some gate' ∧ gate'.running = false ∧ gate'.queue = [] ∧
        gate'.registry = gate.registry.endDelivery
  /-- The host is not started, keeps track of no worker, and is otherwise as it was. -/
  stopped : h = v.host.halted h.token
  /-- A gate is still there if it is one of the host's, or if it did not go away while the host
  waited. -/
  present : ∀ x, v.system.fabric.isLive x = true → x ∈ v.host.gates ∨ .remove x ∉ meanwhile →
    s.fabric.isLive x = true
  /-- The listeners of a gate are those that it had, with the changes made that were staged, as soon as
  no event is being delivered to them. -/
  listeners : ∀ x gate', s.fabric.gates.find? x = some gate' →
    ∃ gate, v.system.fabric.gates.find? x = some gate ∧
      gate'.registry.endDelivery = gate.registry.endDelivery ∧
      (s.isServed x = false → gate'.registry = gate.registry.endDelivery)
  /-- Other gates keep their partners in order, but for gates of the host and those that are gone. -/
  apart : ∀ x ∉ v.host.gates, s.fabric.isLive x = true →
    s.fabric.links.entries x =
      (v.system.fabric.links.entries x).filter fun y => y ∉ v.host.gates ∧ s.fabric.isLive y = true

/-- What holds when a host has waited and all of its workers have ended. -/
lemma Closing.closed (h : v.Closing s) {meanwhile : List (Move κ)}
    (kept : ∀ x, v.system.fabric.isLive x = true → .remove x ∉ meanwhile →
      s.fabric.isLive x = true) (token : TokenId)
    (gone : ∀ t ∈ v.host.workers, s.workers.find? t.worker = none) :
    v.Closed (v.host.workers.map (·.worker)) meanwhile s (v.host.halted token) := by
  obtain ⟨held, lawful⟩ := h.lawful
  have listeners : ∀ x gate', s.fabric.gates.find? x = some gate' →
      ∃ gate, v.system.fabric.gates.find? x = some gate ∧
        gate'.registry.endDelivery = gate.registry.endDelivery ∧
        (s.isServed x = false → gate'.registry = gate.registry.endDelivery) := by
    intro x gate' there
    obtain ⟨gate, before, eventual⟩ := h.listeners x gate' there
    refine ⟨gate, before, eventual, ?_⟩
    intro unserved
    exact (lawful.endDelivery_of_unserved there unserved).symm.trans eventual
  refine ⟨?_, ?_, h.others, ?_, rfl, ?_, listeners, h.apart⟩
  · exact fun g mem => ⟨h.alone g mem, h.tidy.not_mem_entries (h.alone g mem)⟩
  · intro r mem
    obtain ⟨table, there, free⟩ := h.vacant r mem
    rw [System.endpoints, there]
    exact free
  · intro w among
    obtain ⟨t, mem, rfl⟩ := List.mem_map.mp among
    refine ⟨gone t mem, ?_⟩
    obtain ⟨g, own, served, serves | ⟨-, gate', there, released⟩⟩ := h.leaving t mem
    · rw [System.duty, gone t mem] at serves
      cases serves
    · obtain ⟨gate, before, -, settled⟩ := listeners g gate' there
      refine ⟨g, own, served, gate, gate', before, there, released.running, released.queue,
        settled ?_⟩
      -- a queue that is at hand is with no worker
      apply eq_false_of_ne_true
      intro busy
      have out := lawful.isOut_of_isServed busy
      rw [System.isOut, there, Option.any_some, released.handedOut] at out
      cases out
  · rintro x live (own | stays)
    · exact h.present x own
    · exact kept x live stays

/-- A host that is shut down has nothing to shut down but its token. -/
lemma Closing.shutdown_halted (h : v.Closing s) (grace : v.host.config.grace ≠ 0) (token : TokenId)
    (later : List (Move κ)) :
    (v.host.halted token).shutdown s later =
      (v.host.wait { s with cancelled := token :: s.cancelled, nextToken := s.nextToken + 1 } later,
        v.host.halted s.nextToken, .ok ()) := by
  have unlinked : Host.unlinkGates v.host.gates s = s := by
    rw [Host.unlinkGates_eq]
    exact congrArg (fun fabric => { s with fabric }) (h.tidy.unlinkEach_eq_self h.alone)
  have withdrawn := Host.withdraw_eq_self h.vacant
  have begun : (v.host.halted token).beginShutdown s =
      ({ s with cancelled := token :: s.cancelled, nextToken := s.nextToken + 1 },
        v.host.halted s.nextToken, [], []) := by
    simp only [Host.beginShutdown, Host.halted, unlinked, withdrawn, System.cancel, System.addToken]
  have waits : (v.host.halted token).config.grace ≠ 0 := grace
  rw [Host.shutdown, begun]
  dsimp only
  rw [if_neg waits]
  rfl

/-- After any run of a host in company, a shutdown with a grace that succeeds leaves the host closed,
whatever its workers did meanwhile. Then another shutdown succeeds and changes nothing but the token
of the host. -/
theorem runAmid_shutdown (config : HostConfig) (table : Option TableId) (ms : List (HostMove κ))
    (grace : (runAmid config table ms).host.config.grace ≠ 0) (meanwhile : List (Move κ))
    {s : System κ} {h : Host}
    (ended : (runAmid config table ms).host.shutdown (runAmid config table ms).system meanwhile =
      (s, h, .ok ())) :
    (runAmid config table ms).Closed (spawned config table ms) meanwhile s h ∧ ∀ later,
      h.shutdown s later =
        (h.wait { s with cancelled := h.token :: s.cancelled, nextToken := s.nextToken + 1 } later,
          { h with token := s.nextToken }, .ok ()) := by
  have staffed := staffed_runAmid config table ms
  rw [← workers_runAmid]
  generalize runAmid config table ms = v at *
  have closing := staffed.closing.wait meanwhile
  have kept : ∀ x, v.system.fabric.isLive x = true → .remove x ∉ meanwhile →
      (v.host.wait (v.host.beginShutdown v.system).1 meanwhile).fabric.isLive x = true := by
    intro x live
    have begins : (v.host.beginShutdown v.system).1.fabric.isLive x = true := by
      rw [Fabric.isLive, Host.gates_beginShutdown]
      exact live
    exact Host.isLive_wait v.host staffed.closing.lawful begins
  have begun : v.host.beginShutdown v.system =
      ((v.host.beginShutdown v.system).1, v.host.halted (v.host.beginShutdown v.system).2.1.token,
        v.host.workers, v.host.running) := rfl
  rw [Host.shutdown, begun] at ended
  dsimp only at ended
  rw [if_neg grace] at ended
  cases finished : Host.finishShutdown v.host.config v.host.workers v.host.running
      (v.host.wait (v.host.beginShutdown v.system).1 meanwhile) with
  | mk s' outcome =>
    rw [finished] at ended
    cases ended
    obtain ⟨rfl, gone⟩ := Host.finishShutdown_eq_ok finished
    exact ⟨closing.closed kept _ gone, closing.shutdown_halted grace _⟩

/-- A host that waits for its workers. -/
def graceful : HostConfig :=
  { grace := 1, busCapacity := 0, http := { advertisedHost := some "host" } }

/-- The worker of gate 0 is in a callback, during which a listener came and the other one left, and
that of the remote gate 1 has yet to begin. Gates 2 and 3 are not the host's. -/
def interruptedHost : List (HostMove Unit) :=
  [.createGate "a", .createRemote "b" .dns {} {}, .beside (.create "c" 1 none),
    .beside (.create "d" 1 none), .beside (.side (.link 0 1)), .beside (.side (.link 1 2)),
    .beside (.side (.link 2 3)), .beside (.gate 0 (.change (.add 5))), .start,
    .beside (.gate 0 (.offer ⟨0, none, .custom ⟨"demo.Reading", .null⟩⟩)),
    .beside (.worker 0 .begin), .beside (.worker 0 .take), .beside (.worker 0 .deliver),
    .beside (.worker 0 (.call ())), .beside (.gate 0 (.change (.add 6))),
    .beside (.gate 0 (.change (.remove 5)))]

/-- The host waits for both workers, and the changes of listeners are made. -/
theorem runAmid_shutdown_interrupted :
    let v := runAmid graceful none interruptedHost
    let r := v.host.shutdown v.system [.worker 0 .stop, .worker 1 .begin, .worker 1 .stop]
    spawned graceful none interruptedHost = [0, 1] ∧ r.2.2.isOk = true ∧ r.1.workers.keys = [] ∧
      (∃ gate, r.1.fabric.gates.find? 0 = some gate ∧ gate.registry.live = [6]) ∧
      r.1.fabric.links.entries 2 = [3] := by
  intro v r
  have outcome : r.2.2 = .ok () := by rfl
  have ended : r = (r.1, r.2.1, .ok ()) := Prod.ext rfl (Prod.ext rfl outcome)
  have closed := (runAmid_shutdown graceful none interruptedHost (by decide +kernel) _ ended).1
  have before : (v.system.fabric.gates.find? 0).all fun gate =>
      gate.registry.endDelivery.live = [6] := by
    decide +kernel
  have idle : r.1.isServed 0 = false := by decide +kernel
  refine ⟨by decide +kernel, by rw [outcome]; rfl, by decide +kernel, ?_, ?_⟩
  · have live := closed.present 0 (by decide +kernel) (.inl (by decide +kernel))
    rw [Fabric.isLive, Table.contains, Option.isSome_iff_exists] at live
    obtain ⟨gate', there⟩ := live
    obtain ⟨gate, was, -, settled⟩ := closed.listeners 0 gate' there
    have same : v.system.fabric.gates.find? 0 = some gate := was
    rw [same, Option.all_some, decide_eq_true_eq] at before
    exact ⟨gate', there, settled idle ▸ before⟩
  · rw [closed.apart 2 (by decide +kernel) (by decide +kernel)]
    decide +kernel

end Service

end EventGates

import EventGates.Proofs.Dispatch.Schedules
import EventGates.Proofs.Host.Serving
import EventGates.Proofs.Links.Tidy

/-!
# A host in company

Others may do what they like with the gates of a host, and have their queues as well. There is little
that only the host can do: a gate does not go away while the host has it, and nobody else drops the
workers that it keeps track of or cancels its token. `Service.runAmid` is any run of what others do then
and what the host does.

A gate whose queue somebody else has is left alone by a start, so a started host may have gates without
a worker of its own. Still each worker that it keeps track of is there, at a gate of the host and with
the token of the host, and not to be dropped (`Staffed.tracked`): none of them can end before the next
shutdown. They are the workers that the host has spawned since it was last shut down
(`Service.workers_runAmid`).
-/

namespace EventGates

/-! ## Gates that stay where they are -/

namespace Fabric

variable {f f' : Fabric} {g : GateId}

/-- The same gates are there, with the same links. -/
structure Stands (f f' : Fabric) : Prop where
  links : f'.links = f.links
  live : ∀ x, f'.isLive x = f.isLive x
  nextGate : f'.nextGate = f.nextGate

lemma Tidy.stands (h : f.Tidy) (stands : f.Stands f') : f'.Tidy :=
  h.congr stands.links stands.live stands.nextGate

/-- A gate that changes is still there. -/
lemma isLive_of_change {change : Gate → Gate}
    (gates : ∀ x, f'.gates.find? x =
      if x = g then (f.gates.find? g).map change else f.gates.find? x) (x : GateId) :
    f'.isLive x = f.isLive x := by
  simp only [isLive, Table.contains, gates]
  split
  · next same => rw [same, Option.isSome_map]
  · rfl

/-- A gate that is replaced is still there. -/
lemma isLive_of_turns {gate gate' : Gate} (there : f.gates.find? g = some gate)
    (gates : ∀ x, f'.gates.find? x = if x = g then some gate' else f.gates.find? x) (x : GateId) :
    f'.isLive x = f.isLive x := by
  have change : ∀ x, f'.gates.find? x =
      if x = g then (f.gates.find? g).map fun _ => gate' else f.gates.find? x := by
    intro x
    rw [gates, there]
    rfl
  exact isLive_of_change change x

/-- What a worker leaves as it is has the same links. -/
lemma links_of_frame (frame : f'.frame = f.frame) : f'.links = f.links := by
  have links := congrArg Fabric.links frame
  exact links

lemma links_enter (f : Fabric) (g : GateId) (e : Event) : (f.enter g e).links = f.links := by
  simp only [enter]
  split
  · rfl
  · split
    · rfl
    · rw [links_diagnose]

end Fabric

namespace System

variable {κ : Type} {s s' : System κ} {g : GateId} {w : WorkerId}

/-- A queue that is handed out is one of a gate that is there. -/
lemma stands_handOut {f : Fabric} (made : s.fabric.handOut g = some f) : s.fabric.Stands f := by
  obtain ⟨gate, gate', there, -, rfl⟩ := Fabric.handOut_eq_some made
  exact ⟨rfl, Fabric.isLive_of_turns there fun x => s.fabric.gates.find?_insert g x gate', rfl⟩

/-- What is done to a gate leaves it where it is. -/
lemma stands_moveGate {m : GateMove} (made : s.moveGate g m = some s') :
    s.fabric.Stands s'.fabric := by
  cases m with
  | offer e =>
    cases made
    exact ⟨s.fabric.links_offer g e, Fabric.isLive_of_change fun _ => Fabric.find?_offer ..,
      s.fabric.nextGate_offer g e⟩
  | enter e =>
    cases made
    exact ⟨s.fabric.links_enter g e, Fabric.isLive_of_change fun _ => Fabric.find?_enter ..,
      s.fabric.nextGate_enter g e⟩
  | change c =>
    cases made
    exact ⟨Fabric.links_of_frame (s.fabric.frame_changeListeners g c),
      Fabric.isLive_of_change fun _ => Fabric.find?_changeListeners ..,
      s.fabric.nextGate_changeListeners g c⟩
  | handOut =>
    simp only [moveGate, Option.map_eq_some_iff] at made
    obtain ⟨f, out, rfl⟩ := made
    exact stands_handOut out
  | release =>
    simp only [moveGate] at made
    split at made
    · cases made
      exact ⟨Fabric.links_of_frame (s.fabric.frame_endDispatch g),
        Fabric.isLive_of_change fun _ => Fabric.find?_endDispatch ..,
        s.fabric.nextGate_endDispatch g⟩
    · cases made
  | engage t =>
    simp only [moveGate] at made
    split at made
    · cases made
      exact ⟨rfl, fun _ => rfl, rfl⟩
    · cases made

/-- A worker leaves its gate where it is. -/
lemma Lawful.stands_moveWorker {held : Table String GateId} (h : s.Lawful held) {a : Worker κ}
    {m : WorkerMove κ} (found : s.workers.find? w = some a)
    (made : s.moveWorker w a a.phase m = some s') : s.fabric.Stands s'.fabric := by
  obtain ⟨gate, there, -⟩ := h.gate_of_worker found
  obtain ⟨gate', after, turns, -⟩ := moveWorker_step found there {} made
  have frame := congrArg (·.fabric) (frame_moveWorker made)
  exact ⟨Fabric.links_of_frame frame, Fabric.isLive_of_turns there turns.gates, turns.nextGate⟩

/-- What is done to nothing but links, buses, tables and numbers leaves all gates. -/
lemma isLive_side (s : System κ) (m : SideMove) (g : GateId) :
    (s.moveSide m).fabric.isLive g = s.fabric.isLive g := by
  simp only [Fabric.isLive, Table.contains, (s.alike_moveSide m).gates]

/-- A move leaves the lists in order, if the gates that it links are there. -/
lemma Lawful.tidy_move {held : Table String GateId} (h : s.Lawful held) (tidy : s.fabric.Tidy)
    {m : Move κ} (made : s.move m = some s')
    (live : ∀ a b, m = .side (.link a b) → s.fabric.isLive a = true ∧ s.fabric.isLive b = true) :
    s'.fabric.Tidy := by
  cases m with
  | create name capacity bus =>
    cases made
    exact tidy.addGate _
  | remove g =>
    simp only [move] at made
    split at made
    · cases made
    · cases made
      exact tidy.removeGate g
  | gate g m => exact tidy.stands (stands_moveGate made)
  | worker w m =>
    simp only [move, Option.bind_eq_some_iff] at made
    obtain ⟨a, found, made⟩ := made
    exact tidy.stands (h.stands_moveWorker found made)
  | cancel t =>
    cases made
    exact tidy
  | side m =>
    cases made
    cases m with
    | link a b =>
      obtain ⟨la, lb⟩ := live a b rfl
      simp only [moveSide, onFabric]
      split
      · exact tidy
      · next linked => exact tidy.link la lb linked
    | unlink a b => exact tidy.unlink a b
    | unlinkAll g => exact tidy.unlinkAll g
    | register t path handler =>
      simp only [moveSide, register]
      cases (s.endpoints t).register path handler with
      | error _ => exact tidy
      | ok table => exact tidy
    | _ => exact tidy.congr rfl (fun _ => rfl) rfl

/-- A gate is there until it goes away. -/
lemma Lawful.isLive_move {held : Table String GateId} (h : s.Lawful held) {m : Move κ}
    (made : s.move m = some s') (kept : m ≠ .remove g) (live : s.fabric.isLive g = true) :
    s'.fabric.isLive g = true := by
  cases m with
  | create name capacity bus =>
    cases made
    show ((s.fabric.gates.insert _ _).find? g).isSome = true
    rw [Table.find?_insert]
    split
    · rfl
    · exact live
  | remove x =>
    simp only [move] at made
    split at made
    · cases made
    · cases made
      have other : g ≠ x := fun same => kept (congrArg Move.remove same.symm)
      show (s.fabric.removeGate x).isLive g = true
      rw [Fabric.isLive_removeGate, live, Bool.and_true, Bool.not_eq_true']
      exact decide_eq_false other
  | gate x m => exact ((stands_moveGate made).live g).trans live
  | worker w m =>
    simp only [move, Option.bind_eq_some_iff] at made
    obtain ⟨a, found, made⟩ := made
    exact ((h.stands_moveWorker found made).live g).trans live
  | cancel t =>
    cases made
    exact live
  | side m =>
    cases made
    exact (s.isLive_side m g).trans live

/-- A worker whose token is not cancelled stays at its gate until it is to be dropped. -/
lemma Lawful.duty_move {held : Table String GateId} (h : s.Lawful held) {m : Move κ}
    (made : s.move m = some s') (kept : m ≠ .worker w .abort) {t : TokenId}
    (serves : s.duty g w = some (t, false)) (live : t ∉ s.cancelled) :
    s'.duty g w = some (t, false) := by
  obtain ⟨a, found, own, token, staying⟩ := duty_eq_some.mp serves
  cases m with
  | create name capacity bus =>
    cases made
    exact serves
  | remove x =>
    simp only [move] at made
    split at made
    · cases made
    · cases made
      exact serves
  | gate x m =>
    obtain ⟨f, rfl, -⟩ | ⟨u, -, -, rfl⟩ := moveGate_cases made
    · exact serves
    · have other : w ≠ s.nextWorker := by
        rintro rfl
        rw [h.newWorker] at found
        cases found
      simp only [System.duty, addWorker, Table.find?_insert, if_neg other]
      exact serves
  | worker x m =>
    simp only [move, Option.bind_eq_some_iff] at made
    obtain ⟨b, found', made⟩ := made
    obtain leaves | ⟨rfl, rfl⟩ | ⟨stopping, loses⟩ := h.leaves_moveWorker found' made
    · exact ((leaves g).duty w).trans serves
    · have other : w ≠ x := fun same => kept (same ▸ rfl)
      rw [duty_abort, if_neg other]
      exact serves
    · by_cases same : w = x
      · -- it does not stop, for it is neither cancelled nor to be dropped
        subst same
        cases found.symm.trans found'
        rw [isStopping, staying, Bool.false_or, isCancelled_iff, token] at stopping
        exact absurd stopping live
      · by_cases here : g = b.gate
        · subst here
          rw [loses.duty, if_neg same]
          exact serves
        · exact ((loses.elsewhere g here).duty w).trans serves
  | cancel u =>
    cases made
    exact serves
  | side m =>
    cases made
    exact ((s.leaves_side m g).duty w).trans serves

/-- A queue that was handed out to a new worker was at hand. -/
lemma employs_of_spawn (new : s.workers.find? s.nextWorker = none) {t : TokenId}
    (made : s.spawn g t = .ok (s', w)) : w = s.nextWorker ∧ s.Employs s' g t ∧
      s.fabric.Stands s'.fabric := by
  simp only [spawn] at made
  split at made
  · cases made
  · next f out =>
    obtain ⟨gate, gate', there, handed, -⟩ := Fabric.handOut_eq_some out
    obtain ⟨free, -⟩ := Gate.handOut_eq_some handed
    have standing : s.standing g = some (gate.running, false) := by
      rw [System.standing, there, Option.map_some, free]
    obtain ⟨s'', spawned, employs⟩ := spawn_of_free new standing t
    have same : ({ s with fabric := f }.addWorker g t) = (s'', s.nextWorker) := by
      simp only [spawn, out, Except.ok.injEq] at spawned
      exact spawned
    rw [same] at made
    cases made
    have fabric : s'.fabric = f := (congrArg (·.1.fabric) same).symm
    exact ⟨rfl, employs, fabric ▸ stands_handOut out⟩

end System

/-- A host that starts a worker keeps track of it. -/
lemma Host.spawn_eq_ok {κ : Type} {s s' : System κ} {h h' : Host} {g : GateId}
    (made : h.spawn s g = .ok (s', h')) :
    ∃ w, s.spawn g h.token = .ok (s', w) ∧
      h' = { h with
        workers := h.workers ++ [{ worker := w, name := s.fabric.name g }]
        running := h.running ++ [s.fabric.name g] } := by
  simp only [Host.spawn, bind, Except.bind] at made
  split at made
  · cases made
  · next spawned =>
    cases made
    exact ⟨_, spawned, rfl⟩

/-! ## Moves in company -/

namespace Service

variable {κ : Type}

/-- Moves that others can make when they may have the queues of the host's gates. -/
def permits (v : Service κ) : Move κ → Bool
  | .remove g => !v.host.gates.contains g
  | .worker w .abort => v.host.workers.all (·.worker != w)
  | .cancel t => decide (t < v.system.nextToken) && t != v.host.token
  | .side (.link a b) => v.system.fabric.isLive a && v.system.fabric.isLive b
  | _ => true

/-- What a move leads to in company; none if it cannot be made. -/
def stepAmid (v : Service κ) : HostMove κ → Option (Service κ)
  | .beside m =>
    if v.permits m then (v.system.move m).map fun system => { v with system } else none
  | m => v.step m

/-- Moves that cannot be made are passed over. -/
def nextAmid (v : Service κ) (m : HostMove κ) : Service κ := (v.stepAmid m).getD v

/-- The service after a run of moves in company. -/
def runAmid (config : HostConfig) (table : Option TableId) (ms : List (HostMove κ)) : Service κ :=
  ms.foldl nextAmid (build config table)

/-- What holds of a host in company, in the middle of a start as well. -/
structure Staffed (v : Service κ) : Prop where
  lawful : ∃ held, v.system.Lawful held
  tidy : v.system.fabric.Tidy
  token : v.host.token < v.system.nextToken ∧ v.host.token ∉ v.system.cancelled
  cancelled : ∀ t ∈ v.system.cancelled, t < v.system.nextToken
  present : ∀ g ∈ v.host.gates, v.system.fabric.isLive g = true
  tracked : ∀ t ∈ v.host.workers, ∃ g ∈ v.host.gates,
    v.system.duty g t.worker = some (v.host.token, false)
  /-- A shutdown waits for other workers than those that the host keeps track of. -/
  waiting : ∀ p ∈ v.waiting, ∀ t ∈ p.1, t.worker < v.system.nextWorker ∧
    ∀ u ∈ v.host.workers, u.worker ≠ t.worker

namespace Staffed

variable {v : Service κ} {s' : System κ} {g : GateId}

/-- A new gate is none of those that the host has. -/
lemma fresh (h : v.Staffed) {held : Table String GateId} (lawful : v.system.Lawful held) :
    v.system.fabric.nextGate ∉ v.host.gates := by
  intro mem
  have there := h.present _ mem
  rw [Fabric.isLive, Table.contains, lawful.newGate] at there
  cases there

/-- A worker that the host keeps track of has an old number. -/
lemma worker_lt (h : v.Staffed) {t : Tracked} (mem : t ∈ v.host.workers) :
    t.worker < v.system.nextWorker := by
  obtain ⟨held, lawful⟩ := h.lawful
  obtain ⟨g, -, serves⟩ := h.tracked t mem
  obtain ⟨a, found, -⟩ := System.duty_eq_some.mp serves
  obtain ⟨ms, run⟩ := lawful.run
  rw [run] at found ⊢
  exact (Chronicle.run_sound ms).worker_lt found

/-- What leaves the gates and the workers of the host where they are. -/
lemma of_system (h : v.Staffed) (lawful : ∃ held, s'.Lawful held) (tidy : s'.fabric.Tidy)
    (present : ∀ g ∈ v.host.gates, s'.fabric.isLive g = true)
    (duty : ∀ t ∈ v.host.workers, ∀ g, v.system.duty g t.worker = some (v.host.token, false) →
      s'.duty g t.worker = some (v.host.token, false))
    (spares : Spares v.system s' v.host.token) : Staffed { v with system := s' } where
  lawful := lawful
  tidy := tidy
  token := spares.token h.token
  cancelled := spares.given h.cancelled
  present := present
  tracked t mem := by
    obtain ⟨g, own, serves⟩ := h.tracked t mem
    exact ⟨g, own, duty t mem g serves⟩
  waiting p mem t among := by
    obtain ⟨old, other⟩ := h.waiting p mem t among
    exact ⟨Nat.lt_of_lt_of_le old spares.nextWorker, other⟩

/-- Moves beside the host leave its gates and its workers where they are. -/
lemma beside (h : v.Staffed) {m : Move κ} (permitted : v.permits m = true)
    (made : v.system.move m = some s') : Staffed { v with system := s' } := by
  obtain ⟨held, lawful⟩ := h.lawful
  refine h.of_system (lawful.exists_of_move made) (lawful.tidy_move h.tidy made ?_) ?_ ?_
    (spares_of_move lawful ?_ made)
  · rintro a b rfl
    exact Bool.and_eq_true_iff.mp permitted
  · intro g mem
    refine lawful.isLive_move made ?_ (h.present g mem)
    rintro rfl
    simp [permits, mem] at permitted
  · intro t mem g serves
    refine lawful.duty_move made ?_ serves h.token.2
    rintro rfl
    simp only [permits, List.all_eq_true, bne_iff_ne] at permitted
    exact permitted t mem rfl
  · rintro t rfl
    simp only [permits, Bool.and_eq_true, decide_eq_true_eq, bne_iff_ne] at permitted
    exact permitted.symm

/-! ## New gates and new workers -/

/-- What is known depends on the gates, the token and the workers of the host. -/
lemma of_host (h : v.Staffed) {host : Host} (gates : host.gates = v.host.gates)
    (token : host.token = v.host.token) (workers : host.workers = v.host.workers) :
    Staffed { v with host } where
  lawful := h.lawful
  tidy := h.tidy
  token := token ▸ h.token
  cancelled := h.cancelled
  present := gates ▸ h.present
  tracked := by
    show ∀ t ∈ host.workers, ∃ g ∈ host.gates, v.system.duty g t.worker = some (host.token, false)
    rw [workers, gates, token]
    exact h.tracked
  waiting := by
    show ∀ p ∈ v.waiting, ∀ t ∈ p.1, _ ∧ ∀ u ∈ host.workers, u.worker ≠ t.worker
    rw [workers]
    exact h.waiting

/-- A gate that is there is one more gate of the host. -/
lemma join (h : v.Staffed) (live : v.system.fabric.isLive g = true) :
    Staffed { v with host := { v.host with gates := v.host.gates ++ [g] } } where
  lawful := h.lawful
  tidy := h.tidy
  token := h.token
  cancelled := h.cancelled
  present x mem := by
    cases List.mem_append.mp mem with
    | inl old => exact h.present x old
    | inr new => exact List.mem_singleton.mp new ▸ live
  tracked t mem := by
    obtain ⟨x, own, serves⟩ := h.tracked t mem
    exact ⟨x, List.mem_append_left _ own, serves⟩
  waiting := h.waiting

/-- A gate of the host is given a worker. -/
lemma employs (h : v.Staffed) (mem : g ∈ v.host.gates) (lawful : ∃ held, s'.Lawful held)
    (employs : v.system.Employs s' g v.host.token) (stands : v.system.fabric.Stands s'.fabric)
    (name : String) (running : List String) :
    Staffed { v with
      system := s'
      host := { v.host with
        workers := v.host.workers ++ [{ worker := v.system.nextWorker, name }]
        running } } where
  lawful := lawful
  tidy := h.tidy.stands stands
  token := by
    rw [employs.nextToken, employs.cancelled]
    exact h.token
  cancelled := by
    rw [employs.nextToken, employs.cancelled]
    exact h.cancelled
  present x own := (stands.live x).trans (h.present x own)
  tracked t among := by
    cases List.mem_append.mp among with
    | inl old =>
      obtain ⟨x, own, serves⟩ := h.tracked t old
      refine ⟨x, own, ?_⟩
      by_cases same : x = g
      · subst same
        rw [employs.duty, if_neg (Nat.ne_of_lt (h.worker_lt old))]
        exact serves
      · exact ((employs.elsewhere x same).duty t.worker).trans serves
    | inr new =>
      obtain rfl := List.mem_singleton.mp new
      refine ⟨g, mem, ?_⟩
      rw [employs.duty, if_pos rfl]
  waiting p mem t among := by
    obtain ⟨old, other⟩ := h.waiting p mem t among
    rw [employs.nextWorker]
    refine ⟨Nat.lt_succ_of_lt old, ?_⟩
    intro u tracked
    cases List.mem_append.mp tracked with
    | inl before => exact other u before
    | inr new =>
      -- the new worker has a new number
      obtain rfl := List.mem_singleton.mp new
      exact Nat.ne_of_gt old

/-- A gate of the host whose queue is handed out to a worker of the host. -/
lemma spawn (h : v.Staffed) (mem : g ∈ v.host.gates) {w : WorkerId}
    (spawned : v.system.spawn g v.host.token = .ok (s', w)) (name : String)
    (running : List String) :
    Staffed { v with
      system := s'
      host := { v.host with workers := v.host.workers ++ [{ worker := w, name }], running } } := by
  obtain ⟨held, lawful⟩ := h.lawful
  obtain ⟨rfl, employs, stands⟩ := System.employs_of_spawn lawful.newWorker spawned
  exact h.employs mem ⟨held, (System.goes_spawn spawned held lawful).1⟩ employs stands _ _

/-- A new gate of a host has a worker from the first if the host is started. -/
lemma joins {s : System κ} (h : Staffed { v with system := s }) (live : s.fabric.isLive g = true)
    {host : Host}
    (spawned : (if v.host.started then v.host.spawn s g else .ok (s, v.host)) = .ok (s', host)) :
    Staffed { v with system := s', host := { host with gates := host.gates ++ [g] } } := by
  have joined := h.join live
  split at spawned
  · obtain ⟨w, made, rfl⟩ := Host.spawn_eq_ok spawned
    exact joined.spawn (List.mem_append_right _ (List.mem_singleton_self g)) made _ _
  · cases spawned
    exact joined

/-- A new gate leaves the others and the workers as they are. -/
lemma addGate (h : v.Staffed) (name : String) (capacity : Nat) (bus : Option BusId) :
    Staffed { v with system :=
      v.system.onFabric fun f => (f.addGate { name, capacity, bus }).1 } :=
  h.beside (m := .create name capacity bus) rfl rfl

lemma createGate (h : v.Staffed) {name : String} {v' : Service κ}
    (made : v.step (.createGate name) = some v') : v'.Staffed := by
  simp only [step] at made
  split at made
  · cases made
  · next created =>
    cases made
    obtain ⟨host, spawned, rfl⟩ := Host.createGate_eq_ok created
    refine (h.addGate name v.host.config.queueSlots v.host.bus).joins ?_ spawned
    simp [System.onFabric, Fabric.addGate, Fabric.isLive, Table.contains]

lemma createRemote (h : v.Staffed) {name : String} {mode : AddressMode} {facts : Facts}
    {catalogue : Wire.Catalogue} {v' : Service κ}
    (made : v.step (.createRemote name mode facts catalogue) = some v') : v'.Staffed := by
  simp only [step] at made
  split at made
  · cases made
  · next created =>
    cases made
    obtain ⟨built, host, build, spawned, rfl⟩ := Host.createRemote_eq_ok created
    obtain ⟨new, path, handler, registered⟩ := RemoteGate.build_eq_ok build
    have served : (v.system.onFabric fun f => (f.addGate (v.host.newGate name)).1).moveSide
        (.register v.host.table path handler) = built := by
      simp only [System.moveSide, registered]
    have opened := (h.addGate name v.host.config.queueSlots v.host.bus).beside
      (m := .side (.register v.host.table path handler)) rfl (congrArg some served)
    refine (opened.joins ?_ spawned).of_host rfl rfl rfl
    rw [new, ← served, System.isLive_side]
    simp [System.onFabric, Fabric.addGate, Fabric.isLive, Table.contains]

/-! ## Operations of the host -/

lemma spawnEach (h : v.Staffed) {gs : List GateId} (own : ∀ g ∈ gs, g ∈ v.host.gates) {host : Host}
    {e : Option GateError} (made : Host.spawnEach gs v.host v.system = (s', host, e)) :
    Staffed { v with system := s', host } := by
  induction gs generalizing v with
  | nil =>
    cases made
    exact h
  | cons g gs ih =>
    have rest : ∀ x ∈ gs, x ∈ v.host.gates := fun x later => own x (List.mem_cons_of_mem g later)
    simp only [Host.spawnEach] at made
    split at made
    · exact ih h rest made
    · split at made
      · cases made
        exact h
      · next spawned =>
        obtain ⟨w, out, rfl⟩ := Host.spawn_eq_ok spawned
        have staffed := h.spawn (own g List.mem_cons_self) out (v.system.fabric.name g)
          (v.host.running ++ [v.system.fabric.name g])
        have others := ih staffed rest made
        exact others

lemma start (h : v.Staffed) {v' : Service κ} (made : v.step .start = some v') : v'.Staffed := by
  obtain rfl := Option.some.inj made
  have starts : Staffed { v with
      system := (v.host.start v.system).1, host := (v.host.start v.system).2.1 } := by
    cases each : Host.spawnEach v.host.gates v.host v.system with
    | mk s rest =>
      obtain ⟨host, e⟩ := rest
      have staffed := h.spawnEach (fun g mem => mem) each
      simp only [Host.start, each]
      split
      · exact h
      · cases e with
        | none => exact staffed.of_host rfl rfl rfl
        | some e => exact staffed
  exact ⟨starts.lawful, starts.tidy, starts.token, starts.cancelled, starts.present,
    starts.tracked, starts.waiting⟩

/-- Links are removed and endpoints withdrawn without the loss of a gate or a worker. -/
lemma withdraw (h : v.Staffed) :
    Staffed { v with
      system := Host.withdraw v.host.remotes (Host.unlinkGates v.host.gates v.system) } := by
  obtain ⟨held, lawful⟩ := h.lawful
  have quiet := quiet_withdraw v.host v.system
  have lawful' := (Host.goes_withdraw v.host v.system held lawful).1
  have fabric : (Host.withdraw v.host.remotes (Host.unlinkGates v.host.gates v.system)).fabric =
      v.host.gates.foldl (fun f g => (f.unlinkAll g).1) v.system.fabric := by
    rw [Host.fabric_withdraw, Host.unlinkGates_eq]
    rfl
  refine h.of_system ⟨held, lawful'⟩ ?_ ?_ (fun t _ g => ((quiet.leaves g).duty _).trans) quiet.spares
  · rw [fabric]
    exact (h.tidy.unlinkEach v.host.gates).1
  · intro g mem
    rw [fabric, Fabric.isLive, Fabric.gates_unlinkEach]
    exact h.present g mem

lemma shutdown (h : v.Staffed) {v' : Service κ} (made : v.step .shutdown = some v') :
    v'.Staffed := by
  have before := h.withdraw
  obtain ⟨held, lawful⟩ := h.lawful
  have lawful' := (Host.goes_beginShutdown v.host v.system held lawful).1
  have old := fun t (mem : t ∈ v.host.workers) => before.worker_lt mem
  simp only [step, Host.beginShutdown, Option.some.injEq] at made lawful'
  generalize Host.withdraw v.host.remotes (Host.unlinkGates v.host.gates v.system) = s at *
  subst made
  have given : ∀ t ∈ (s.cancel v.host.token).cancelled, t < s.nextToken := by
    intro t mem
    cases mem with
    | head => exact before.token.1
    | tail _ mem => exact before.cancelled t mem
  refine ⟨⟨held, lawful'⟩, before.tidy, ⟨Nat.lt_succ_self _, ?_⟩, ?_, before.present, ?_, ?_⟩
  · intro mem
    exact Nat.lt_irrefl _ (given _ mem)
  · exact fun t mem => Nat.lt_succ_of_lt (given t mem)
  · exact fun t mem => absurd mem List.not_mem_nil
  · intro p mem t among
    refine ⟨?_, fun u mem => absurd mem List.not_mem_nil⟩
    obtain earlier | rfl := mem_waiting_shutdown mem
    · exact (before.waiting p earlier t among).1
    · exact old t among

/-- Workers that the host does not keep track of any longer are dropped. -/
lemma abort (h : v.Staffed) (ts : List Tracked)
    (other : ∀ t ∈ ts, ∀ u ∈ v.host.workers, u.worker ≠ t.worker) :
    Staffed { v with system := ts.foldl (fun s t => s.abort t.worker) v.system } := by
  induction ts generalizing v with
  | nil => exact h
  | cons t ts ih =>
    obtain ⟨held, lawful⟩ := h.lawful
    have first : Staffed { v with system := v.system.abort t.worker } := by
      refine h.of_system ⟨held, (v.system.goes_abort t.worker held lawful).1⟩ h.tidy h.present ?_
        (.of_tokens rfl rfl (Nat.le_refl _))
      intro u tracked g serves
      rw [System.duty_abort, if_neg (other t List.mem_cons_self u tracked)]
      exact serves
    exact ih first fun t' mem => other t' (List.mem_cons_of_mem t mem)

lemma giveUp (h : v.Staffed) {index : Nat} {v' : Service κ}
    (made : v.step (.giveUp index) = some v') : v'.Staffed := by
  obtain ⟨⟨workers, names⟩, there, rfl⟩ := Option.map_eq_some_iff.mp made
  have waits : (workers, names) ∈ v.waiting := List.mem_of_getElem? there
  have dropped := h.abort (workers.partition fun t => v.system.workers.contains t.worker).1 (by
    intro t left
    rw [List.partition_eq_filter_filter] at left
    exact (h.waiting _ waits t (List.mem_filter.mp left).1).2)
  simp only [Host.system_finishShutdown]
  exact ⟨dropped.lawful, dropped.tidy, dropped.token, dropped.cancelled, dropped.present,
    dropped.tracked, fun p left => dropped.waiting p (List.mem_of_mem_eraseIdx left)⟩

end Staffed

/-! ## Runs in company -/

variable {v : Service κ}

lemma staffed_build (config : HostConfig) (table : Option TableId) :
    Staffed (build config table : Service κ) := by
  obtain ⟨gates, workers, -, waiting, -, -, -⟩ := build_eq (κ := κ) config table
  have sound := sound_build (κ := κ) config table
  have tidy : (build config table : Service κ).system.fabric.Tidy := by
    obtain ⟨grace, slots, size, http⟩ := config
    cases size with
    | zero =>
      cases table with
      | none => exact .start
      | some t => exact .start
    | succ size =>
      cases table with
      | none => exact Fabric.Tidy.start.congr rfl (fun _ => rfl) rfl
      | some t => exact Fabric.Tidy.start.congr rfl (fun _ => rfl) rfl
  refine ⟨sound.kept.lawful, tidy, sound.kept.token, sound.kept.cancelled, ?_, ?_, ?_⟩
  · rw [gates]
    exact nofun
  · rw [workers]
    exact nofun
  · rw [waiting]
    exact nofun

lemma Staffed.nextAmid (h : v.Staffed) (m : HostMove κ) : (v.nextAmid m).Staffed := by
  simp only [Service.nextAmid]
  cases made : v.stepAmid m with
  | none => exact h
  | some v' =>
    cases m with
    | createGate name => exact h.createGate made
    | createRemote name mode facts catalogue => exact h.createRemote made
    | start => exact h.start made
    | shutdown => exact h.shutdown made
    | giveUp index => exact h.giveUp made
    | beside m =>
      simp only [stepAmid] at made
      split at made
      · next permitted =>
        obtain ⟨s', moved, rfl⟩ := Option.map_eq_some_iff.mp made
        exact h.beside permitted moved
      · cases made

/-- What holds of a host in company holds after any run. -/
lemma staffed_runAmid (config : HostConfig) (table : Option TableId) (ms : List (HostMove κ)) :
    Staffed (runAmid config table ms) := by
  induction ms using List.reverseRecOn with
  | nil => exact staffed_build config table
  | append_singleton ms m ih =>
    rw [runAmid, List.foldl_append]
    exact Staffed.nextAmid ih m

end Service

/-! ## Workers that a host spawns -/

/-- From `s` to `s'` the host starts to keep track of the workers with a new number, and of no others. -/
structure Host.Tracks {κ : Type} (h : Host) (s : System κ) (h' : Host) (s' : System κ) : Prop where
  nextWorker : s.nextWorker ≤ s'.nextWorker
  workers : h'.workers.map (·.worker) =
    h.workers.map (·.worker) ++ List.range' s.nextWorker (s'.nextWorker - s.nextWorker)

namespace Host

variable {κ : Type} {s s' s'' : System κ} {h h' h'' : Host} {g : GateId}

/-- No worker is new. -/
lemma Tracks.of_eq (workers : h'.workers = h.workers) (nextWorker : s'.nextWorker = s.nextWorker) :
    h.Tracks s h' s' where
  nextWorker := Nat.le_of_eq nextWorker.symm
  workers := by rw [workers, nextWorker, Nat.sub_self, List.range'_zero, List.append_nil]

lemma Tracks.trans (first : h.Tracks s h' s') (second : h'.Tracks s' h'' s'') :
    h.Tracks s h'' s'' where
  nextWorker := Nat.le_trans first.nextWorker second.nextWorker
  workers := by
    obtain ⟨n, eq⟩ := Nat.le.dest first.nextWorker
    obtain ⟨n', eq'⟩ := Nat.le.dest second.nextWorker
    rw [second.workers, first.workers, ← eq', ← eq, List.append_assoc, Nat.add_sub_cancel_left,
      Nat.add_sub_cancel_left, Nat.add_assoc, Nat.add_sub_cancel_left, List.range'_append_1]

/-- A worker that is spawned has the next number. -/
lemma tracks_spawn (made : h.spawn s g = .ok (s', h')) : h.Tracks s h' s' := by
  obtain ⟨w, spawned, rfl⟩ := spawn_eq_ok made
  simp only [System.spawn] at spawned
  split at spawned
  · cases spawned
  · cases spawned
    refine ⟨Nat.le_succ _, ?_⟩
    show (h.workers ++ [_]).map _ = _ ++ List.range' s.nextWorker (s.nextWorker + 1 - s.nextWorker)
    rw [List.map_append, Nat.add_sub_cancel_left]
    rfl

lemma tracks_spawn_of_started
    (made : (if h.started then h.spawn s g else .ok (s, h)) = .ok (s', h')) : h.Tracks s h' s' := by
  split at made
  · exact tracks_spawn made
  · cases made
    exact .of_eq rfl rfl

lemma tracks_spawnEach {gs : List GateId} {e : Option GateError}
    (made : spawnEach gs h s = (s', h', e)) : h.Tracks s h' s' := by
  induction gs generalizing h s with
  | nil =>
    cases made
    exact .of_eq rfl rfl
  | cons g gs ih =>
    simp only [spawnEach] at made
    split at made
    · exact ih made
    · split at made
      · cases made
        exact .of_eq rfl rfl
      · next spawned => exact (tracks_spawn spawned).trans (ih made)

lemma tracks_start (h : Host) (s : System κ) : h.Tracks s (h.start s).2.1 (h.start s).1 := by
  simp only [start]
  split
  · exact .of_eq rfl rfl
  · split
    · next each => exact tracks_spawnEach each
    · next each =>
      have tracks := tracks_spawnEach each
      exact ⟨tracks.nextWorker, tracks.workers⟩

lemma nextWorker_finishShutdown (config : HostConfig) (workers : List Tracked)
    (running : List String) (s : System κ) :
    (finishShutdown config workers running s).1.nextWorker = s.nextWorker := by
  rw [system_finishShutdown]
  induction (workers.partition fun t => s.workers.contains t.worker).1 generalizing s with
  | nil => rfl
  | cons t ts ih => exact ih (s.abort t.worker)

end Host

namespace Service

variable {κ : Type}

/-- The workers that the host spawns in a move. -/
def spawns (v : Service κ) : HostMove κ → List WorkerId
  | .beside _ => []
  | m => List.range' v.system.nextWorker
      ((v.nextAmid m).system.nextWorker - v.system.nextWorker)

/-- The workers that the host has spawned since it was last shut down, if they were `ws` before these
moves. -/
def spawnedFrom (v : Service κ) (ws : List WorkerId) : List (HostMove κ) → List WorkerId
  | [] => ws
  | .shutdown :: ms => (v.nextAmid .shutdown).spawnedFrom [] ms
  | m :: ms => (v.nextAmid m).spawnedFrom (ws ++ v.spawns m) ms

/-- The workers that a host has spawned in a run since it was last shut down. -/
def spawned (config : HostConfig) (table : Option TableId) (ms : List (HostMove κ)) :
    List WorkerId :=
  (build config table).spawnedFrom [] ms

lemma tracks_nextAmid (v : Service κ) {m : HostMove κ} (own : ∀ m', m ≠ .beside m')
    (other : m ≠ .shutdown) :
    v.host.Tracks v.system (v.nextAmid m).host (v.nextAmid m).system := by
  simp only [nextAmid]
  cases made : v.stepAmid m with
  | none => exact .of_eq rfl rfl
  | some v' =>
    cases m with
    | createGate name =>
      simp only [stepAmid, step] at made
      split at made
      · cases made
      · next created =>
        cases made
        obtain ⟨host, spawned, rfl⟩ := Host.createGate_eq_ok created
        have tracks := Host.tracks_spawn_of_started spawned
        exact ⟨tracks.nextWorker, tracks.workers⟩
    | createRemote name mode facts catalogue =>
      simp only [stepAmid, step] at made
      split at made
      · cases made
      · next created =>
        cases made
        obtain ⟨built, host, build, spawned, rfl⟩ := Host.createRemote_eq_ok created
        obtain ⟨-, path, handler, registered⟩ := RemoteGate.build_eq_ok build
        have opened : v.host.Tracks v.system v.host built :=
          .of_eq rfl (quiet_register registered).nextWorker
        have tracks := opened.trans (Host.tracks_spawn_of_started spawned)
        exact ⟨tracks.nextWorker, tracks.workers⟩
    | start =>
      cases made
      exact v.host.tracks_start v.system
    | shutdown => exact absurd rfl other
    | giveUp index =>
      obtain ⟨p, -, rfl⟩ := Option.map_eq_some_iff.mp made
      exact .of_eq rfl (Host.nextWorker_finishShutdown ..)
    | beside m => exact absurd rfl (own m)

/-- A move but a shutdown adds the workers that it spawns to those that the host keeps track of. -/
lemma workers_nextAmid (v : Service κ) {m : HostMove κ} (other : m ≠ .shutdown) :
    (v.nextAmid m).host.workers.map (·.worker) =
      v.host.workers.map (·.worker) ++ v.spawns m := by
  cases m with
  | beside m =>
    simp only [nextAmid, spawns, List.append_nil, stepAmid]
    split
    · cases v.system.move m with
      | none => rfl
      | some s => rfl
    · rfl
  | _ =>
    refine (v.tracks_nextAmid ?_ other).workers
    exact fun _ => nofun

lemma workers_foldl_nextAmid (v : Service κ) (ms : List (HostMove κ)) :
    (ms.foldl nextAmid v).host.workers.map (·.worker) =
      v.spawnedFrom (v.host.workers.map (·.worker)) ms := by
  induction ms generalizing v with
  | nil => rfl
  | cons m ms ih =>
    have added := workers_nextAmid v (m := m)
    rw [List.foldl_cons, ih]
    cases m with
    | shutdown => rfl
    | _ =>
      rw [added nofun]
      rfl

/-- A host keeps track of the workers that it has spawned since it was last shut down. -/
lemma workers_runAmid (config : HostConfig) (table : Option TableId) (ms : List (HostMove κ)) :
    (runAmid config table ms).host.workers.map (·.worker) = spawned config table ms := by
  obtain ⟨-, workers, -⟩ := build_eq (κ := κ) config table
  have tracked := workers_foldl_nextAmid (build config table : Service κ) ms
  rw [workers] at tracked
  exact tracked

end Service

end EventGates

import EventGates.Host
import EventGates.Proofs.Dispatch.Courses

/-!
# Courses of nodes and hosts

Requests that come in, remote gates and hosts do nothing but what courses of things are made of.
Where an operation may fail, the system is only left as another one when it succeeds.
-/

namespace EventGates

variable {κ : Type} {s s' : System κ}

namespace System

/-! ## Endpoints -/

/-- A path is served. -/
lemma goes_register {t : TableId} {path : String} {h : Handler}
    (made : s.register t path h = .ok s') : s.Goes s' := by
  have course := s.goes_side (.register t path h)
  simp only [moveSide, made] at course
  exact course

/-- The body of a request is handled for a gate. -/
lemma goes_inbound (s : System κ) (i : Inbound) (r : Request) :
    s.Goes (s.onFabric fun f => (i.handle f r).1) := by
  simp only [Inbound.handle, onFabric]
  split
  · exact .refl s
  · split
    · exact .refl s
    · split
      · exact .refl s
      · split
        · exact .refl s
        · exact s.goes_diagnose _ _ _ _
        · next draft _ => exact (s.goes_makeEvent draft).trans (goes_offer _ _ _)

/-- A request is answered. -/
lemma goes_route (s : System κ) (t : TableId) (r : Request) : s.Goes (s.route t r).1 := by
  cases found : (s.endpoints t).lookup r.path with
  | none =>
    have same : (s.route t r).1 = s := by simp only [route, Endpoints.route, found]
    rw [same]
    exact .refl s
  | some handler =>
    have served : (s.route t r).1 = s.onFabric fun f => (handler.handle f r).1 := by
      simp only [route, Endpoints.route, found, onFabric]
    rw [served]
    cases handler with
    | inbound i => exact s.goes_inbound i r
    | echo text => exact .refl s

end System

namespace RemoteGate

/-- A remote gate that is built is a new gate, and a path is served. -/
lemma build_eq_ok {gate : Gate} {http : HttpConfig} {facts : Facts} {catalogue : Wire.Catalogue}
    {table : TableId} {r : RemoteGate} (made : build s gate http facts catalogue table = .ok (s', r)) :
    r.gate = s.fabric.nextGate ∧ ∃ path handler,
      (s.onFabric fun f => (f.addGate gate).1).register table path handler = .ok s' := by
  simp only [build] at made
  cases address : facts.host http.mode http.advertisedHost with
  | error e =>
    rw [address] at made
    cases made
  | ok host =>
    rw [address] at made
    simp only [bind, Except.bind] at made
    split at made
    · cases made
    · next registered =>
      cases made
      exact ⟨rfl, _, _, registered⟩

/-- A remote gate is built. -/
lemma goes_build {gate : Gate} {http : HttpConfig} {facts : Facts} {catalogue : Wire.Catalogue}
    {table : TableId} {r : RemoteGate} (name : String) (capacity : Nat) (bus : Option BusId)
    (fresh : gate = { name, capacity, bus })
    (made : build s gate http facts catalogue table = .ok (s', r)) : s.Goes s' := by
  subst fresh
  obtain ⟨-, path, handler, registered⟩ := build_eq_ok made
  exact (s.goes_create name capacity bus).trans (System.goes_register registered)

/-- The endpoint of a remote gate is withdrawn. -/
lemma goes_terminate (r : RemoteGate) (s : System κ) : s.Goes (r.terminate s).1 :=
  s.goes_side (.unregister r.table r.path)

/-- An event is posted to another node. -/
lemma goes_post (r : RemoteGate) (s : System κ) (peer : Peer) (target : Url) (e : Event) :
    s.Goes (r.post s peer target e).1 := by
  simp only [post]
  split
  · exact .refl s
  · split
    · exact .refl s
    · exact .refl s
    · next table =>
      have course := s.goes_route table (r.request target e)
      simp only
      split
      · exact course
      · exact course.trans (System.goes_diagnose _ _ _ _ _)

end RemoteGate

namespace Host

variable {h h' : Host}

/-- A host is built. -/
lemma goes_build (s : System κ) (config : HostConfig) (table : Option TableId) :
    s.Goes (build s config table).1 := by
  have token : ∀ s : System κ, s.Goes s.addToken.1 := fun s => s.goes_side .addToken
  have tables : ∀ s : System κ, s.Goes s.addTable.1 := fun s => s.goes_side .addTable
  cases bus : config.diagnosticsCapacity with
  | none =>
    cases table with
    | none =>
      simp only [build, bus]
      exact (tables s).trans (token _)
    | some t =>
      simp only [build, bus]
      exact token s
  | some capacity =>
    have buses := s.goes_side (.addBus capacity)
    cases table with
    | none =>
      simp only [build, bus]
      exact buses.trans ((tables _).trans (token _))
    | some t =>
      simp only [build, bus]
      exact buses.trans (token _)

/-- A worker is started for a gate of a host. -/
lemma goes_spawn {g : GateId} (made : h.spawn s g = .ok (s', h')) : s.Goes s' := by
  simp only [spawn] at made
  cases spawned : s.spawn g h.token with
  | error e =>
    rw [spawned] at made
    cases made
  | ok result =>
    rw [spawned] at made
    cases made
    exact System.goes_spawn spawned

/-- A worker is started for a gate if the host is started. -/
lemma goes_spawn_of_started {g : GateId}
    (made : (if h.started then h.spawn s g else .ok (s, h)) = .ok (s', h')) : s.Goes s' := by
  split at made
  · exact goes_spawn made
  · cases made
    exact .refl s

/-- A gate that a host makes is given a worker if the host is started. -/
lemma createGate_eq_ok {name : String} {g : GateId}
    (made : h.createGate s name = .ok (s', h', g)) :
    ∃ host, (if h.started then h.spawn (s.onFabric fun f => (f.addGate (h.newGate name)).1)
        s.fabric.nextGate else .ok (s.onFabric fun f => (f.addGate (h.newGate name)).1, h)) =
          .ok (s', host) ∧
      h' = { host with gates := host.gates ++ [s.fabric.nextGate] } := by
  simp only [createGate, bind, Except.bind] at made
  split at made
  · next started =>
    split at made
    · cases made
    · next spawned =>
      cases made
      exact ⟨_, (if_pos started).trans spawned, rfl⟩
  · next stopped =>
    cases made
    exact ⟨h, if_neg stopped, rfl⟩

/-- A host makes a gate. -/
lemma goes_createGate {name : String} {g : GateId}
    (made : h.createGate s name = .ok (s', h', g)) : s.Goes s' := by
  obtain ⟨host, spawned, -⟩ := createGate_eq_ok made
  exact (s.goes_create name h.config.queueSlots h.bus).trans (goes_spawn_of_started spawned)

/-- A remote gate that a host makes is given a worker if the host is started. -/
lemma createRemote_eq_ok {name : String} {mode : AddressMode} {facts : Facts}
    {catalogue : Wire.Catalogue} {r : RemoteGate}
    (made : h.createRemote s name mode facts catalogue = .ok (s', h', r)) :
    ∃ built host, RemoteGate.build s (h.newGate name) { h.config.http with mode } facts catalogue
        h.table = .ok (built, r) ∧
      (if h.started then h.spawn built r.gate else .ok (built, h)) = .ok (s', host) ∧
      h' = { host with gates := host.gates ++ [r.gate], remotes := host.remotes ++ [r] } := by
  simp only [createRemote, bind, Except.bind] at made
  split at made
  · cases made
  · next built =>
    split at made
    · next started =>
      split at made
      · cases made
      · next spawned =>
        cases made
        exact ⟨_, _, built, (if_pos started).trans spawned, rfl⟩
    · next stopped =>
      cases made
      exact ⟨_, h, built, if_neg stopped, rfl⟩

/-- A host makes a remote gate. -/
lemma goes_createRemote {name : String} {mode : AddressMode} {facts : Facts}
    {catalogue : Wire.Catalogue} {r : RemoteGate}
    (made : h.createRemote s name mode facts catalogue = .ok (s', h', r)) : s.Goes s' := by
  obtain ⟨built, host, build, spawned, -⟩ := createRemote_eq_ok made
  exact (RemoteGate.goes_build name _ h.bus rfl build).trans (goes_spawn_of_started spawned)

/-- A worker is started for each gate that is not running. -/
lemma goes_spawnEach (gs : List GateId) (h : Host) (s : System κ) :
    s.Goes (spawnEach gs h s).1 := by
  induction gs generalizing h s with
  | nil => exact .refl s
  | cons g gs ih =>
    simp only [spawnEach]
    split
    · exact ih h s
    · split
      · exact .refl s
      · next spawned => exact (goes_spawn spawned).trans (ih _ _)

/-- A host starts. -/
lemma goes_start (h : Host) (s : System κ) : s.Goes (h.start s).1 := by
  have each := goes_spawnEach h.gates h s
  simp only [start]
  split
  · exact .refl s
  · split
    · next spawned =>
      rw [spawned] at each
      exact each
    · next spawned =>
      rw [spawned] at each
      exact each

/-- The links of gates are removed from the fabric alone. -/
lemma unlinkGates_eq (gs : List GateId) (s : System κ) :
    unlinkGates gs s = s.onFabric fun f => gs.foldl (fun f g => (f.unlinkAll g).1) f := by
  induction gs generalizing s with
  | nil => rfl
  | cons g gs ih => exact ih (s.onFabric fun f => (f.unlinkAll g).1)

/-- Endpoints are withdrawn from tables alone. -/
lemma fabric_withdraw (rs : List RemoteGate) (s : System κ) :
    (withdraw rs s).fabric = s.fabric := by
  induction rs generalizing s with
  | nil => rfl
  | cons r rs ih => exact ih (r.terminate s).1

/-- The links of the gates of a host are removed and its endpoints withdrawn. -/
lemma goes_withdraw (h : Host) (s : System κ) :
    s.Goes (withdraw h.remotes (unlinkGates h.gates s)) := by
  have unlinked : s.Goes (unlinkGates h.gates s) :=
    .foldl (fun s g => s.goes_side (.unlinkAll g)) h.gates s
  have withdrawn : ∀ s : System κ, s.Goes (withdraw h.remotes s) :=
    .foldl (fun s r => r.goes_terminate s) h.remotes
  exact unlinked.trans (withdrawn _)

/-- A host begins to shut down. -/
lemma goes_beginShutdown (h : Host) (s : System κ) : s.Goes (h.beginShutdown s).1 := by
  have token : ∀ s : System κ, s.Goes s.addToken.1 := fun s => s.goes_side .addToken
  exact (h.goes_withdraw s).trans ((System.goes_cancel _ h.token).trans (token _))

/-- Tracked workers are dropped. -/
lemma goes_abort (ts : List Tracked) (s : System κ) :
    s.Goes (ts.foldl (fun s t => s.abort t.worker) s) :=
  .foldl (fun s t => s.goes_abort t.worker) ts s

/-- When the grace is over, the workers that are left are dropped. -/
lemma system_finishShutdown (config : HostConfig) (workers : List Tracked)
    (running : List String) (s : System κ) :
    (finishShutdown config workers running s).1 =
      (workers.partition fun t => s.workers.contains t.worker).1.foldl
        (fun s t => s.abort t.worker) s := by
  simp only [finishShutdown]
  split
  · rfl
  · rfl

/-- The grace of a shutdown is over. -/
lemma goes_finishShutdown (config : HostConfig) (workers : List Tracked) (running : List String)
    (s : System κ) : s.Goes (finishShutdown config workers running s).1 := by
  rw [system_finishShutdown]
  exact goes_abort _ s

/-- A host goes away. -/
lemma goes_dispose (h : Host) (s : System κ) : s.Goes (h.dispose s) := goes_abort h.workers s

end Host

end EventGates

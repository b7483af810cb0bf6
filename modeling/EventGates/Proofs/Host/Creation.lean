import EventGates.Proofs.Host.Shutdown
import EventGates.Proofs.Remote.Paths

/-!
# Making a remote gate, or nothing

A remote gate is made in steps, most of which can fail: an address is looked for, a client is set up,
the endpoint is registered, and if the host is started the gate is given a worker. Each step is taken in
the system that the steps before have left, and what they have left is taken back when a later one fails
(`Host.createRemoteInSteps`). So a failure leaves the host, the tables, the workers and the links as they
were, and a remote gate that is made is a gate, an endpoint and an entry in each list of the host
(`Service.createRemoteInSteps_all_or_nothing`).

The endpoint is registered before the host is looked at. Whatever others do to gates and hosts in
between, a gate that is then refused a worker has its endpoint withdrawn (`Host.takeOn_refused`).
-/

namespace EventGates

/-! ## What is taken back -/

/-- A gate that goes away as soon as it was made leaves its number behind. -/
lemma Fabric.removeGate_addGate {f : Fabric} (gate : Gate)
    (fresh : f.gates.find? f.nextGate = none) (unlisted : f.links.lists.find? f.nextGate = none) :
    (f.addGate gate).1.removeGate f.nextGate = { f with nextGate := f.nextGate + 1 } := by
  have links : (f.links.addGate f.nextGate).remove f.nextGate = f.links := by
    simp only [Links.remove, Links.retire, Links.entries_addGate, if_pos, List.foldl_nil]
    show Links.mk ((f.links.lists.insert f.nextGate []).erase f.nextGate) = f.links
    rw [Table.erase_insert unlisted]
  simp only [addGate, removeGate, links, Table.erase_insert fresh]

/-- An endpoint that is withdrawn as soon as it was registered leaves the table as it was. -/
lemma Endpoints.unregister_register {t t' : Endpoints} {path : String} {h : Handler}
    (made : t.register path h = .ok t') : (t'.unregister path).1 = t := by
  obtain ⟨free, -⟩ := lookup_register made
  rw [register_of_free free] at made
  cases made
  show Endpoints.mk ((t.handlers.insert (Text.plain path) h).erase (Text.plain path)) = t
  rw [Table.erase_insert free]

/-- A remote gate that is built has an address. -/
lemma RemoteGate.address_of_build {κ : Type} {s s' : System κ} {gate : Gate} {http : HttpConfig}
    {facts : Facts} {catalogue : Wire.Catalogue} {t : TableId} {r : RemoteGate}
    (built : build s gate http facts catalogue t = .ok (s', r)) :
    ∃ host, facts.host http.mode http.advertisedHost = .ok host := by
  simp only [build, bind, Except.bind] at built
  split at built
  · cases built
  · next host address => exact ⟨host, address⟩

namespace Host

/-! ## Step by step -/

variable {κ : Type} {h h' : Host} {s s' : System κ} {name : String} {mode : AddressMode} {facts : Facts}
  {catalogue : Wire.Catalogue} {client : Except String Unit} {r : RemoteGate}

/-- A gate that is not built goes away; one that is built joins the host. -/
lemma createRemoteInSteps_of_client (h : Host) (s : System κ) (name : String) (mode : AddressMode)
    (facts : Facts) (catalogue : Wire.Catalogue) :
    h.createRemoteInSteps s name mode facts catalogue (.ok ()) =
      match RemoteGate.build s (h.newGate name) { h.config.http with mode } facts catalogue h.table with
      | .error e =>
        (s.onFabric fun f => (f.addGate (h.newGate name)).1.removeGate f.nextGate, h, .error e)
      | .ok (s, r) => h.takeOn s r := by
  simp only [createRemoteInSteps, RemoteGate.build, bind, Except.bind]
  cases facts.host mode h.config.http.advertisedHost with
  | error e => rfl
  | ok host =>
    have named : (h.newGate name).name = name := rfl
    rw [named]
    dsimp only
    generalize System.register _ _ _ _ = registered
    cases registered with
    | error e => rfl
    | ok s => rfl

/-- Without a client the gate goes away. -/
lemma createRemoteInSteps_of_no_client (h : Host) (s : System κ) (name : String) (mode : AddressMode)
    (facts : Facts) (catalogue : Wire.Catalogue) (cause : String) :
    ∃ e, h.createRemoteInSteps s name mode facts catalogue (.error cause) =
      (s.onFabric fun f => (f.addGate (h.newGate name)).1.removeGate f.nextGate, h, .error e) := by
  simp only [createRemoteInSteps]
  cases facts.host mode h.config.http.advertisedHost with
  | error e => exact ⟨e, rfl⟩
  | ok host => exact ⟨_, rfl⟩

/-- With a client, the steps make the remote gate that is made at once, or fail with the same error. -/
theorem createRemote_eq_inSteps (h : Host) (s : System κ) (name : String) (mode : AddressMode)
    (facts : Facts) (catalogue : Wire.Catalogue) :
    h.createRemote s name mode facts catalogue =
      match h.createRemoteInSteps s name mode facts catalogue (.ok ()) with
      | (s, h, .ok r) => .ok (s, h, r)
      | (_, _, .error e) => .error e := by
  rw [createRemoteInSteps_of_client]
  simp only [createRemote, bind, Except.bind]
  cases RemoteGate.build s (h.newGate name) { h.config.http with mode } facts catalogue h.table with
  | error e => rfl
  | ok built =>
    obtain ⟨s, r⟩ := built
    simp only [takeOn]
    split
    · next started =>
      cases h.spawn s r.gate with
      | error e => rfl
      | ok spawned => rfl
    · rfl

/-- An attempt ends with a gate that goes away, or with one that is built and joins the host. -/
lemma createRemoteInSteps_cases (h : Host) (s : System κ) (name : String) (mode : AddressMode)
    (facts : Facts) (catalogue : Wire.Catalogue) (client : Except String Unit) :
    (∃ e, h.createRemoteInSteps s name mode facts catalogue client =
        (s.onFabric fun f => (f.addGate (h.newGate name)).1.removeGate f.nextGate, h, .error e)) ∨
      client = .ok () ∧ ∃ built r,
        RemoteGate.build s (h.newGate name) { h.config.http with mode } facts catalogue h.table =
          .ok (built, r) ∧
        h.createRemoteInSteps s name mode facts catalogue client = h.takeOn built r := by
  cases client with
  | error cause => exact .inl (createRemoteInSteps_of_no_client h s name mode facts catalogue cause)
  | ok =>
    rw [createRemoteInSteps_of_client]
    cases RemoteGate.build s (h.newGate name) { h.config.http with mode } facts catalogue
        h.table with
    | error e => exact .inl ⟨e, rfl⟩
    | ok built => exact .inr ⟨rfl, built.1, built.2, rfl, rfl⟩

/-- A worker is spawned without a change to any table. -/
lemma tables_spawn {g : GateId} (made : h.spawn s g = .ok (s', h')) : s'.tables = s.tables := by
  obtain ⟨w, spawned, -⟩ := spawn_eq_ok made
  simp only [System.spawn] at spawned
  split at spawned
  · cases spawned
  · cases spawned
    rfl

/-! ## A worker that is refused -/

/-- A gate fails to join a host only if it is refused a worker. -/
lemma takeOn_eq_error {e : GateError} (refused : h.takeOn s r = (s', h', .error e)) :
    h' = h ∧ s' = (r.terminate s).1 := by
  simp only [takeOn] at refused
  split at refused
  · cases refused
    exact ⟨rfl, rfl⟩
  · cases refused

/-- A gate was refused a worker. The host, the workers and the gates are left as they were then, and all
endpoints as they were in `s₀`. -/
structure Retracted (s₀ : System κ) (h : Host) (s : System κ) (h' : Host) (s' : System κ) : Prop where
  host : h' = h
  workers : s'.workers = s.workers
  fabric : s'.fabric = s.fabric
  endpoints : ∀ t, s'.endpoints t = s₀.endpoints t

/-- When a gate is refused a worker, its endpoint is withdrawn as if it had never been registered,
whatever became of gates and workers since then. -/
lemma takeOn_refused {s₀ s₁ : System κ} {handler : Handler}
    (registered : s₀.register r.table r.path handler = .ok s₁) (tables : s.tables = s₁.tables)
    {e : GateError} (refused : h.takeOn s r = (s', h', .error e)) : Retracted s₀ h s h' s' := by
  obtain ⟨rfl, rfl⟩ := takeOn_eq_error refused
  refine ⟨rfl, rfl, rfl, ?_⟩
  intro t
  have served : ∀ t, s.endpoints t = s₁.endpoints t := by
    intro t
    rw [System.endpoints, System.endpoints, tables]
  show (s.unregister r.table r.path).1.endpoints t = _
  rw [System.endpoints_unregister, served, served]
  split
  · next same =>
    subst same
    exact Endpoints.unregister_register (System.endpoints_register registered)
  · next other => exact System.endpoints_of_register registered other

/-! ## What an attempt leaves -/

lemma eq_error_of_isOk_eq_false {x : System κ × Host × Except GateError RemoteGate}
    (failed : x.2.2.isOk = false) : ∃ e, x = (x.1, x.2.1, .error e) := by
  obtain ⟨s, h, e | r⟩ := x
  · exact ⟨e, rfl⟩
  · cases failed

lemma eq_ok_of_isOk {x : System κ × Host × Except GateError RemoteGate}
    (done : x.2.2.isOk = true) : ∃ r, x = (x.1, x.2.1, .ok r) := by
  obtain ⟨s, h, e | r⟩ := x
  · cases done
  · exact ⟨r, rfl⟩

/-- An attempt that failed has left the host as it was, and the system but for the number of the next
gate: all tables, workers, links and other gates are the same. Nobody serves a gate with the number
that was used up. -/
structure Untouched (h : Host) (s : System κ) (h' : Host) (s' : System κ) : Prop where
  host : h' = h
  system : s' = s.onFabric fun f => { f with nextGate := f.nextGate + 1 }
  unserved : s'.fabric.isLive s.fabric.nextGate = false ∧ ∀ w, s'.duty s.fabric.nextGate w = none

/-- A remote gate with the given name was made by the host. -/
structure Joined (h : Host) (s : System κ) (name : String) (catalogue : Wire.Catalogue) (h' : Host)
    (s' : System κ) (r : RemoteGate) : Prop where
  /-- The gate is new. -/
  fresh : s.fabric.isLive r.gate = false ∧ s'.fabric.isLive r.gate = true
  path : r.table = h.table ∧ r.path = h.config.http.endpointPath name
  /-- Nothing was served at the path of the gate. -/
  free : (s.endpoints h.table).lookup r.path = none
  /-- One entry is new in the table of the host, that of the gate. -/
  entries : (s'.endpoints h.table).handlers.entries = (s.endpoints h.table).handlers.entries ++
    [(Text.plain r.path, .inbound ⟨r.gate, catalogue, h.config.http.maxBodyBytes⟩)]
  /-- Requests for the path go to the gate, and all others where they went. -/
  lookup : ∀ path, (s'.endpoints h.table).lookup path =
    if Text.plain path = Text.plain r.path then
      some (.inbound ⟨r.gate, catalogue, h.config.http.maxBodyBytes⟩)
    else (s.endpoints h.table).lookup path
  elsewhere : ∀ t, t ≠ h.table → s'.endpoints t = s.endpoints t
  /-- The gate comes last in the lists of the host, which keeps track of the new worker, if any. -/
  host : h' = { h with
    gates := h.gates ++ [r.gate]
    remotes := h.remotes ++ [r]
    workers := h.workers ++ if h.started then [{ worker := s.nextWorker, name }] else []
    running := h.running ++ if h.started then [name] else [] }
  /-- The gate has a worker if the host is started, and none otherwise. -/
  worker : (∃ w, (s'.duty r.gate w).isSome = true) ↔ h.started = true
  /-- Other gates and their workers are as they were. -/
  others : ∀ g, g ≠ r.gate → s.Leaves s' g

end Host

namespace Service

variable {κ : Type} {v : Service κ}

open Host (Untouched Joined Retracted tables_spawn)

/-- A new gate that goes away leaves nothing but its number. -/
lemma Staffed.untouched (h : v.Staffed) (gate : Gate) :
    Untouched v.host v.system v.host
      (v.system.onFabric fun f => (f.addGate gate).1.removeGate f.nextGate) := by
  obtain ⟨held, lawful⟩ := h.lawful
  have unlisted : v.system.fabric.links.lists.find? v.system.fabric.nextGate = none := by
    have dead : v.system.fabric.links.isLive v.system.fabric.nextGate = false := by
      rw [h.tidy.sound.agree, Fabric.isLive, Table.contains, lawful.newGate, Option.isSome_none]
    rw [Links.isLive, Table.contains, Option.isSome_eq_false_iff, Option.isNone_iff_eq_none] at dead
    exact dead
  have back := Fabric.removeGate_addGate gate lawful.newGate unlisted
  refine ⟨rfl, ?_, ?_, ?_⟩
  · simp only [System.onFabric, back]
  · simp only [System.onFabric, Fabric.isLive_removeGate, decide_true, Bool.not_true, Bool.false_and]
  · exact (opens_addGate lawful "" 0 none).unserved

/-- A new gate is not refused a worker. -/
lemma takeOn_of_opens {s s' : System κ} {h : Host} {r : RemoteGate}
    (opens : Opens s s' r.gate) (new : s'.workers.find? s'.nextWorker = none) :
    ∃ s'', h.takeOn s' r = (s'', { h with
        gates := h.gates ++ [r.gate]
        remotes := h.remotes ++ [r]
        workers := h.workers ++
          if h.started then [{ worker := s.nextWorker, name := s'.fabric.name r.gate }] else []
        running := h.running ++ if h.started then [s'.fabric.name r.gate] else [] }, .ok r) ∧
      s''.tables = s'.tables ∧ s''.fabric.isLive r.gate = true ∧
      ((∃ w, (s''.duty r.gate w).isSome = true) ↔ h.started = true) ∧
      ∀ g, g ≠ r.gate → s.Leaves s'' g := by
  have live : ∀ {s : System κ} {marks}, s.standing r.gate = some marks →
      s.fabric.isLive r.gate = true := by
    intro s marks standing
    obtain ⟨gate, there, -⟩ := Option.map_eq_some_iff.mp standing
    rw [Fabric.isLive, Table.contains, there, Option.isSome_some]
  cases started : h.started with
  | false =>
    refine ⟨s', ?_, rfl, live opens.standing, ?_, opens.elsewhere⟩
    · simp [Host.takeOn, started]
    · simp [opens.unserved]
  | true =>
    obtain ⟨s'', spawned, employs⟩ := spawn_of_free (h := h) new opens.standing
    refine ⟨s'', ?_, tables_spawn spawned, live employs.standing, ?_, ?_⟩
    · simp [Host.takeOn, started, spawned, opens.nextWorker]
    · refine iff_of_true ⟨s'.nextWorker, ?_⟩ rfl
      rw [employs.duty, if_pos rfl, Option.isSome_some]
    · exact fun g other => (opens.elsewhere g other).trans (employs.elsewhere g other)

/-- A gate that is built for the host joins it. -/
lemma Staffed.joined (h : v.Staffed) {name : String} {mode : AddressMode} {facts : Facts}
    {catalogue : Wire.Catalogue} {built : System κ} {r : RemoteGate}
    (made : RemoteGate.build v.system (v.host.newGate name) { v.host.config.http with mode } facts
      catalogue v.host.table = .ok (built, r)) :
    ∃ s' h', v.host.takeOn built r = (s', h', .ok r) ∧
      Joined v.host v.system name catalogue h' s' r := by
  obtain ⟨held, lawful⟩ := h.lawful
  have lawful' := (RemoteGate.goes_build name _ v.host.bus rfl made held lawful).1
  obtain ⟨new, opens⟩ := opens_build lawful made
  rw [← new] at opens
  obtain ⟨table, registered⟩ := RemoteGate.endpoints_build made
  have path := RemoteGate.path_build made
  obtain ⟨free, lookup⟩ := Endpoints.lookup_register registered
  obtain ⟨s', admitted, tables, live, worker, others⟩ :=
    takeOn_of_opens (h := v.host) opens lawful'.newWorker
  have served : ∀ t, s'.endpoints t = built.endpoints t := by
    intro t
    rw [System.endpoints, System.endpoints, tables]
  obtain ⟨-, path', handler, registers⟩ := RemoteGate.build_eq_ok made
  have named : built.fabric.name r.gate = name := by
    obtain ⟨changed, rfl⟩ := System.register_eq_ok registers
    simp only [Fabric.name, System.onFabric, Fabric.addGate, new, Table.find?_insert, if_pos]
    rfl
  rw [named] at admitted
  refine ⟨s', _, admitted, ⟨?_, live⟩, ⟨table, path⟩, free, ?_, ?_, ?_, rfl, worker, others⟩
  · rw [new, Fabric.isLive, Table.contains, lawful.newGate, Option.isSome_none]
  · rw [Endpoints.register_of_free free] at registered
    obtain new := Except.ok.inj registered
    rw [served, ← new]
    exact Table.entries_insert_of_find?_eq_none free _
  · intro p
    rw [served]
    exact lookup p
  · intro t other
    have same := System.endpoints_of_register registers other
    exact (served t).trans same

/-- A remote gate is made just if there are an address and a client and nothing is served at the path. -/
lemma Staffed.isOk_createRemoteInSteps (h : v.Staffed) (name : String) (mode : AddressMode)
    (facts : Facts) (catalogue : Wire.Catalogue) (client : Except String Unit) :
    (v.host.createRemoteInSteps v.system name mode facts catalogue client).2.2.isOk = true ↔
      (∃ host, facts.host mode v.host.config.http.advertisedHost = .ok host) ∧ client = .ok () ∧
        (v.system.endpoints v.host.table).lookup (v.host.config.http.endpointPath name) = none := by
  constructor
  · intro done
    obtain ⟨e, left⟩ | ⟨set, built, r, made, -⟩ :=
      v.host.createRemoteInSteps_cases v.system name mode facts catalogue client
    · rw [left] at done
      cases done
    · obtain ⟨host, address⟩ := RemoteGate.address_of_build made
      obtain ⟨free, -⟩ := Endpoints.lookup_register (RemoteGate.endpoints_build made).2
      rw [RemoteGate.path_build made] at free
      exact ⟨⟨host, address⟩, set, free⟩
  · rintro ⟨⟨host, address⟩, rfl, free⟩
    have cases := @RemoteGate.build_cases κ v.system v.host.table (v.host.newGate name)
      { v.host.config.http with mode } facts catalogue host address
    obtain ⟨taken, -⟩ | ⟨-, built, r, made⟩ := cases
    · have served : ((v.system.endpoints v.host.table).lookup
          (v.host.config.http.endpointPath name)).isSome = true := taken
      rw [free] at served
      cases served
    · obtain ⟨s', h', admitted, -⟩ := h.joined made
      rw [Host.createRemoteInSteps_of_client, made]
      dsimp only
      rw [admitted]
      rfl

/-- After any run of a host in company, an attempt to make a remote gate fails and leaves things
untouched, or makes it, which it does just if there are an address and a client and nothing is served at
the path. A gate that joins a host later, in whatever system has come of it and whatever host, leaves
no endpoint either if it is refused a worker. -/
theorem createRemoteInSteps_all_or_nothing (config : HostConfig) (table : Option TableId)
    (ms : List (HostMove κ)) (name : String) (mode : AddressMode) (facts : Facts)
    (catalogue : Wire.Catalogue) (client : Except String Unit) :
    let v := runAmid config table ms
    let attempt := v.host.createRemoteInSteps v.system name mode facts catalogue client
    (∀ s h e, attempt = (s, h, .error e) → Untouched v.host v.system h s) ∧
      (∀ s h r, attempt = (s, h, .ok r) → Joined v.host v.system name catalogue h s r) ∧
      (attempt.2.2.isOk = true ↔
        (∃ host, facts.host mode v.host.config.http.advertisedHost = .ok host) ∧ client = .ok () ∧
          (v.system.endpoints v.host.table).lookup (v.host.config.http.endpointPath name) = none) ∧
      ∀ (h h' : Host) (built s s' : System κ) (r : RemoteGate) handler e,
        v.system.register r.table r.path handler = .ok built → s.tables = built.tables →
        h.takeOn s r = (s', h', .error e) → Retracted v.system h s h' s' := by
  intro v attempt
  have staffed : v.Staffed := staffed_runAmid config table ms
  refine ⟨?_, ?_, staffed.isOk_createRemoteInSteps name mode facts catalogue client, ?_⟩
  · intro s h e failed
    obtain ⟨e', left⟩ | ⟨-, built, r, made, admits⟩ :=
      v.host.createRemoteInSteps_cases v.system name mode facts catalogue client
    · obtain ⟨rfl, rfl, -⟩ := Prod.mk.inj (left.symm.trans failed)
      exact staffed.untouched (v.host.newGate name)
    · obtain ⟨s', h', admitted, -⟩ := staffed.joined made
      cases (admits.trans admitted).symm.trans failed
  · intro s h r done
    obtain ⟨e', left⟩ | ⟨-, built, r', made, admits⟩ :=
      v.host.createRemoteInSteps_cases v.system name mode facts catalogue client
    · cases left.symm.trans done
    · obtain ⟨s', h', admitted, joined⟩ := staffed.joined made
      cases (admits.trans admitted).symm.trans done
      exact joined
  · intro h h' built s s' r handler e registered tables refused
    exact Host.takeOn_refused registered tables refused

/-- A started host with a remote gate. -/
def occupied : Service Unit := runAmid graceful none [.createRemote "a" .dns {} {}, .start]

/-- Gate 1 with an endpoint, when somebody else has its queue. -/
def contested : System Unit :=
  let s := occupied.system
  { ((s.move (.create "b" 1 none)).bind (·.move (.gate 1 .handOut))).getD s with
    tables := (s.moveSide (.register occupied.host.table "/b" (.echo ""))).tables }

/-- The path of "a" is taken by the time another "a" is made, and that of "b" is not. A gate whose queue
somebody else has is refused a worker and loses its endpoint. -/
theorem createRemoteInSteps_clash :
    let r : RemoteGate := ⟨1, "/b", "", occupied.host.table⟩
    let again := occupied.host.createRemoteInSteps occupied.system "a" .dns {} {} (.ok ())
    let other := occupied.host.createRemoteInSteps occupied.system "b" .dns {} {} (.ok ())
    let late := occupied.host.takeOn contested r
    (again.2.2.isOk = false ∧ again.2.1 = occupied.host) ∧
      (∃ new w, other.2.2 = .ok new ∧ (other.1.duty new.gate w).isSome = true) ∧
      late.2.2.isOk = false ∧ ((contested.endpoints r.table).lookup r.path).isSome = true ∧
      (late.1.endpoints r.table).lookup r.path = none := by
  intro r again other late
  have failed : again.2.2.isOk = false := by decide +kernel
  have refused : late.2.2.isOk = false := by decide +kernel
  have started : occupied.host.started = true := by decide +kernel
  obtain ⟨e, again_eq⟩ := Host.eq_error_of_isOk_eq_false failed
  obtain ⟨new, other_eq⟩ := Host.eq_ok_of_isOk (x := other) (by decide +kernel)
  obtain ⟨e', late_eq⟩ := Host.eq_error_of_isOk_eq_false refused
  have untouched := (createRemoteInSteps_all_or_nothing graceful none
    [.createRemote "a" .dns {} {}, .start] "a" .dns {} {} (.ok ())).1 _ _ _ again_eq
  obtain ⟨-, joins, -, retracts⟩ := createRemoteInSteps_all_or_nothing (κ := Unit) graceful none
    [.createRemote "a" .dns {} {}, .start] "b" .dns {} {} (.ok ())
  obtain ⟨w, serves⟩ := (joins _ _ _ other_eq).worker.mpr started
  have free : (occupied.system.endpoints r.table).lookup r.path = none :=
    Option.isNone_iff_eq_none.mp (by decide +kernel)
  have registered : occupied.system.register r.table r.path (.echo "") =
      .ok (occupied.system.moveSide (.register r.table r.path (.echo ""))) := by
    simp only [System.moveSide, System.register, Endpoints.register_of_free free, Except.map]
  have tables : contested.tables =
      (occupied.system.moveSide (.register r.table r.path (.echo ""))).tables := by
    unfold contested
    rfl
  have retracted := retracts _ _ _ _ _ r _ e' registered tables late_eq
  refine ⟨⟨failed, untouched.host⟩, ⟨new, w, congrArg (·.2.2) other_eq, serves⟩, refused,
    by decide +kernel, ?_⟩
  rw [retracted.endpoints]
  exact free

end Service

end EventGates

import EventGates.Proofs.Host.Service

/-!
# Gates that a host serves

A start leaves a gate alone that is still running, which it is under a worker that was cancelled and
has not ended. So once the host is started, a gate is served by a worker that is not cancelled exactly
if the last start did not leave it alone (`run_serves_iff`). Where it did, nobody serves the gate when
its worker has ended, and starting again does not help, for the host is started. A start that comes
when the cancelled workers have ended leaves no gate alone (`Sound.skipped_start`).

Each operation of the host leaves a sound host, and so does every run.
-/

namespace EventGates

namespace Service

variable {κ : Type} {v : Service κ} {s s' : System κ} {g : GateId}

/-! ## Starting -/

/-- A host gives a worker with its token to a gate whose queue is at hand, and keeps track of it. -/
lemma spawn_of_free {h : Host} (new : s.workers.find? s.nextWorker = none) {running : Bool}
    (free : s.standing g = some (running, false)) :
    ∃ s', h.spawn s g = .ok (s', { h with
        workers := h.workers ++ [{ worker := s.nextWorker, name := s.fabric.name g }]
        running := h.running ++ [s.fabric.name g] }) ∧ s.Employs s' g h.token := by
  obtain ⟨s', spawned, employs⟩ := System.spawn_of_free new free h.token
  refine ⟨s', ?_, employs⟩
  rw [Host.spawn, spawned]
  rfl

/-- The first mark of a gate says whether it is running. -/
lemma any_running {marks : Bool × Bool} (standing : s.standing g = some marks) :
    (s.fabric.gates.find? g).any (·.running) = marks.1 := by
  obtain ⟨gate, there, rfl⟩ := Option.map_eq_some_iff.mp standing
  rw [there]
  rfl

/-- A host can always start: it gives a worker to each of the given gates that is not running, and
leaves the others. -/
lemma Kept.spawnEach (h : v.Kept) {gs : List GateId} (own : ∀ g ∈ gs, g ∈ v.host.gates) :
    ∃ s' workers running,
      Host.spawnEach gs v.host v.system = (s', { v.host with workers, running }, none) ∧
      Kept { v with system := s', host := { v.host with workers, running } } ∧
      s'.cancelled = v.system.cancelled ∧
      ∀ x ∈ v.host.gates,
        (x ∈ gs ∧ v.isRunning x = false ∧ ∃ w, s'.duty x w = some (v.host.token, false)) ∨
        ((x ∈ gs → v.isRunning x = true) ∧ v.system.Leaves s' x) := by
  induction gs generalizing v with
  | nil =>
    refine ⟨v.system, v.host.workers, v.host.running, rfl, h, rfl, ?_⟩
    intro x _
    exact .inr ⟨nofun, .refl v.system x⟩
  | cons g gs ih =>
    have mem := own g List.mem_cons_self
    have rest : ∀ x ∈ gs, x ∈ v.host.gates := fun x later => own x (List.mem_cons_of_mem g later)
    obtain ⟨busy, standing, -⟩ := (h.attended g mem).standing
    have marked : v.isRunning g = busy := any_running standing
    cases busy with
    | true =>
      obtain ⟨s', workers, running, started, kept, cancelled, each⟩ := ih h rest
      refine ⟨s', workers, running, ?_, kept, cancelled, ?_⟩
      · rw [Host.spawnEach, if_pos (any_running standing)]
        exact started
      · intro x mine
        obtain ⟨later, idle, serves⟩ | ⟨left, same⟩ := each x mine
        · exact .inl ⟨List.mem_cons_of_mem g later, idle, serves⟩
        · refine .inr ⟨?_, same⟩
          intro among
          cases among with
          | head => exact marked
          | tail _ later => exact left later
    | false =>
      obtain ⟨held, lawful⟩ := h.lawful
      obtain ⟨s₁, spawned, employs⟩ := spawn_of_free (h := v.host) lawful.newWorker standing
      have lawful₁ := (Host.goes_spawn spawned held lawful).1
      have kept₁ := h.employs mem standing ⟨held, lawful₁⟩ employs (v.system.fabric.name g)
        (v.host.running ++ [v.system.fabric.name g])
      obtain ⟨s', workers, running, started, kept, cancelled, each⟩ := ih kept₁ rest
      refine ⟨s', workers, running, ?_, kept, cancelled.trans employs.cancelled, ?_⟩
      · rw [Host.spawnEach, if_neg (by rw [any_running standing]; exact Bool.false_ne_true), spawned]
        exact started
      · intro x mine
        by_cases here : x = g
        · subst here
          -- it is running now, so it is left alone from here on
          have running₁ : (s₁.fabric.gates.find? x).any (·.running) = true :=
            any_running employs.standing
          obtain ⟨-, idle, -⟩ | ⟨-, same⟩ := each x mine
          · exact absurd (idle.symm.trans running₁) Bool.false_ne_true
          · refine .inl ⟨List.mem_cons_self, marked, v.system.nextWorker, ?_⟩
            rw [same.duty, employs.duty, if_pos rfl]
        · have before := employs.elsewhere x here
          obtain ⟨busy, standing', -⟩ := (h.attended x mine).standing
          have runs : (s₁.fabric.gates.find? x).any (·.running) = v.isRunning x :=
            (any_running (before.standing.trans standing')).trans (any_running standing').symm
          obtain ⟨later, idle, serves⟩ | ⟨left, same⟩ := each x mine
          · exact .inl ⟨List.mem_cons_of_mem g later, runs.symm.trans idle, serves⟩
          · refine .inr ⟨?_, before.trans same⟩
            intro among
            cases among with
            | head => exact absurd rfl here
            | tail _ later => exact runs.symm.trans (left later)

/-- A start leaves a sound host. -/
lemma Sound.start (h : v.Sound) {v' : Service κ} (made : v.step .start = some v') : v'.Sound := by
  cases started : v.host.started with
  | true =>
    have same : v.host.start v.system = (v.system, v.host, .ok ()) := if_pos started
    simp only [step, same, started, if_true, Option.some.injEq] at made
    exact made ▸ h
  | false =>
    obtain ⟨s', workers, running, each, kept, cancelled, served⟩ :=
      h.kept.spawnEach fun g (mem : g ∈ v.host.gates) => mem
    have starts : v.host.start v.system =
        (s', { v.host with workers, running, started := true }, .ok ()) := by
      rw [Host.start, if_neg (by rw [started]; exact Bool.false_ne_true), each]
    simp only [step, starts, started, Bool.false_eq_true, if_false, Option.some.injEq] at made
    subst made
    have leaving := h.resting started
    refine ⟨?_, ?_, ?_, ?_⟩
    · exact ⟨kept.lawful, kept.token, kept.cancelled, kept.attended, kept.loyal, kept.tracked,
        kept.waiting⟩
    · exact fun g mem => (List.mem_filter.mp mem).1
    · rintro ⟨⟩
    · intro _ g mem
      obtain ⟨-, idle, serves⟩ | ⟨left, same⟩ := served g mem
      · refine .inr ⟨?_, serves⟩
        intro skipped
        exact absurd (idle.symm.trans (List.mem_filter.mp skipped).2) Bool.false_ne_true
      · refine .inl ⟨List.mem_filter.mpr ⟨mem, left mem⟩, ?_⟩
        exact (Bears.of_leaves same).leaving (fun t => cancelled ▸ id) (leaving g mem)

/-! ## Shutting down -/

/-- Nothing changes but links, endpoints and what else no worker and no gate has a part in. -/
structure Quiet (s s' : System κ) : Prop where
  leaves : ∀ x, s.Leaves s' x
  cancelled : s'.cancelled = s.cancelled
  nextToken : s'.nextToken = s.nextToken
  nextWorker : s'.nextWorker = s.nextWorker

namespace Quiet

lemma refl (s : System κ) : Quiet s s := ⟨fun x => .refl s x, rfl, rfl, rfl⟩

lemma trans {s'' : System κ} (h : Quiet s s') (h' : Quiet s' s'') : Quiet s s'' where
  leaves x := (h.leaves x).trans (h'.leaves x)
  cancelled := h'.cancelled.trans h.cancelled
  nextToken := h'.nextToken.trans h.nextToken
  nextWorker := h'.nextWorker.trans h.nextWorker

/-- One thing after the other for each element of a list. -/
lemma foldl {α : Type} {f : System κ → α → System κ} (each : ∀ s x, Quiet s (f s x))
    (xs : List α) (s : System κ) : Quiet s (xs.foldl f s) := by
  induction xs generalizing s with
  | nil => exact refl s
  | cons x xs ih => exact (each s x).trans (ih (f s x))

lemma spares {token : TokenId} (h : Quiet s s') : Spares s s' token :=
  .of_tokens h.cancelled h.nextToken (Nat.le_of_eq h.nextWorker.symm)

end Quiet

/-- Links are removed and endpoints withdrawn without a change to anything else. -/
lemma quiet_withdraw (h : Host) (s : System κ) :
    Quiet s (Host.withdraw h.remotes (Host.unlinkGates h.gates s)) := by
  have unlinked : Quiet s (Host.unlinkGates h.gates s) :=
    .foldl (fun s g => ⟨s.leaves_side (.unlinkAll g), rfl, rfl, rfl⟩) h.gates s
  have withdrawn : ∀ s : System κ, Quiet s (Host.withdraw h.remotes s) :=
    .foldl (fun s r => ⟨s.leaves_side (.unregister r.table r.path), rfl, rfl, rfl⟩) h.remotes
  exact unlinked.trans (withdrawn _)

/-- A shutdown that waits has the workers that the host kept track of. -/
lemma mem_waiting_shutdown {p : List Tracked × List String} (mem : p ∈ (v.next .shutdown).waiting) :
    p ∈ v.waiting ∨ p = (v.host.workers, v.host.running) := by
  change p ∈ (if v.host.config.grace = 0 then _ else _) at mem
  split at mem
  · exact .inl mem
  · exact (List.mem_append.mp mem).imp_right List.mem_singleton.mp

/-- A shutdown leaves a sound host. -/
lemma Sound.shutdown (h : v.Sound) {v' : Service κ} (made : v.step .shutdown = some v') :
    v'.Sound := by
  obtain ⟨held, lawful⟩ := h.kept.lawful
  have lawful' := (Host.goes_beginShutdown v.host v.system held lawful).1
  have quiet := quiet_withdraw v.host v.system
  simp only [step, Host.beginShutdown, Option.some.injEq] at made lawful'
  generalize Host.withdraw v.host.remotes (Host.unlinkGates v.host.gates v.system) = s₁ at *
  -- whoever serves a gate of the host now was given the token that is cancelled, or an older one
  have leaving : ∀ g ∈ v.host.gates, Leaving (s₁.cancel v.host.token) g := by
    intro g mem w t dropped serves
    have before : v.system.duty g w = some (t, dropped) := (quiet.leaves g).duty w ▸ serves
    obtain ended | ⟨rfl, -⟩ := h.kept.loyal g mem w t dropped before
    · exact List.mem_cons_of_mem _ (quiet.cancelled ▸ ended)
    · exact List.mem_cons_self
  have old : ∀ t ∈ (s₁.cancel v.host.token).cancelled, t < s₁.nextToken := by
    intro t mem
    rw [quiet.nextToken]
    cases mem with
    | head => exact h.kept.token.1
    | tail _ mem => exact h.kept.cancelled t (quiet.cancelled ▸ mem)
  subst made
  refine ⟨⟨⟨held, lawful'⟩, ⟨Nat.lt_succ_self _, ?_⟩, ?_, ?_, ?_, nofun, ?_⟩, h.skipped, ?_, nofun⟩
  · intro mem
    exact Nat.lt_irrefl _ (old _ mem)
  · exact fun t mem => Nat.lt_succ_of_lt (old t mem)
  · intro g mem
    have left : v.system.Leaves (s₁.cancel v.host.token).addToken.1 g :=
      (quiet.leaves g).trans ⟨rfl, fun _ => rfl⟩
    exact (Bears.of_leaves left).attended (h.kept.attended g mem)
  · exact fun g mem w t dropped serves => .inl (leaving g mem w t dropped serves)
  · intro p mem t tracked
    have ended : ∀ g ∈ v.host.gates, ∀ u dropped, s₁.duty g t.worker = some (u, dropped) →
        u ∈ (s₁.cancel v.host.token).cancelled :=
      fun g mem u dropped serves => leaving g mem t.worker u dropped serves
    refine ⟨?_, ended⟩
    show t.worker < s₁.nextWorker
    rw [quiet.nextWorker]
    obtain before | rfl := mem_waiting_shutdown mem
    · exact (h.kept.waiting p before t tracked).1
    · exact h.kept.tracked t tracked
  · exact fun _ => leaving

/-- Tracked workers that are cancelled are dropped. -/
lemma Sound.abort (h : v.Sound) (ts : List Tracked)
    (ended : ∀ t ∈ ts, ∀ g ∈ v.host.gates, ∀ u dropped,
      v.system.duty g t.worker = some (u, dropped) → u ∈ v.system.cancelled) :
    Sound { v with system := ts.foldl (fun s t => s.abort t.worker) v.system } := by
  induction ts generalizing v with
  | nil => exact h
  | cons t ts ih =>
    obtain ⟨held, lawful⟩ := h.kept.lawful
    have bears : ∀ g ∈ v.host.gates, Bears v.system (v.system.abort t.worker) g :=
      fun g mem => .of_abort (ended t List.mem_cons_self g mem)
    have first := h.of_bears ⟨held, (v.system.goes_abort t.worker held lawful).1⟩ bears
      (.of_tokens rfl rfl (Nat.le_refl _))
    apply ih first
    intro t' mem g own u dropped serves
    obtain ⟨dropped', before, -⟩ := (bears g own).duty _ u dropped serves
    exact ended t' (List.mem_cons_of_mem t mem) g own u dropped' before

/-- A shutdown that waits no longer leaves a sound host. -/
lemma Sound.giveUp (h : v.Sound) {index : Nat} {v' : Service κ}
    (made : v.step (.giveUp index) = some v') : v'.Sound := by
  obtain ⟨⟨workers, names⟩, there, rfl⟩ := Option.map_eq_some_iff.mp made
  have mem : (workers, names) ∈ v.waiting := List.mem_of_getElem? there
  have dropped := h.abort (workers.partition fun t => v.system.workers.contains t.worker).1 (by
    intro t left
    rw [List.partition_eq_filter_filter] at left
    exact (h.kept.waiting _ mem t (List.mem_filter.mp left).1).2)
  simp only [Host.system_finishShutdown]
  have kept := dropped.kept
  refine ⟨?_, dropped.skipped, dropped.resting, dropped.serving⟩
  exact ⟨kept.lawful, kept.token, kept.cancelled, kept.attended, kept.loyal, kept.tracked,
    fun p left => kept.waiting p (List.mem_of_mem_eraseIdx left)⟩

/-! ## Making gates -/

/-- A new gate is there, which nobody serves. -/
structure Opens (s s' : System κ) (g : GateId) : Prop where
  standing : s'.standing g = some (false, false)
  unserved : ∀ w, s'.duty g w = none
  elsewhere : ∀ x, x ≠ g → s.Leaves s' x
  cancelled : s'.cancelled = s.cancelled
  nextToken : s'.nextToken = s.nextToken
  nextWorker : s'.nextWorker = s.nextWorker

lemma opens_addGate {held : Table String GateId} (lawful : s.Lawful held) (name : String)
    (capacity : Nat) (bus : Option BusId) :
    Opens s (s.onFabric fun f => (f.addGate { name, capacity, bus }).1) s.fabric.nextGate := by
  refine ⟨?_, ?_, fun x other => s.leaves_create name capacity bus other, rfl, rfl, rfl⟩
  · simp [System.standing, System.onFabric, Fabric.addGate]
  · intro w
    cases serves : s.duty s.fabric.nextGate w with
    | none => exact serves
    | some r =>
      -- a worker has a gate that is there
      obtain ⟨a, found, own, -⟩ := System.duty_eq_some.mp serves
      obtain ⟨gate, there, -⟩ := lawful.gate_of_worker found
      rw [own, lawful.newGate] at there
      cases there

lemma Opens.trans {s'' : System κ} (h : Opens s s' g) (h' : Quiet s' s'') : Opens s s'' g where
  standing := (h'.leaves g).standing.trans h.standing
  unserved w := ((h'.leaves g).duty w).trans (h.unserved w)
  elsewhere x other := (h.elsewhere x other).trans (h'.leaves x)
  cancelled := h'.cancelled.trans h.cancelled
  nextToken := h'.nextToken.trans h.nextToken
  nextWorker := h'.nextWorker.trans h.nextWorker

/-- A path that is served is no change to gates and workers. -/
lemma quiet_register {t : TableId} {path : String} {handler : Handler}
    (made : s.register t path handler = .ok s') : Quiet s s' := by
  simp only [System.register] at made
  cases registered : (s.endpoints t).register path handler with
  | error _ =>
    rw [registered] at made
    cases made
  | ok table =>
    rw [registered] at made
    cases made
    exact ⟨fun x => ⟨rfl, fun _ => rfl⟩, rfl, rfl, rfl⟩

/-- A remote gate that is built is new. -/
lemma opens_build {held : Table String GateId} (lawful : s.Lawful held) {name : String}
    {capacity : Nat} {bus : Option BusId} {http : HttpConfig} {facts : Facts}
    {catalogue : Wire.Catalogue} {table : TableId} {r : RemoteGate}
    (made : RemoteGate.build s { name, capacity, bus } http facts catalogue table = .ok (s', r)) :
    r.gate = s.fabric.nextGate ∧ Opens s s' s.fabric.nextGate := by
  obtain ⟨new, path, handler, registered⟩ := RemoteGate.build_eq_ok made
  exact ⟨new, (opens_addGate lawful name capacity bus).trans (quiet_register registered)⟩

/-- What holds of a host between moves depends on its gates, its token, its workers and whether it is
started. -/
lemma Sound.of_host (h : v.Sound) {host : Host} (gates : host.gates = v.host.gates)
    (token : host.token = v.host.token) (workers : host.workers = v.host.workers)
    (started : host.started = v.host.started) : Sound { v with host } where
  kept := h.kept.of_host gates token workers
  skipped := gates ▸ h.skipped
  resting := by
    show host.started = false → ∀ g ∈ host.gates, _
    rw [gates, started]
    exact h.resting
  serving := by
    show host.started = true → ∀ g ∈ host.gates, _ ∨ _ ∧ ∃ w, v.system.duty g w = some (host.token, false)
    rw [gates, started, token]
    exact h.serving

/-- A new gate joins those of a host, and has a worker from the first if the host is started. -/
lemma Sound.joins (h : v.Sound) (opens : Opens v.system s' g) (fresh : g ∉ v.host.gates)
    {held : Table String GateId} (lawful : s'.Lawful held) {s'' : System κ} {host : Host}
    (spawned : (if v.host.started then v.host.spawn s' g else .ok (s', v.host)) = .ok (s'', host)) :
    Sound { v with system := s'', host := { host with gates := host.gates ++ [g] } } := by
  have other : ∀ x ∈ v.host.gates, x ≠ g := by
    rintro x mem rfl
    exact fresh mem
  have bears : ∀ x ∈ v.host.gates, Bears v.system s' x :=
    fun x mem => .of_leaves (opens.elsewhere x (other x mem))
  have spares : Spares v.system s' v.host.token :=
    .of_tokens opens.cancelled opens.nextToken (Nat.le_of_eq opens.nextWorker.symm)
  have after := h.of_bears ⟨held, lawful⟩ bears spares
  have kept := after.kept.join opens.standing opens.unserved
  have skipped : ∀ x ∈ v.skipped, x ∈ v.host.gates ++ [g] :=
    fun x mem => List.mem_append_left _ (h.skipped x mem)
  cases started : v.host.started with
  | false =>
    rw [started] at spawned
    cases spawned
    refine ⟨kept, skipped, ?_, ?_⟩
    · intro _ x mem
      cases List.mem_append.mp mem with
      | inl old => exact after.resting started x old
      | inr new =>
        obtain rfl := List.mem_singleton.mp new
        intro w t dropped serves
        rw [opens.unserved] at serves
        cases serves
    · intro running
      exact absurd (started.symm.trans running) Bool.false_ne_true
  | true =>
    obtain ⟨s₁, made, employs⟩ := spawn_of_free (h := v.host) lawful.newWorker opens.standing
    rw [started, if_pos rfl, made] at spawned
    cases spawned
    have lawful₁ := (Host.goes_spawn made held lawful).1
    refine ⟨kept.employs (List.mem_append_right _ (List.mem_singleton_self g)) opens.standing
      ⟨held, lawful₁⟩ employs _ _, skipped, ?_, ?_⟩
    · intro stopped
      exact absurd (stopped.symm.trans started) Bool.false_ne_true
    · intro _ x mem
      cases List.mem_append.mp mem with
      | inl old =>
        have same := employs.elsewhere x (other x old)
        obtain ⟨left, leaving⟩ | ⟨left, w, serves⟩ := after.serving started x old
        · exact .inl ⟨left, (Bears.of_leaves same).leaving (fun t => employs.cancelled ▸ id) leaving⟩
        · exact .inr ⟨left, w, (same.duty w).trans serves⟩
      | inr new =>
        obtain rfl := List.mem_singleton.mp new
        refine .inr ⟨fun left => fresh (h.skipped x left), s'.nextWorker, ?_⟩
        rw [employs.duty, if_pos rfl]

/-- A host that makes a gate is left sound. -/
lemma Sound.createGate (h : v.Sound) {name : String} {v' : Service κ}
    (made : v.step (.createGate name) = some v') : v'.Sound := by
  obtain ⟨held, lawful⟩ := h.kept.lawful
  simp only [step] at made
  split at made
  · cases made
  · next created =>
    cases made
    obtain ⟨host, spawned, rfl⟩ := Host.createGate_eq_ok created
    exact h.joins (opens_addGate lawful ..) (h.kept.fresh lawful)
      (v.system.goes_create name v.host.config.queueSlots v.host.bus held lawful).1 spawned

/-- A host that makes a remote gate is left sound. -/
lemma Sound.createRemote (h : v.Sound) {name : String} {mode : AddressMode} {facts : Facts}
    {catalogue : Wire.Catalogue} {v' : Service κ}
    (made : v.step (.createRemote name mode facts catalogue) = some v') : v'.Sound := by
  obtain ⟨held, lawful⟩ := h.kept.lawful
  simp only [step] at made
  split at made
  · cases made
  · next created =>
    cases made
    obtain ⟨built, host, build, spawned, rfl⟩ := Host.createRemote_eq_ok created
    obtain ⟨new, opens⟩ := opens_build lawful build
    rw [← new] at opens
    have joined := h.joins opens (new ▸ h.kept.fresh lawful)
      (RemoteGate.goes_build name _ v.host.bus rfl build held lawful).1 spawned
    exact joined.of_host rfl rfl rfl rfl

/-! ## Runs -/

/-- What is built has its token, and nothing else that matters to it. -/
lemma build_eq (config : HostConfig) (table : Option TableId) :
    let v := (build config table : Service κ)
    v.host.gates = [] ∧ v.host.workers = [] ∧ v.host.started = false ∧ v.waiting = [] ∧
      v.skipped = [] ∧ v.system.cancelled = [] ∧ v.host.token < v.system.nextToken := by
  obtain ⟨grace, slots, size, http⟩ := config
  cases size with
  | zero =>
    cases table with
    | none => exact ⟨rfl, rfl, rfl, rfl, rfl, rfl, Nat.lt_succ_self _⟩
    | some t => exact ⟨rfl, rfl, rfl, rfl, rfl, rfl, Nat.lt_succ_self _⟩
  | succ size =>
    cases table with
    | none => exact ⟨rfl, rfl, rfl, rfl, rfl, rfl, Nat.lt_succ_self _⟩
    | some t => exact ⟨rfl, rfl, rfl, rfl, rfl, rfl, Nat.lt_succ_self _⟩

/-- A host is sound when it has been built. -/
lemma sound_build (config : HostConfig) (table : Option TableId) :
    Sound (build config table : Service κ) := by
  obtain ⟨gates, workers, started, waiting, skipped, cancelled, token⟩ :=
    build_eq (κ := κ) config table
  have lawful := (Host.goes_build ({} : System κ) config table {} System.Lawful.start).1
  refine ⟨⟨⟨{}, lawful⟩, ⟨token, ?_⟩, ?_, ?_, ?_, ?_, ?_⟩, ?_, ?_, ?_⟩
  · rw [cancelled]
    exact List.not_mem_nil
  · rw [cancelled]
    exact nofun
  · rw [gates]
    exact nofun
  · rw [gates]
    exact nofun
  · rw [workers]
    exact nofun
  · rw [waiting]
    exact nofun
  · rw [skipped]
    exact nofun
  · rw [gates]
    exact nofun
  · rw [gates]
    exact nofun

/-- Every move keeps a host sound. -/
lemma Sound.next (h : v.Sound) (m : HostMove κ) : (v.next m).Sound := by
  simp only [Service.next]
  cases made : v.step m with
  | none => exact h
  | some v' =>
    cases m with
    | createGate name => exact h.createGate made
    | createRemote name mode facts catalogue => exact h.createRemote made
    | start => exact h.start made
    | shutdown => exact h.shutdown made
    | giveUp index => exact h.giveUp made
    | beside m =>
      simp only [step] at made
      split at made
      · next allowed =>
        obtain ⟨s', moved, rfl⟩ := Option.map_eq_some_iff.mp made
        exact h.beside allowed moved
      · cases made

/-- A host is sound after any run. -/
lemma run_sound (config : HostConfig) (table : Option TableId) (ms : List (HostMove κ)) :
    Sound (run config table ms) := by
  induction ms using List.reverseRecOn with
  | nil => exact sound_build config table
  | append_singleton ms m ih =>
    rw [run, List.foldl_append]
    exact Sound.next ih m

/-! ## Who serves the gates -/

/-- A gate of a host is running as long as there is a worker. -/
lemma Kept.isRunning_iff (h : v.Kept) (mem : g ∈ v.host.gates) :
    v.isRunning g = true ↔ ∃ w, (v.system.duty g w).isSome = true := by
  obtain ⟨busy, standing, served⟩ := (h.attended g mem).standing
  rw [isRunning, any_running standing]
  exact served

/-- A gate whose workers were all cancelled is not running when they have ended. -/
lemma Kept.isRunning_of_ended (h : v.Kept) (mem : g ∈ v.host.gates) (leaving : Leaving v.system g)
    (ended : v.Ended) : v.isRunning g = false := by
  apply eq_false_of_ne_true
  intro runs
  obtain ⟨w, serves⟩ := (h.isRunning_iff mem).mp runs
  obtain ⟨⟨t, dropped⟩, serves⟩ := Option.isSome_iff_exists.mp serves
  obtain ⟨a, found, rfl, rfl, -⟩ := System.duty_eq_some.mp serves
  have live := ended w a found mem
  exact Bool.false_ne_true (live.symm.trans (System.isCancelled_iff.mpr (leaving w _ _ serves)))

/-- A start leaves no gate alone if it comes when the cancelled workers have ended. -/
theorem Sound.skipped_start (h : v.Sound) (stopped : v.host.started = false) (ended : v.Ended) :
    (v.next .start).skipped = [] := by
  simp only [Service.next, step, stopped, Bool.false_eq_true, if_false, Option.getD_some]
  rw [List.filter_eq_nil_iff]
  intro g mem runs
  have idle := h.kept.isRunning_of_ended mem (h.resting stopped g mem) ended
  exact Bool.false_ne_true (idle.symm.trans runs)

/-- After any run of moves, each gate of a started host is served by a worker that is not cancelled
unless the last start left it alone. Those that it left alone are not running when their cancelled
workers have ended. -/
theorem run_serves_iff (config : HostConfig) (table : Option TableId) (ms : List (HostMove κ))
    (started : (run config table ms).host.started = true) {g : GateId}
    (mem : g ∈ (run config table ms).host.gates) :
    ((run config table ms).Serves g ↔ g ∉ (run config table ms).skipped) ∧
      ((run config table ms).Ended → g ∈ (run config table ms).skipped →
        (run config table ms).isRunning g = false) := by
  have h := run_sound config table ms
  generalize run config table ms = v at *
  obtain ⟨left, leaving⟩ | ⟨kept, w, serves⟩ := h.serving started g mem
  · refine ⟨iff_of_false ?_ (not_not_intro left), ?_⟩
    · rintro ⟨-, w, a, found, own, live⟩
      have ended := leaving w _ _ (System.duty_eq_some.mpr ⟨a, found, own, rfl, rfl⟩)
      exact Bool.false_ne_true (live.symm.trans (System.isCancelled_iff.mpr ended))
    · exact fun ended _ => h.kept.isRunning_of_ended mem leaving ended
  · refine ⟨iff_of_true ⟨?_, ?_⟩ kept, fun _ left => absurd left kept⟩
    · exact (h.kept.isRunning_iff mem).mpr ⟨w, Option.isSome_of_eq_some serves⟩
    · obtain ⟨a, found, own, token, -⟩ := System.duty_eq_some.mp serves
      refine ⟨w, a, found, own, eq_false_of_ne_true fun cancelled => ?_⟩
      exact h.kept.token.2 (token ▸ System.isCancelled_iff.mp cancelled)

/-- A host with one gate is shut down without a grace and started again before the worker of the gate
sees that it is cancelled. -/
def hastyRestart : List (HostMove Unit) :=
  [.createGate "g", .start, .beside (.worker 0 .begin), .beside (.worker 0 .rest), .shutdown, .start,
    .beside (.worker 0 .stop)]

/-- A gate that is made afterwards is served. -/
theorem run_serves_later :
    (run { grace := 0 } none (hastyRestart ++ [.createGate "h"])).Serves 1 := by
  have started : (run { grace := 0 } none (hastyRestart ++ [.createGate "h"])).host.started = true := by
    decide
  have mem : 1 ∈ (run { grace := 0 } none (hastyRestart ++ [.createGate "h"])).host.gates := by
    decide
  exact (run_serves_iff _ _ _ started mem).1.mpr (by decide)

/-- The host is started and its cancelled worker has ended, and its gate is not running. -/
theorem not_serves_hastyRestart :
    ¬∀ ms : List (HostMove Unit), (run { grace := 0 } none ms).host.started = true →
      (run { grace := 0 } none ms).Ended → ∀ g ∈ (run { grace := 0 } none ms).host.gates,
        (run { grace := 0 } none ms).Serves g := by
  intro serves
  have gone : (run { grace := 0 } none hastyRestart).system.workers.entries = [] := by decide
  have idle : (run { grace := 0 } none hastyRestart).isRunning 0 = false := by decide
  have ended : (run { grace := 0 } none hastyRestart).Ended := by
    intro w a found
    rw [Table.find?, gone] at found
    cases found
  obtain ⟨running, -⟩ := serves hastyRestart (by decide) ended 0 (by decide)
  exact Bool.false_ne_true (idle.symm.trans running)

end Service

end EventGates

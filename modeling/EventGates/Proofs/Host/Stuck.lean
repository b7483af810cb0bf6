import EventGates.Proofs.Dispatch.Reports
import EventGates.Proofs.Host.Shutdown
import Mathlib.Data.List.Perm.Basic

/-!
# Who is reported as stuck

A host keeps the names of the gates whose workers it has started in a list of its own, beside the
workers. A shutdown strikes the name of each worker that ends from that list, where the first that is
equal goes and the last takes its place, and reports what is left when its grace is over. Gates may share
a name, and workers end in any order, so nothing but how often each name is there can be right: it is,
after any number of workers that ended in any order (`Host.perm_joinEach`).

The names are those of the gates that the workers serve, for a gate keeps its name and a worker its gate
(`Service.labelled_runAmid`). So a shutdown with a grace succeeds if all of its workers have ended, and
names the gates of all others exactly if not (`Service.runAmid_shutdown_namesStuck`).
-/

namespace EventGates

/-! ## Striking names -/

namespace Host

/-- The first occurrence of a name is found where it is. -/
lemma idxOf?_append_cons {before after : List String} {name : String} (new : name ∉ before) :
    (before ++ name :: after).idxOf? name = some before.length := by
  rw [List.idxOf?_eq_some_iff]
  refine ⟨by simp, by simp, ?_⟩
  intro j first same
  rw [List.getElem_append_left first] at same
  exact new (same ▸ List.getElem_mem first)

/-- A name that is taken out is taken out once, and the others stay. -/
lemma perm_swapRemove {names : List String} {name : String} (mem : name ∈ names) :
    names.Perm (name :: swapRemove names name) := by
  obtain ⟨before, after, rfl, new⟩ := List.eq_append_cons_of_mem mem
  refine List.perm_middle.trans (.cons name ?_)
  simp only [swapRemove, idxOf?_append_cons new]
  obtain rfl | ⟨mid, last, rfl⟩ := after.eq_nil_or_concat'
  · simp
  · have final : (before ++ name :: (mid ++ [last])).getLast? = some last := by
      rw [← List.cons_append, ← List.append_assoc, List.getLast?_concat]
    have filled : ((before ++ name :: (mid ++ [last])).set before.length last).dropLast =
        before ++ last :: mid := by
      rw [List.set_append_right _ _ (Nat.le_refl _), Nat.sub_self, List.set_cons_zero,
        ← List.cons_append, ← List.append_assoc, List.dropLast_concat]
    rw [final]
    dsimp only
    rw [filled]
    exact (List.perm_append_singleton last mid).append_left before

/-- A shutdown joins a worker that has ended. Of the workers and the names that it waits for, it strikes
that worker and its name. -/
def join (p : List Tracked × List String) (t : Tracked) : List Tracked × List String :=
  (p.1.erase t, swapRemove p.2 t.name)

/-- The outcome when the grace is over, or before if nobody is left to wait for. -/
def verdict (grace : Nat) (p : List Tracked × List String) : Except HostError Unit :=
  if p.1.isEmpty then .ok () else .error (.graceExceeded grace p.2)

variable {workers joined : List Tracked} {names : List String} {t : Tracked}

/-- The names that are left are those of the workers that are left. -/
lemma perm_join (named : names.Perm (workers.map Tracked.name)) (mem : t ∈ workers) :
    (join (workers, names) t).2.Perm ((join (workers, names) t).1.map Tracked.name) := by
  have there : t.name ∈ names := named.mem_iff.mpr (List.mem_map_of_mem mem)
  have struck : (t.name :: swapRemove names t.name).Perm
      (t.name :: (workers.erase t).map Tracked.name) :=
    ((perm_swapRemove there).symm.trans named).trans ((List.perm_cons_erase mem).map Tracked.name)
  exact struck.cons_inv

/-- The workers that are left are those that were not joined. -/
lemma fst_joinEach (p : List Tracked × List String) :
    (joined.foldl join p).1 = p.1.diff joined := by
  induction joined generalizing p with
  | nil => rfl
  | cons t ts ih => rw [List.foldl_cons, ih, List.diff_cons, join]

/-- The names are struck one after the other. -/
lemma snd_joinEach (p : List Tracked × List String) :
    (joined.foldl join p).2 = stuck p.2 (joined.map Tracked.name) := by
  induction joined generalizing p with
  | nil => rfl
  | cons t ts ih => exact ih (join p t)

/-- However many workers were joined and in whatever order, the names that are left are those of the
workers that are left. -/
lemma perm_joinEach (named : names.Perm (workers.map Tracked.name)) (sub : joined.Subperm workers) :
    (joined.foldl join (workers, names)).2.Perm ((workers.diff joined).map Tracked.name) := by
  induction joined generalizing workers names with
  | nil => exact named
  | cons t ts ih =>
    have mem : t ∈ workers := sub.subset List.mem_cons_self
    have rest : ts.Subperm (workers.erase t) := by
      have less := sub.erase t
      rwa [List.erase_cons_head] at less
    rw [List.diff_cons, List.foldl_cons]
    exact ih (perm_join named mem) rest

/-! ## Verdicts -/

/-- A success with nobody stuck, or a report of the names of those who are. -/
def Reports (grace : Nat) (stuck : List String) : Except HostError Unit → Prop
  | .ok () => stuck = []
  | .error e => stuck ≠ [] ∧ ∃ names, e = .graceExceeded grace names ∧ names.Perm stuck

/-- The order of names does not count. -/
lemma Reports.of_perm {grace : Nat} {stuck stuck' : List String} {outcome : Except HostError Unit}
    (h : Reports grace stuck outcome) (perm : stuck.Perm stuck') : Reports grace stuck' outcome := by
  cases outcome with
  | ok => exact (h ▸ perm).nil_eq.symm
  | error e =>
    obtain ⟨some, names, report, same⟩ := h
    exact ⟨fun none => some (none ▸ perm).eq_nil, names, report, same.trans perm⟩

/-- Those who were not joined are reported. -/
lemma reports_verdict (grace : Nat) (named : names.Perm (workers.map Tracked.name))
    (sub : joined.Subperm workers) :
    Reports grace ((workers.diff joined).map Tracked.name)
      (verdict grace (joined.foldl join (workers, names))) := by
  have left := perm_joinEach named sub
  simp only [verdict, fst_joinEach]
  split
  · next none =>
    rw [List.isEmpty_iff.mp none]
    rfl
  · next some =>
    rw [List.isEmpty_iff] at some
    exact ⟨fun none => some (List.map_eq_nil_iff.mp none), _, rfl, left⟩

lemma append_diff_self (ts us : List Tracked) : (ts ++ us).diff ts = us := by
  induction ts with
  | nil => rfl
  | cons t ts ih => rw [List.cons_append, List.diff_cons, List.erase_cons_head, ih]

/-- Those who are left are all but those who have ended. -/
lemma diff_filter_perm (p : Tracked → Bool) (workers : List Tracked) :
    (workers.diff (workers.filter fun t => !p t)).Perm (workers.filter p) := by
  have parts := (List.filter_append_perm (fun t => !p t) workers).symm
  simp only [Bool.not_not] at parts
  have left := parts.diff_right (workers.filter fun t => !p t)
  rwa [append_diff_self] at left

/-- The outcome of a shutdown is the verdict when the workers that have ended are joined in the order in
which they were started. -/
lemma finishShutdown_verdict {κ : Type} (config : HostConfig) (workers : List Tracked)
    (running : List String) (s : System κ) :
    (finishShutdown config workers running s).2 =
      verdict config.grace ((workers.filter fun t => !s.workers.contains t.worker).foldl join
        (workers, running)) := by
  have left := diff_filter_perm (fun t => s.workers.contains t.worker) workers
  have none : (workers.filter fun t => s.workers.contains t.worker).isEmpty =
      (workers.diff (workers.filter fun t => !s.workers.contains t.worker)).isEmpty := by
    rw [Bool.eq_iff_iff, List.isEmpty_iff, List.isEmpty_iff]
    exact ⟨fun none => (none ▸ left).eq_nil, fun none => (none ▸ left).nil_eq.symm⟩
  simp only [finishShutdown, verdict, fst_joinEach, snd_joinEach, List.partition_eq_filter_filter,
    ← none]
  split
  · rfl
  · rfl

end Host

/-! ## Names of gates -/

namespace System

variable {κ : Type} {s s' s'' : System κ} {g : GateId} {w : WorkerId}

/-- The name of the gate that a worker serves, as long as the worker is there. -/
def servedName? (s : System κ) (w : WorkerId) : Option String :=
  (s.workers.find? w).map fun a => s.fabric.name a.gate

/-- Of the workers there were, those that are still there serve gates of the same names. -/
structure Retains (s s' : System κ) : Prop where
  nextWorker : s.nextWorker ≤ s'.nextWorker
  served : ∀ w < s.nextWorker, ∀ name, s'.servedName? w = some name → s.servedName? w = some name

lemma Retains.trans (h : s.Retains s') (h' : s'.Retains s'') : s.Retains s'' where
  nextWorker := Nat.le_trans h.nextWorker h'.nextWorker
  served w old name serves :=
    h.served w old name (h'.served w (Nat.lt_of_lt_of_le old h.nextWorker) name serves)

/-- No worker serves another gate than before, and no gate has another name. -/
lemma Retains.of_names (workers : s'.workers = s.workers) (nextWorker : s'.nextWorker = s.nextWorker)
    (gates : s'.fabric.gates = s.fabric.gates) : s.Retains s' where
  nextWorker := Nat.le_of_eq nextWorker.symm
  served w _ name serves := by
    simp only [servedName?, Fabric.name, workers, gates] at serves ⊢
    exact serves

/-- One thing after the other for each element of a list. -/
lemma Retains.foldl {α : Type} {f : System κ → α → System κ} (each : ∀ s x, Retains s (f s x))
    (xs : List α) (s : System κ) : s.Retains (xs.foldl f s) := by
  induction xs generalizing s with
  | nil => exact .of_names rfl rfl rfl
  | cons x xs ih => exact (each s x).trans (ih (f s x))

/-- A worker that is there after a move was there before, at the same gate, unless it is new. -/
lemma worker_of_move (lawful : ∃ held, s.Lawful held) {m : Move κ} (made : s.move m = some s')
    (old : w < s.nextWorker) {a' : Worker κ} (found' : s'.workers.find? w = some a') :
    ∃ a, s.workers.find? w = some a ∧ a.gate = a'.gate := by
  obtain ⟨held, lawful⟩ := lawful
  cases m with
  | create name capacity bus =>
    cases made
    exact ⟨a', found', rfl⟩
  | remove g =>
    simp only [move] at made
    split at made
    · cases made
    · cases made
      exact ⟨a', found', rfl⟩
  | gate g m =>
    obtain ⟨f, rfl, -⟩ | ⟨t, -, -, rfl⟩ := moveGate_cases made
    · exact ⟨a', found', rfl⟩
    · simp only [addWorker, Table.find?_insert, if_neg (Nat.ne_of_lt old)] at found'
      exact ⟨a', found', rfl⟩
  | worker x m =>
    simp only [move, Option.bind_eq_some_iff] at made
    obtain ⟨a, found, made⟩ := made
    obtain ⟨gate, there, -⟩ := lawful.gate_of_worker found
    obtain ⟨gate', after, turns, -⟩ := moveWorker_step found there {} made
    rw [turns.workers] at found'
    split at found'
    · next same =>
      subst same
      exact ⟨a, found, (turns.own a' found').symm⟩
    · exact ⟨a', found', rfl⟩
  | cancel t =>
    cases made
    exact ⟨a', found', rfl⟩
  | side m =>
    cases made
    rw [(s.alike_moveSide m).workers] at found'
    exact ⟨a', found', rfl⟩

lemma nextWorker_le_of_move (lawful : ∃ held, s.Lawful held) {m : Move κ}
    (made : s.move m = some s') : s.nextWorker ≤ s'.nextWorker := by
  obtain ⟨held, lawful⟩ := lawful
  cases m with
  | cancel t =>
    cases made
    exact Nat.le_refl _
  | _ =>
    have spares : Service.Spares s s' 0 := Service.spares_of_move lawful (by rintro t ⟨⟩) made
    exact spares.nextWorker

/-- A gate that is there before and after a move has kept its name. -/
lemma name_of_move (lawful : ∃ held, s.Lawful held) {m : Move κ} (made : s.move m = some s')
    {gate gate' : Gate} (there : s.fabric.gates.find? g = some gate)
    (there' : s'.fabric.gates.find? g = some gate') : gate'.name = gate.name := by
  obtain ⟨held, lawful⟩ := lawful
  obtain ⟨ms, rfl⟩ := lawful.run
  have after : ((Chronicle.run ms).runFrom [m]).system = s' := by
    simp only [Chronicle.runFrom, List.foldl_cons, List.foldl_nil, Chronicle.next, made]
  exact (Chronicle.keeps_runFrom (Chronicle.run_sound ms) there [m] (after ▸ there')).name

/-- A move lets every worker serve a gate of the name that it had. -/
lemma retains_of_move (lawful : ∃ held, s.Lawful held) {m : Move κ} (made : s.move m = some s') :
    s.Retains s' where
  nextWorker := nextWorker_le_of_move lawful made
  served w old name serves := by
    obtain ⟨a', found', rfl⟩ := Option.map_eq_some_iff.mp serves
    obtain ⟨a, found, same⟩ := worker_of_move lawful made old found'
    obtain ⟨held, own⟩ := lawful
    obtain ⟨gate, there, -⟩ := own.gate_of_worker found
    obtain ⟨held', own'⟩ := own.exists_of_move made
    obtain ⟨gate', there', -⟩ := own'.gate_of_worker found'
    rw [← same] at there' ⊢
    have kept := name_of_move ⟨held, own⟩ made there there'
    simp only [servedName?, Fabric.name, found, there, there', Option.map_some, kept]

/-- A queue that is handed out leaves all names. -/
lemma name_of_handOut {f f' : Fabric} (out : f.handOut g = some f') (x : GateId) :
    f'.name x = f.name x := by
  obtain ⟨gate, gate', there, handed, rfl⟩ := Fabric.handOut_eq_some out
  obtain ⟨-, rfl⟩ := Gate.handOut_eq_some handed
  by_cases same : x = g
  · simp only [Fabric.name, Table.find?_insert, same, if_true, there]
  · simp only [Fabric.name, Table.find?_insert, if_neg same]

/-- A worker that is spawned serves the gate that it was spawned for. -/
lemma retains_of_spawn {t : TokenId} (made : s.spawn g t = .ok (s', w)) :
    s.Retains s' ∧ w = s.nextWorker ∧ s'.nextWorker = s.nextWorker + 1 ∧
      s'.servedName? w = some (s.fabric.name g) := by
  simp only [spawn] at made
  split at made
  · cases made
  · next f out =>
    have names := name_of_handOut out
    cases made
    refine ⟨⟨Nat.le_succ _, ?_⟩, rfl, rfl, ?_⟩
    · intro u old name serves
      simp only [servedName?, Table.find?_insert, if_neg (Nat.ne_of_lt old), names] at serves
      exact serves
    · simp only [servedName?, Table.find?_insert, if_true, Option.map_some, names]

/-- A worker that is to be dropped serves the gate that it served. -/
lemma retains_of_abort (s : System κ) (w : WorkerId) : s.Retains (s.abort w) := by
  refine ⟨Nat.le_refl _, ?_⟩
  intro u old name serves
  simp only [servedName?, abort, Table.find?_modify] at serves ⊢
  split at serves
  · rw [Option.map_map] at serves
    exact serves
  · exact serves

end System

/-! ## Names that a host keeps -/

namespace Service

variable {κ : Type} {v : Service κ} {s' : System κ}

/-- The host keeps the names of its workers in their order, and each is the name of the gate that the
worker serves. -/
structure Labelled (v : Service κ) : Prop where
  running : v.host.running = v.host.workers.map Tracked.name
  old : ∀ t ∈ v.host.workers, t.worker < v.system.nextWorker
  named : ∀ t ∈ v.host.workers, ∀ name, v.system.servedName? t.worker = some name → name = t.name

namespace Labelled

/-- What lets workers serve gates of the names that they had. -/
lemma of_retains (h : v.Labelled) (retains : v.system.Retains s') :
    Labelled { v with system := s' } where
  running := h.running
  old t mem := Nat.lt_of_lt_of_le (h.old t mem) retains.nextWorker
  named t mem name serves := h.named t mem name (retains.served t.worker (h.old t mem) name serves)

/-- What is known depends on the workers and the names that the host keeps. -/
lemma of_host (h : v.Labelled) {host : Host} (workers : host.workers = v.host.workers)
    (running : host.running = v.host.running) : Labelled { v with host } := by
  refine ⟨?_, ?_, ?_⟩
  · rw [running, workers]
    exact h.running
  · rw [workers]
    exact h.old
  · rw [workers]
    exact h.named

/-- A worker that the host spawns is labelled with the name of its gate. -/
lemma spawn (h : v.Labelled) {g : GateId} {host : Host}
    (made : v.host.spawn v.system g = .ok (s', host)) :
    Labelled { v with system := s', host } := by
  obtain ⟨w, spawned, rfl⟩ := Host.spawn_eq_ok made
  obtain ⟨retains, new, next, serves⟩ := System.retains_of_spawn spawned
  have others := h.of_retains retains
  refine ⟨?_, ?_, ?_⟩
  · show v.host.running ++ _ = (v.host.workers ++ _).map Tracked.name
    rw [List.map_append, h.running]
    rfl
  · intro t mem
    cases List.mem_append.mp mem with
    | inl before => exact others.old t before
    | inr last =>
      obtain rfl := List.mem_singleton.mp last
      show w < s'.nextWorker
      rw [next, new]
      exact Nat.lt_succ_self _
  · intro t mem name served
    cases List.mem_append.mp mem with
    | inl before => exact others.named t before name served
    | inr last =>
      obtain rfl := List.mem_singleton.mp last
      exact Option.some.inj (served.symm.trans serves)

/-- A new gate is given a worker if the host is started. -/
lemma spawn_of_started (h : v.Labelled) {g : GateId} {host : Host}
    (made : (if v.host.started then v.host.spawn v.system g else .ok (v.system, v.host)) =
      .ok (s', host)) : Labelled { v with system := s', host } := by
  split at made
  · exact h.spawn made
  · cases made
    exact h

lemma spawnEach (h : v.Labelled) {gs : List GateId} {host : Host} {e : Option GateError}
    (made : Host.spawnEach gs v.host v.system = (s', host, e)) :
    Labelled { v with system := s', host } := by
  induction gs generalizing v with
  | nil =>
    cases made
    exact h
  | cons g gs ih =>
    simp only [Host.spawnEach] at made
    split at made
    · exact ih h made
    · split at made
      · cases made
        exact h
      · next spawned =>
        have others := ih (h.spawn spawned) made
        exact others

lemma createGate (h : v.Labelled) (staffed : v.Staffed) {name : String} {v' : Service κ}
    (made : v.step (.createGate name) = some v') : v'.Labelled := by
  simp only [step] at made
  split at made
  · cases made
  · next created =>
    cases made
    obtain ⟨host, spawned, rfl⟩ := Host.createGate_eq_ok created
    have retains := System.retains_of_move staffed.lawful
      (m := .create name v.host.config.queueSlots v.host.bus) rfl
    have opened := (h.of_retains retains).spawn_of_started spawned
    exact opened.of_host rfl rfl

lemma createRemote (h : v.Labelled) (staffed : v.Staffed) {name : String} {mode : AddressMode}
    {facts : Facts} {catalogue : Wire.Catalogue} {v' : Service κ}
    (made : v.step (.createRemote name mode facts catalogue) = some v') : v'.Labelled := by
  simp only [step] at made
  split at made
  · cases made
  · next created =>
    cases made
    obtain ⟨built, host, build, spawned, rfl⟩ := Host.createRemote_eq_ok created
    obtain ⟨new, path, handler, registered⟩ := RemoteGate.build_eq_ok build
    have retains := System.retains_of_move staffed.lawful
      (m := .create name v.host.config.queueSlots v.host.bus) rfl
    have serves : (v.system.onFabric fun f => (f.addGate (v.host.newGate name)).1).Retains built := by
      obtain ⟨table, rfl⟩ := System.register_eq_ok registered
      exact .of_names rfl rfl rfl
    have opened := (h.of_retains (retains.trans serves)).spawn_of_started spawned
    exact opened.of_host rfl rfl

lemma start (h : v.Labelled) {v' : Service κ} (made : v.step .start = some v') : v'.Labelled := by
  obtain rfl := Option.some.inj made
  have starts : Labelled { v with
      system := (v.host.start v.system).1, host := (v.host.start v.system).2.1 } := by
    cases each : Host.spawnEach v.host.gates v.host v.system with
    | mk s rest =>
      obtain ⟨host, e⟩ := rest
      have labelled := h.spawnEach each
      simp only [Host.start, each]
      split
      · exact h
      · cases e with
        | none => exact labelled.of_host rfl rfl
        | some e => exact labelled
  exact ⟨starts.running, starts.old, starts.named⟩

/-- A host that begins to shut down keeps no worker and no name. -/
lemma shutdown {v' : Service κ} (made : v.step .shutdown = some v') : v'.Labelled := by
  obtain rfl := Option.some.inj made
  exact ⟨rfl, fun t mem => absurd mem List.not_mem_nil, fun t mem => absurd mem List.not_mem_nil⟩

lemma giveUp (h : v.Labelled) {index : Nat} {v' : Service κ}
    (made : v.step (.giveUp index) = some v') : v'.Labelled := by
  obtain ⟨⟨workers, names⟩, there, rfl⟩ := Option.map_eq_some_iff.mp made
  have retains : v.system.Retains
      (Host.finishShutdown v.host.config workers names v.system).1 := by
    rw [Host.system_finishShutdown]
    exact .foldl (fun s (t : Tracked) => s.retains_of_abort t.worker) _ v.system
  have left := h.of_retains retains
  exact ⟨left.running, left.old, left.named⟩

/-- What the host keeps is in order after any move. -/
lemma nextAmid (h : v.Labelled) (staffed : v.Staffed) (m : HostMove κ) : (v.nextAmid m).Labelled := by
  simp only [Service.nextAmid]
  cases made : v.stepAmid m with
  | none => exact h
  | some v' =>
    cases m with
    | createGate name => exact h.createGate staffed made
    | createRemote name mode facts catalogue => exact h.createRemote staffed made
    | start => exact h.start made
    | shutdown => exact shutdown made
    | giveUp index => exact h.giveUp made
    | beside m =>
      simp only [stepAmid] at made
      split at made
      · obtain ⟨s', moved, rfl⟩ := Option.map_eq_some_iff.mp made
        exact h.of_retains (System.retains_of_move staffed.lawful moved)
      · cases made

end Labelled

/-- A host is built without workers. -/
lemma labelled_build (config : HostConfig) (table : Option TableId) :
    Labelled (build config table : Service κ) := by
  obtain ⟨-, workers, -⟩ := build_eq (κ := κ) config table
  have running : (build config table : Service κ).host.running = [] := by
    obtain ⟨grace, slots, size, http⟩ := config
    cases size with
    | zero => cases table <;> rfl
    | succ size => cases table <;> rfl
  refine ⟨?_, ?_, ?_⟩
  · rw [running, workers]
    rfl
  · rw [workers]
    exact nofun
  · rw [workers]
    exact nofun

/-- The names that a host keeps are in order after any run. -/
lemma labelled_runAmid (config : HostConfig) (table : Option TableId) (ms : List (HostMove κ)) :
    Labelled (runAmid config table ms) := by
  induction ms using List.reverseRecOn with
  | nil => exact labelled_build config table
  | append_singleton ms m ih =>
    rw [runAmid, List.foldl_append]
    exact Labelled.nextAmid ih (staffed_runAmid config table ms) m

/-! ## Shutdowns -/

/-- A host that begins to shut down leaves its workers at their gates. -/
lemma retains_beginShutdown (h : Host) (s : System κ) : s.Retains (h.beginShutdown s).1 := by
  have unlink : ∀ (s : System κ) g, s.Retains (s.onFabric fun f => (f.unlinkAll g).1) :=
    fun s g => .of_names rfl rfl rfl
  have terminate : ∀ (s : System κ) (r : RemoteGate), s.Retains (r.terminate s).1 :=
    fun s r => .of_names rfl rfl rfl
  have withdrawn : s.Retains (Host.withdraw h.remotes (Host.unlinkGates h.gates s)) :=
    System.Retains.trans (.foldl unlink h.gates s) (.foldl terminate h.remotes _)
  exact withdrawn.trans (.of_names rfl rfl rfl)

/-- While a host waits, its workers serve gates of the names that they had. -/
lemma Closing.retains_wait {s : System κ} (h : v.Closing s) (meanwhile : List (Move κ)) :
    s.Retains (v.host.wait s meanwhile) := by
  induction meanwhile generalizing s with
  | nil => exact .of_names rfl rfl rfl
  | cons m ms ih =>
    have bides : s.Retains (v.host.bide s m) := by
      simp only [Host.bide]
      split
      · cases made : s.move m with
        | none => exact .of_names rfl rfl rfl
        | some s' => exact System.retains_of_move h.lawful made
      · exact .of_names rfl rfl rfl
    exact bides.trans (ih (h.bide m))

/-- A worker of the host that is still there serves a gate of the name that the host keeps. -/
lemma Labelled.servedName?_eq (h : v.Labelled) {s : System κ} (retains : v.system.Retains s)
    {t : Tracked} (mem : t ∈ v.host.workers) :
    s.servedName? t.worker = if s.workers.contains t.worker then some t.name else none := by
  cases found : s.workers.find? t.worker with
  | none => simp [System.servedName?, Table.contains, found]
  | some a =>
    have serves : s.servedName? t.worker = some (s.fabric.name a.gate) := by
      rw [System.servedName?, found, Option.map_some]
    have same := h.named t mem _ (retains.served t.worker (h.old t mem) _ serves)
    rw [serves, same, Table.contains, found, Option.isSome_some, if_pos rfl]

/-- The names of gates that those of several workers of the host serve who are still there. -/
lemma Labelled.filterMap_servedName? (h : v.Labelled) {s : System κ} (retains : v.system.Retains s)
    {ts : List Tracked} (own : ∀ t ∈ ts, t ∈ v.host.workers) :
    (ts.map (·.worker)).filterMap s.servedName? =
      (ts.filter fun t => s.workers.contains t.worker).map Tracked.name := by
  induction ts with
  | nil => rfl
  | cons t ts ih =>
    have rest := ih fun u mem => own u (List.mem_cons_of_mem t mem)
    rw [List.map_cons, List.filterMap_cons, h.servedName?_eq retains (own t List.mem_cons_self),
      List.filter_cons, rest]
    by_cases there : s.workers.contains t.worker = true
    · rw [if_pos there, if_pos there, List.map_cons]
    · rw [if_neg there, if_neg there]

/-- All workers of a host are there while nobody shuts it down. -/
lemma Labelled.filterMap_eq_names (h : v.Labelled) (staffed : v.Staffed) {ts : List Tracked}
    (own : ∀ t ∈ ts, t ∈ v.host.workers) :
    (ts.map (·.worker)).filterMap v.system.servedName? = ts.map Tracked.name := by
  rw [h.filterMap_servedName? (.of_names rfl rfl rfl) own, List.filter_eq_self.mpr]
  intro t mem
  obtain ⟨g, -, serves⟩ := staffed.tracked t (own t mem)
  obtain ⟨a, found, -⟩ := System.duty_eq_some.mp serves
  rw [Table.contains, found, Option.isSome_some]

/-- What is reported by a host that waits for its workers, those that it has spawned since it was last
shut down, and finds the system `s` when it has waited. -/
structure NamesStuck (v : Service κ) (spawned : List WorkerId) (s : System κ)
    (outcome : Except HostError Unit) : Prop where
  /-- The host keeps the names of the gates that its workers serve. -/
  running : v.host.running = spawned.filterMap v.system.servedName?
  /-- Whichever of them end, and in whatever order they are joined, the others are named. -/
  joined : ∀ joined : List Tracked, joined.Subperm v.host.workers →
    Host.Reports v.host.config.grace
      (((v.host.workers.diff joined).map (·.worker)).filterMap v.system.servedName?)
      (Host.verdict v.host.config.grace (joined.foldl Host.join (v.host.workers, v.host.running)))
  /-- Those that are still there in `s` are named if those that are not were joined in any order. -/
  ended : ∀ joined : List Tracked,
    joined.Perm (v.host.workers.filter fun t => !s.workers.contains t.worker) →
    Host.Reports v.host.config.grace (spawned.filterMap s.servedName?)
      (Host.verdict v.host.config.grace (joined.foldl Host.join (v.host.workers, v.host.running)))
  /-- The outcome is one of these. -/
  outcome : Host.Reports v.host.config.grace (spawned.filterMap s.servedName?) outcome

/-- After any run of a host in company, a shutdown with a grace succeeds if all workers that the host has
spawned since it was last shut down have ended when it has waited. If some have not, exactly the names
of the gates that they serve are reported, each as often as there are such gates. -/
theorem runAmid_shutdown_namesStuck (config : HostConfig) (table : Option TableId)
    (ms : List (HostMove κ)) (grace : (runAmid config table ms).host.config.grace ≠ 0)
    (meanwhile : List (Move κ)) :
    let v := runAmid config table ms
    v.NamesStuck (spawned config table ms)
      (v.host.wait (v.host.beginShutdown v.system).1 meanwhile)
      (v.host.shutdown v.system meanwhile).2.2 := by
  intro v
  have staffed : v.Staffed := staffed_runAmid config table ms
  have labelled : v.Labelled := labelled_runAmid config table ms
  have waits : v.host.config.grace ≠ 0 := grace
  have retains := (retains_beginShutdown v.host v.system).trans
    (staffed.closing.retains_wait meanwhile)
  have named : v.host.running.Perm (v.host.workers.map Tracked.name) := .of_eq labelled.running
  rw [← workers_runAmid]
  have ended : ∀ joined : List Tracked,
      joined.Perm (v.host.workers.filter fun t =>
        !(v.host.wait (v.host.beginShutdown v.system).1 meanwhile).workers.contains t.worker) →
      Host.Reports v.host.config.grace ((v.host.workers.map (·.worker)).filterMap
        (v.host.wait (v.host.beginShutdown v.system).1 meanwhile).servedName?)
        (Host.verdict v.host.config.grace
          (joined.foldl Host.join (v.host.workers, v.host.running))) := by
    intro joined same
    rw [labelled.filterMap_servedName? retains fun t => id]
    have report := Host.reports_verdict v.host.config.grace named
      (same.subperm.trans List.filter_sublist.subperm)
    refine report.of_perm (.map _ ?_)
    rw [same.diff_left]
    exact Host.diff_filter_perm _ _
  refine ⟨?_, ?_, ended, ?_⟩
  · show v.host.running = (v.host.workers.map (·.worker)).filterMap v.system.servedName?
    rw [labelled.filterMap_eq_names staffed fun t => id, labelled.running]
  · intro joined sub
    rw [labelled.filterMap_eq_names staffed fun t => (List.diff_subset _ _ ·)]
    exact Host.reports_verdict v.host.config.grace named sub
  · have finished : (v.host.shutdown v.system meanwhile).2.2 =
        (Host.finishShutdown v.host.config v.host.workers v.host.running
          (v.host.wait (v.host.beginShutdown v.system).1 meanwhile)).2 := by
      have begun : v.host.beginShutdown v.system =
          ((v.host.beginShutdown v.system).1, (v.host.beginShutdown v.system).2.1, v.host.workers,
            v.host.running) := rfl
      rw [Host.shutdown, begun]
      dsimp only
      rw [if_neg waits]
    rw [finished, Host.finishShutdown_verdict]
    exact ended _ (.refl _)

/-- Two gates of one name, and another one. -/
def namesakes : List (HostMove Unit) :=
  [.createGate "a", .createGate "b", .createGate "a", .start]

/-- Of the two gates of one name, the first is not waited for any longer, and the second is stuck. -/
theorem runAmid_shutdown_namesakes :
    let v := runAmid graceful none namesakes
    let s := v.host.wait (v.host.beginShutdown v.system).1 [.worker 0 .begin, .worker 0 .stop]
    v.host.running = ["a", "b", "a"] ∧ s.servedName? 0 = none ∧ s.servedName? 2 = some "a" ∧
      ∃ names, (v.host.shutdown v.system [.worker 0 .begin, .worker 0 .stop]).2.2 =
        .error (.graceExceeded 1 names) ∧ names.Perm ["b", "a"] := by
  intro v s
  have named := runAmid_shutdown_namesStuck graceful none namesakes (by decide +kernel)
    [.worker 0 .begin, .worker 0 .stop]
  have stuck : (spawned graceful none namesakes).filterMap s.servedName? = ["b", "a"] := by
    decide +kernel
  refine ⟨by decide +kernel, by decide +kernel, by decide +kernel, ?_⟩
  have report : Host.Reports v.host.config.grace ((spawned graceful none namesakes).filterMap
      s.servedName?) (v.host.shutdown v.system [.worker 0 .begin, .worker 0 .stop]).2.2 :=
    named.outcome
  rw [stuck] at report
  generalize (v.host.shutdown v.system [.worker 0 .begin, .worker 0 .stop]).2.2 = outcome at report
  cases outcome with
  | ok => cases report
  | error e =>
    obtain ⟨-, names, rfl, same⟩ := report
    exact ⟨names, rfl, same⟩

end Service

end EventGates

import EventGates.Proofs.Dispatch.Duties
import EventGates.Proofs.Host.Courses

/-!
# A host in service

A host makes gates, starts and shuts down, again and again, while its workers and everybody else make
moves. A shutdown with a grace waits for workers, and the next start may come before it is over; one
without a grace waits for nothing. Nobody but the host hands out the queues of its gates, drops their
workers or cancels its token.

What a host keeps at any time is `Kept`: each of its gates is marked running while it has its one
worker, and that worker has the token of the host or a cancelled one. Between moves it is `Sound`. A
gate that the last start left alone has none but a cancelled worker, and every other gate of a started
host has one with the token of the host. The moves of others keep a host sound, because a worker stops
only when it is cancelled (`Bears`).
-/

namespace EventGates

variable {κ : Type}

/-- A host in a system. -/
structure Service (κ : Type) where
  system : System κ
  host : Host
  /-- The workers, and the names of their gates, of the shutdowns that wait. -/
  waiting : List (List Tracked × List String) := []
  /-- The gates that the last start left alone. -/
  skipped : List GateId := []

/-- What is done to a host, or beside it. -/
inductive HostMove (κ : Type) where
  | createGate (name : String)
  | createRemote (name : String) (mode : AddressMode) (facts : Facts) (catalogue : Wire.Catalogue)
  | start
  | shutdown
  /-- A shutdown waits no longer, because its workers have ended or its grace is over. -/
  | giveUp (index : Nat)
  | beside (m : Move κ)

namespace Service

/-- A host is built in a system without gates. -/
def build (config : HostConfig) (table : Option TableId) : Service κ :=
  let (system, host) := Host.build {} config table
  { system, host }

/-- Moves that others can make: the queues of the gates of the host, the gates themselves, the host's
right to drop their workers and its token are not theirs. -/
def allows (v : Service κ) : Move κ → Bool
  | .remove g => !v.host.gates.contains g
  | .gate g .handOut => !v.host.gates.contains g
  | .gate g .release => !v.host.gates.contains g
  | .gate g (.engage _) => !v.host.gates.contains g
  | .worker w .abort => !(v.system.workers.find? w).any fun a => v.host.gates.contains a.gate
  | .cancel t => decide (t < v.system.nextToken) && t != v.host.token
  | _ => true

/-- A gate is marked running. -/
def isRunning (v : Service κ) (g : GateId) : Bool :=
  (v.system.fabric.gates.find? g).any (·.running)

/-- What a move leads to; none if it cannot be made. -/
def step (v : Service κ) : HostMove κ → Option (Service κ)
  | .createGate name =>
    match v.host.createGate v.system name with
    | .error _ => none
    | .ok (system, host, _) => some { v with system, host }
  | .createRemote name mode facts catalogue =>
    match v.host.createRemote v.system name mode facts catalogue with
    | .error _ => none
    | .ok (system, host, _) => some { v with system, host }
  | .start =>
    let (system, host, _) := v.host.start v.system
    let skipped := if v.host.started then v.skipped else v.host.gates.filter v.isRunning
    some { v with system, host, skipped }
  | .shutdown =>
    let (system, host, workers, names) := v.host.beginShutdown v.system
    let waiting := if v.host.config.grace = 0 then v.waiting else v.waiting ++ [(workers, names)]
    some { v with system, host, waiting }
  | .giveUp index =>
    v.waiting[index]?.map fun (workers, names) =>
      { v with
        system := (Host.finishShutdown v.host.config workers names v.system).1
        waiting := v.waiting.eraseIdx index }
  | .beside m => if v.allows m then (v.system.move m).map fun system => { v with system } else none

/-- Moves that cannot be made are passed over. -/
def next (v : Service κ) (m : HostMove κ) : Service κ := (v.step m).getD v

/-- The service after a run of moves. -/
def run (config : HostConfig) (table : Option TableId) (ms : List (HostMove κ)) : Service κ :=
  ms.foldl next (build config table)

/-- A gate is running under a worker whose token is not cancelled. -/
def Serves (v : Service κ) (g : GateId) : Prop :=
  v.isRunning g = true ∧
    ∃ w a, v.system.workers.find? w = some a ∧ a.gate = g ∧ v.system.isCancelled a.token = false

/-- No worker of a gate of the host is cancelled: those that were have ended. -/
def Ended (v : Service κ) : Prop :=
  ∀ w a, v.system.workers.find? w = some a → a.gate ∈ v.host.gates →
    v.system.isCancelled a.token = false

/-! ## What holds of a host in service -/

/-- A gate is running and its queue handed out while its one worker is there, and neither when no
worker is. -/
structure Attended (s : System κ) (g : GateId) : Prop where
  standing : ∃ busy, s.standing g = some (busy, busy) ∧
    (busy = true ↔ ∃ w, (s.duty g w).isSome = true)
  single : ∀ w w', (s.duty g w).isSome = true → (s.duty g w').isSome = true → w = w'

/-- Whoever serves the gate is cancelled. -/
def Leaving (s : System κ) (g : GateId) : Prop :=
  ∀ w t dropped, s.duty g w = some (t, dropped) → t ∈ s.cancelled

/-- What holds of a host at any time, in the middle of a start as well. -/
structure Kept (v : Service κ) : Prop where
  lawful : ∃ held, v.system.Lawful held
  token : v.host.token < v.system.nextToken ∧ v.host.token ∉ v.system.cancelled
  cancelled : ∀ t ∈ v.system.cancelled, t < v.system.nextToken
  attended : ∀ g ∈ v.host.gates, Attended v.system g
  loyal : ∀ g ∈ v.host.gates, ∀ w t dropped, v.system.duty g w = some (t, dropped) →
    t ∈ v.system.cancelled ∨ t = v.host.token ∧ dropped = false
  tracked : ∀ t ∈ v.host.workers, t.worker < v.system.nextWorker
  waiting : ∀ p ∈ v.waiting, ∀ t ∈ p.1, t.worker < v.system.nextWorker ∧
    ∀ g ∈ v.host.gates, ∀ u dropped, v.system.duty g t.worker = some (u, dropped) →
      u ∈ v.system.cancelled

/-- What holds of a host between moves. -/
structure Sound (v : Service κ) : Prop where
  kept : v.Kept
  skipped : ∀ g ∈ v.skipped, g ∈ v.host.gates
  resting : v.host.started = false → ∀ g ∈ v.host.gates, Leaving v.system g
  serving : v.host.started = true → ∀ g ∈ v.host.gates,
    g ∈ v.skipped ∧ Leaving v.system g ∨
      g ∉ v.skipped ∧ ∃ w, v.system.duty g w = some (v.host.token, false)

variable {v : Service κ} {s s' : System κ} {g : GateId}

/-! ## Workers that come to their end -/

/-- A gate and its workers are left as they are, but for cancelled workers that are dropped or end. -/
structure Bears (s s' : System κ) (g : GateId) : Prop where
  attended : Attended s g → Attended s' g
  duty : ∀ w t dropped, s'.duty g w = some (t, dropped) →
    ∃ dropped', s.duty g w = some (t, dropped') ∧ (t ∈ s.cancelled ∨ dropped' = dropped)
  live : Attended s g → ∀ w t dropped, s.duty g w = some (t, dropped) → t ∉ s.cancelled →
    s'.duty g w = some (t, dropped)

/-- Nothing is cancelled but tokens that were given out, and not the given one. -/
structure Spares (s s' : System κ) (token : TokenId) : Prop where
  cancelled : ∀ t ∈ s.cancelled, t ∈ s'.cancelled
  fresh : ∀ t ∈ s'.cancelled, t ∈ s.cancelled ∨ t ≠ token ∧ t < s.nextToken
  nextToken : s.nextToken ≤ s'.nextToken
  nextWorker : s.nextWorker ≤ s'.nextWorker

/-- Where no token is given out or cancelled. -/
lemma Spares.of_tokens {token : TokenId} (cancelled : s'.cancelled = s.cancelled)
    (nextToken : s'.nextToken = s.nextToken) (nextWorker : s.nextWorker ≤ s'.nextWorker) :
    Spares s s' token where
  cancelled t := by
    rw [cancelled]
    exact id
  fresh t mem := .inl (cancelled ▸ mem)
  nextToken := Nat.le_of_eq nextToken.symm
  nextWorker := nextWorker

/-- A token that is spared is given out and not cancelled, if it was so before. -/
lemma Spares.token {token : TokenId} (h : Spares s s' token)
    (live : token < s.nextToken ∧ token ∉ s.cancelled) :
    token < s'.nextToken ∧ token ∉ s'.cancelled := by
  refine ⟨Nat.lt_of_lt_of_le live.1 h.nextToken, ?_⟩
  intro mem
  obtain before | ⟨other, -⟩ := h.fresh _ mem
  · exact live.2 before
  · exact other rfl

/-- Cancelled tokens were given out, if they were so before. -/
lemma Spares.given {token : TokenId} (h : Spares s s' token)
    (given : ∀ t ∈ s.cancelled, t < s.nextToken) : ∀ t ∈ s'.cancelled, t < s'.nextToken := by
  intro t mem
  obtain before | ⟨-, old⟩ := h.fresh t mem
  · exact Nat.lt_of_lt_of_le (given t before) h.nextToken
  · exact Nat.lt_of_lt_of_le old h.nextToken

namespace Bears

lemma of_leaves (h : s.Leaves s' g) : Bears s s' g where
  attended before := by
    obtain ⟨⟨busy, standing, served⟩, single⟩ := before
    refine ⟨⟨busy, h.standing.trans standing, ?_⟩, ?_⟩
    · simp only [h.duty]
      exact served
    · simp only [h.duty]
      exact single
  duty w t dropped serves := ⟨dropped, h.duty w ▸ serves, .inr rfl⟩
  live _ w t dropped serves _ := (h.duty w).trans serves

/-- A gate that loses its one worker, which was cancelled. -/
lemma of_loses {w : WorkerId} {t : TokenId} {dropped : Bool} (h : s.Loses s' g w)
    (served : s.duty g w = some (t, dropped)) (ended : t ∈ s.cancelled) : Bears s s' g where
  attended before := by
    have alone : ∀ w', (s'.duty g w').isSome = true → False := by
      intro w' serves
      rw [h.duty] at serves
      split at serves
      · cases serves
      · next other =>
        exact other (before.single w' w serves (Option.isSome_of_eq_some served))
    refine ⟨⟨false, h.standing, ?_⟩, fun w _ serves => (alone w serves).elim⟩
    exact iff_of_false Bool.false_ne_true fun ⟨w, serves⟩ => alone w serves
  duty w' u dropped' serves := by
    rw [h.duty] at serves
    split at serves
    · cases serves
    · exact ⟨dropped', serves, .inr rfl⟩
  live before w' u dropped' serves live := by
    obtain rfl := before.single w' w (Option.isSome_of_eq_some serves)
      (Option.isSome_of_eq_some served)
    rw [serves] at served
    cases served
    exact absurd ended live

/-- A cancelled worker is to be dropped. -/
lemma of_abort {w : WorkerId}
    (ended : ∀ t dropped, s.duty g w = some (t, dropped) → t ∈ s.cancelled) :
    Bears s (s.abort w) g where
  attended before := by
    obtain ⟨⟨busy, standing, served⟩, single⟩ := before
    have same : ∀ v, ((s.abort w).duty g v).isSome = (s.duty g v).isSome := by
      intro v
      rw [System.duty_abort]
      split
      · exact Option.isSome_map
      · rfl
    refine ⟨⟨busy, standing, ?_⟩, ?_⟩
    · simp only [same]
      exact served
    · simp only [same]
      exact single
  duty v t dropped serves := by
    rw [System.duty_abort] at serves
    split at serves
    · next same =>
      subst same
      obtain ⟨⟨t, dropped'⟩, before, ⟨⟩⟩ := Option.map_eq_some_iff.mp serves
      exact ⟨dropped', before, .inl (ended _ _ before)⟩
    · exact ⟨dropped, serves, .inr rfl⟩
  live _ v t dropped serves live := by
    rw [System.duty_abort, if_neg]
    · exact serves
    · rintro rfl
      exact live (ended t dropped serves)

lemma leaving (h : Bears s s' g) (cancelled : ∀ t ∈ s.cancelled, t ∈ s'.cancelled)
    (leaving : Leaving s g) : Leaving s' g := by
  intro w t dropped serves
  obtain ⟨dropped', before, -⟩ := h.duty w t dropped serves
  exact cancelled t (leaving w t dropped' before)

end Bears

namespace Kept

/-- What others do, and what workers do, keeps the host as it is. -/
lemma of_bears (h : v.Kept) (lawful : ∃ held, s'.Lawful held)
    (bears : ∀ g ∈ v.host.gates, Bears v.system s' g)
    (spares : Spares v.system s' v.host.token) : Kept { v with system := s' } where
  lawful := lawful
  token := spares.token h.token
  cancelled := spares.given h.cancelled
  attended g mem := (bears g mem).attended (h.attended g mem)
  loyal g mem w t dropped serves := by
    obtain ⟨dropped', before, ended | rfl⟩ := (bears g mem).duty w t dropped serves
    · exact .inl (spares.cancelled t ended)
    · exact (h.loyal g mem w t dropped' before).imp_left (spares.cancelled t)
  tracked t mem := Nat.lt_of_lt_of_le (h.tracked t mem) spares.nextWorker
  waiting p mem t tracked := by
    obtain ⟨old, ended⟩ := h.waiting p mem t tracked
    refine ⟨Nat.lt_of_lt_of_le old spares.nextWorker, ?_⟩
    intro g mem u dropped serves
    obtain ⟨dropped', before, -⟩ := (bears g mem).duty _ u dropped serves
    exact spares.cancelled u (ended g mem u dropped' before)

end Kept

/-- What others do, and what workers do, keeps the host sound. -/
lemma Sound.of_bears (h : v.Sound) (lawful : ∃ held, s'.Lawful held)
    (bears : ∀ g ∈ v.host.gates, Bears v.system s' g)
    (spares : Spares v.system s' v.host.token) : Sound { v with system := s' } where
  kept := h.kept.of_bears lawful bears spares
  skipped := h.skipped
  resting stopped g mem := (bears g mem).leaving spares.cancelled (h.resting stopped g mem)
  serving started g mem := by
    obtain ⟨skipped, leaving⟩ | ⟨kept, w, serves⟩ := h.serving started g mem
    · exact .inl ⟨skipped, (bears g mem).leaving spares.cancelled leaving⟩
    · exact .inr ⟨kept, w, (bears g mem).live (h.kept.attended g mem) w _ _ serves h.kept.token.2⟩

/-! ## Moves beside the host -/

/-- No move cancels a given token, or one that is not given out, unless it is meant to. -/
lemma spares_of_move {held : Table String GateId} (lawful : s.Lawful held) {token : TokenId}
    {m : Move κ} (cancels : ∀ t, m = .cancel t → t ≠ token ∧ t < s.nextToken)
    (made : s.move m = some s') : Spares s s' token := by
  cases m with
  | create name capacity bus =>
    cases made
    exact .of_tokens rfl rfl (Nat.le_refl _)
  | remove g =>
    simp only [System.move] at made
    split at made
    · cases made
    · cases made
      exact .of_tokens rfl rfl (Nat.le_refl _)
  | worker w m =>
    simp only [System.move, Option.bind_eq_some_iff] at made
    obtain ⟨a, found, made⟩ := made
    obtain ⟨gate, there, -⟩ := lawful.gate_of_worker found
    obtain ⟨gate', after, turns, -⟩ := System.moveWorker_step found there {} made
    obtain ⟨⟨cancelled, nextToken⟩, -⟩ := System.moveWorker_cases made
    exact .of_tokens cancelled nextToken turns.nextWorker
  | cancel t =>
    cases made
    refine ⟨fun u mem => List.mem_cons_of_mem t mem, ?_, Nat.le_refl _, Nat.le_refl _⟩
    intro u mem
    cases mem with
    | head => exact .inr (cancels t rfl)
    | tail _ mem => exact .inl mem
  | side m =>
    cases made
    have cancelled := s.cancelled_moveSide m
    refine ⟨fun t => cancelled ▸ id, fun t mem => .inl (cancelled ▸ mem), ?_, ?_⟩
    · cases m with
      | addToken => exact Nat.le_succ _
      | register t path handler =>
        simp only [System.moveSide, System.register]
        cases (s.endpoints t).register path handler with
        | error _ => exact Nat.le_refl _
        | ok table => exact Nat.le_refl _
      | _ => exact Nat.le_refl _
    · exact Nat.le_of_eq (s.alike_moveSide m).nextWorker.symm
  | gate g m =>
    obtain ⟨f, rfl, -⟩ | ⟨t, -, -, rfl⟩ := System.moveGate_cases made
    · exact .of_tokens rfl rfl (Nat.le_refl _)
    · exact .of_tokens rfl rfl (Nat.le_succ _)

/-- Others do not cancel the token of the host, or one that is not given out. -/
lemma spares_of_allows {held : Table String GateId} (lawful : v.system.Lawful held) {m : Move κ}
    (allowed : v.allows m = true) (made : v.system.move m = some s') :
    Spares v.system s' v.host.token := by
  refine spares_of_move lawful ?_ made
  rintro t rfl
  simp only [allows, Bool.and_eq_true, decide_eq_true_eq, bne_iff_ne] at allowed
  exact allowed.symm

/-- A new gate is none of those that the host has. -/
lemma Kept.fresh (h : v.Kept) {held : Table String GateId} (lawful : v.system.Lawful held) :
    v.system.fabric.nextGate ∉ v.host.gates := by
  intro mem
  obtain ⟨busy, standing, -⟩ := (h.attended _ mem).standing
  rw [System.standing, lawful.newGate] at standing
  cases standing

/-- A worker of the host stops only once its token is cancelled. -/
lemma Kept.bears_worker (h : v.Kept) {w : WorkerId} {m : WorkerMove κ}
    (allowed : v.allows (.worker w m) = true) (made : v.system.move (.worker w m) = some s')
    (mem : g ∈ v.host.gates) : Bears v.system s' g := by
  obtain ⟨held, lawful⟩ := h.lawful
  simp only [System.move, Option.bind_eq_some_iff] at made
  obtain ⟨a, found, made⟩ := made
  obtain left | ⟨rfl, rfl⟩ | ⟨stopping, loses⟩ := lawful.leaves_moveWorker found made
  · exact .of_leaves (left g)
  · -- others do not drop workers of the host
    have other : a.gate ≠ g := by
      rintro rfl
      simp [allows, found, mem] at allowed
    apply Bears.of_abort
    intro t dropped serves
    obtain ⟨b, found', own, -⟩ := System.duty_eq_some.mp serves
    rw [found] at found'
    cases found'
    exact absurd own other
  · by_cases own : g = a.gate
    · subst own
      have served : v.system.duty a.gate w = some (a.token, a.aborted) :=
        System.duty_eq_some.mpr ⟨a, found, rfl, rfl, rfl⟩
      refine .of_loses loses served ?_
      simp only [System.isStopping, Bool.or_eq_true, System.isCancelled_iff] at stopping
      obtain cancelled | ⟨live, staying⟩ := h.loyal _ mem w _ _ served
      · exact cancelled
      · obtain dropped | cancelled := stopping
        · rw [staying] at dropped
          cases dropped
        · exact cancelled
    · exact .of_leaves (loses.elsewhere g own)

/-- What others do, and what workers do, leaves the gates of the host, but for cancelled workers that
end. -/
lemma Kept.bears_of_allows (h : v.Kept) {m : Move κ} (allowed : v.allows m = true)
    (made : v.system.move m = some s') (mem : g ∈ v.host.gates) : Bears v.system s' g := by
  obtain ⟨held, lawful⟩ := h.lawful
  have elsewhere : ∀ x, (!v.host.gates.contains x) = true → g ≠ x := by
    rintro x other rfl
    simp [mem] at other
  cases m with
  | worker w m => exact h.bears_worker allowed made mem
  | create name capacity bus =>
    cases made
    apply Bears.of_leaves
    apply v.system.leaves_create
    rintro rfl
    exact h.fresh lawful mem
  | remove x =>
    simp only [System.move] at made
    split at made
    · cases made
    · cases made
      exact .of_leaves (v.system.leaves_removeGate (elsewhere x allowed))
  | cancel t =>
    cases made
    exact .of_leaves ⟨rfl, fun _ => rfl⟩
  | side m =>
    cases made
    exact .of_leaves (v.system.leaves_side m g)
  | gate x m =>
    refine .of_leaves (System.leaves_moveGate lawful.newWorker made ?_)
    rintro (rfl | rfl | ⟨t, rfl⟩)
    · exact elsewhere x allowed
    · exact elsewhere x allowed
    · exact elsewhere x allowed

/-- Moves beside the host keep it sound. -/
lemma Sound.beside (h : v.Sound) {m : Move κ} (allowed : v.allows m = true)
    (made : v.system.move m = some s') : Sound { v with system := s' } := by
  obtain ⟨held, lawful⟩ := h.kept.lawful
  exact h.of_bears (lawful.exists_of_move made)
    (fun _ mem => h.kept.bears_of_allows allowed made mem) (spares_of_allows lawful allowed made)

/-! ## New gates and new workers -/

/-- What is kept depends on the gates, the token and the workers of the host. -/
lemma Kept.of_host (h : v.Kept) {host : Host} (gates : host.gates = v.host.gates)
    (token : host.token = v.host.token) (workers : host.workers = v.host.workers) :
    Kept { v with host } where
  lawful := h.lawful
  token := token ▸ h.token
  cancelled := h.cancelled
  attended := gates ▸ h.attended
  loyal := by
    show ∀ g ∈ host.gates, ∀ w t dropped, _ → t ∈ v.system.cancelled ∨ t = host.token ∧ dropped = false
    rw [gates, token]
    exact h.loyal
  tracked := workers ▸ h.tracked
  waiting p mem t tracked := by
    obtain ⟨old, ended⟩ := h.waiting p mem t tracked
    exact ⟨old, gates ▸ ended⟩

/-- A gate without a worker is one more gate of the host. -/
lemma Kept.join (h : v.Kept) (standing : v.system.standing g = some (false, false))
    (unserved : ∀ w, v.system.duty g w = none) :
    Kept { v with host := { v.host with gates := v.host.gates ++ [g] } } where
  lawful := h.lawful
  token := h.token
  cancelled := h.cancelled
  attended x mem := by
    cases List.mem_append.mp mem with
    | inl old => exact h.attended x old
    | inr new =>
      obtain rfl := List.mem_singleton.mp new
      refine ⟨⟨false, standing, ?_⟩, ?_⟩
      · simp [unserved]
      · simp [unserved]
  loyal x mem w t dropped serves := by
    cases List.mem_append.mp mem with
    | inl old => exact h.loyal x old w t dropped serves
    | inr new =>
      obtain rfl := List.mem_singleton.mp new
      rw [unserved] at serves
      cases serves
  tracked := h.tracked
  waiting p mem t tracked := by
    obtain ⟨old, ended⟩ := h.waiting p mem t tracked
    refine ⟨old, ?_⟩
    intro x mem u dropped serves
    cases List.mem_append.mp mem with
    | inl old => exact ended x old u dropped serves
    | inr new =>
      obtain rfl := List.mem_singleton.mp new
      rw [unserved] at serves
      cases serves

/-- A gate of the host that nobody serves is given a worker. -/
lemma Kept.employs (h : v.Kept) (mem : g ∈ v.host.gates)
    (standing : v.system.standing g = some (false, false)) (lawful : ∃ held, s'.Lawful held)
    (employs : v.system.Employs s' g v.host.token) (name : String) (running : List String) :
    Kept { v with
      system := s'
      host := { v.host with
        workers := v.host.workers ++ [{ worker := v.system.nextWorker, name }]
        running } } where
  lawful := lawful
  token := by
    rw [employs.nextToken, employs.cancelled]
    exact h.token
  cancelled := by
    rw [employs.nextToken, employs.cancelled]
    exact h.cancelled
  attended x mem := by
    by_cases same : x = g
    · subst same
      obtain ⟨busy, marks, served⟩ := (h.attended x mem).standing
      rw [standing] at marks
      cases marks
      have unserved : ∀ w, v.system.duty x w = none := by
        intro w
        cases serves : v.system.duty x w with
        | none => rfl
        | some r => exact absurd (served.mpr ⟨w, Option.isSome_of_eq_some serves⟩) Bool.false_ne_true
      have alone : ∀ w, (s'.duty x w).isSome = true → w = v.system.nextWorker := by
        intro w serves
        rw [employs.duty, unserved] at serves
        split at serves
        · assumption
        · cases serves
      refine ⟨⟨true, employs.standing, iff_of_true rfl ⟨v.system.nextWorker, ?_⟩⟩, ?_⟩
      · rw [employs.duty, if_pos rfl]
        rfl
      · intro w w' serves serves'
        rw [alone w serves, alone w' serves']
    · exact (Bears.of_leaves (employs.elsewhere x same)).attended (h.attended x mem)
  loyal x mem w t dropped serves := by
    rw [employs.cancelled]
    by_cases same : x = g
    · subst same
      rw [employs.duty] at serves
      split at serves
      · cases serves
        exact .inr ⟨rfl, rfl⟩
      · exact h.loyal x mem w t dropped serves
    · rw [(employs.elsewhere x same).duty] at serves
      exact h.loyal x mem w t dropped serves
  tracked t mem := by
    rw [employs.nextWorker]
    cases List.mem_append.mp mem with
    | inl old => exact Nat.lt_succ_of_lt (h.tracked t old)
    | inr new =>
      obtain rfl := List.mem_singleton.mp new
      exact Nat.lt_succ_self _
  waiting p mem t tracked := by
    obtain ⟨old, ended⟩ := h.waiting p mem t tracked
    rw [employs.nextWorker, employs.cancelled]
    refine ⟨Nat.lt_succ_of_lt old, ?_⟩
    intro x mem u dropped serves
    by_cases same : x = g
    · subst same
      -- the new worker has a new number
      rw [employs.duty, if_neg (Nat.ne_of_lt old)] at serves
      exact ended x mem u dropped serves
    · rw [(employs.elsewhere x same).duty] at serves
      exact ended x mem u dropped serves

end Service

end EventGates

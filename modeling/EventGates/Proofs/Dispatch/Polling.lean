import EventGates.Proofs.Dispatch.Duties
import EventGates.Proofs.Dispatch.Order

/-!
# Polls

A worker does something only while it is polled, and a poll goes on until the worker has to wait:
until it finds no event or its callback is suspended. Whether what a callback has left to do begins
with a suspension is told by `asleep`. A worker looks at its token before it takes an event and before
it delivers one; in a callback the token is looked at, and the worker is dropped, only between two
polls.

`Polling.run` makes moves, and begins and ends polls, as far as these rules allow. The main theorem
`run_heeds` says what follows for deliveries: a worker that is made to stop in a callback is stopped
where the callback is suspended. Who is not being polled waits, and that is the invariant (`Rests`).
-/

namespace EventGates

/-- What can happen at an instant. -/
inductive Instant (κ : Type) where
  | move (m : Move κ)
  | poll (w : WorkerId)
  /-- The poll of a worker ends. -/
  | pend (w : WorkerId)

/-- A callback is under way in this phase. -/
def Phase.callback? {κ : Type} : Phase κ → Option κ
  | .delivering d => d.callback
  | _ => none

/-- In this phase a worker waits, or has not begun to deliver. -/
def Phase.isResting {κ : Type} (asleep : κ → Bool) : Phase κ → Bool
  | .delivering d => d.callback.any asleep
  | _ => true

/-- The moves that were made, and the workers that are being polled. -/
structure Polling (κ : Type) where
  moves : List (Move κ) := []
  polled : List WorkerId := []

namespace Polling

variable {κ : Type}

def system (n : Polling κ) : System κ := (Chronicle.run n.moves).system

/-- The worker, if there is one, has to wait. -/
def rests (asleep : κ → Bool) (n : Polling κ) (w : WorkerId) : Bool :=
  (n.system.workers.find? w).all fun a => a.phase.isResting asleep

/-- A worker is not stopped in a callback while it is polled. -/
def mayMove (n : Polling κ) (w : WorkerId) : WorkerMove κ → Bool
  | .abort => true
  | .stop => !((n.system.workers.find? w).any (·.phase.callback?.isSome) && n.polled.contains w)
  | _ => n.polled.contains w

def allows (n : Polling κ) : Move κ → Bool
  | .worker w m => n.mayMove w m
  | _ => true

def next (asleep : κ → Bool) (n : Polling κ) : Instant κ → Polling κ
  | .move m => if n.allows m then { n with moves := n.moves ++ [m] } else n
  | .poll w => { n with polled := w :: n.polled }
  | .pend w => if n.rests asleep w then { n with polled := n.polled.filter (· ≠ w) } else n

/-- What is made of several instants. -/
def run (asleep : κ → Bool) (is : List (Instant κ)) : Polling κ := is.foldl (next asleep) {}

lemma run_concat (asleep : κ → Bool) (is : List (Instant κ)) (i : Instant κ) :
    run asleep (is ++ [i]) = (run asleep is).next asleep i := by
  simp only [run, List.foldl_append, List.foldl_cons, List.foldl_nil]

end Polling

/-! ## Workers in moves -/

namespace System

variable {κ : Type} {s s' : System κ} {v w : WorkerId} {a' b : Worker κ}

/-- A worker that stops does so because it may, and ends. -/
lemma moveWorker_stop_eq_some (made : s.moveWorker w b b.phase .stop = some s') :
    s.mayStop b = true ∧ s' = s.finish w b := by
  simp only [moveWorker] at made
  split at made
  · next may => exact ⟨may, (Option.some.inj made).symm⟩
  · cases made

lemma workers_finish (s : System κ) (w : WorkerId) (b : Worker κ) :
    (s.finish w b).workers = s.workers.erase w := by
  simp only [finish, endDelivery]
  split <;> rfl

/-- A worker that is there after a move of a worker was there before, and has gone on to another
phase only if the move is its own and not about stopping. -/
lemma worker_moveWorker {m : WorkerMove κ} (made : s.moveWorker v b b.phase m = some s')
    (found' : s'.workers.find? w = some a') :
    ∃ a, s.workers.find? w = some a ∧ a'.gate = a.gate ∧ a'.token = a.token ∧
      ((w = v ∧ m ≠ .abort ∧ m ≠ .stop) ∨ a'.phase = a.phase) := by
  by_cases stop : m = .stop
  · subst stop
    obtain ⟨-, rfl⟩ := moveWorker_stop_eq_some made
    rw [workers_finish, Table.find?_erase] at found'
    split at found'
    · cases found'
    · exact ⟨a', found', rfl, rfl, .inr rfl⟩
  · by_cases abort : m = .abort
    · subst abort
      simp only [moveWorker, Option.some.injEq] at made
      subst made
      simp only [System.abort, Table.find?_modify] at found'
      split at found'
      · obtain ⟨a, found, rfl⟩ := Option.map_eq_some_iff.mp found'
        exact ⟨a, found, rfl, rfl, .inr rfl⟩
      · exact ⟨a', found', rfl, rfl, .inr rfl⟩
    · obtain ⟨-, ⟨phase, goesOn⟩ | ⟨same, -⟩ | ⟨-, gone⟩⟩ := moveWorker_cases made
      · rw [goesOn, Table.find?_modify] at found'
        split at found'
        · next hw =>
          obtain ⟨a, found, rfl⟩ := Option.map_eq_some_iff.mp found'
          exact ⟨a, found, rfl, rfl, .inl ⟨hw, abort, stop⟩⟩
        · exact ⟨a', found', rfl, rfl, .inr rfl⟩
      · exact absurd same abort
      · rw [gone, Table.find?_erase] at found'
        split at found'
        · cases found'
        · exact ⟨a', found', rfl, rfl, .inr rfl⟩

/-- A worker that is there after something was done to a gate is new, or was there. -/
lemma worker_moveGate {g : GateId} {m : GateMove} (made : s.moveGate g m = some s')
    (found' : s'.workers.find? w = some a') :
    s.workers.find? w = some a' ∨ w = s.nextWorker ∧ a'.phase = .unstarted := by
  obtain ⟨f, rfl, _⟩ | ⟨t, _, _, rfl⟩ := moveGate_cases made
  · exact .inl found'
  · simp only [addWorker, Table.find?_insert] at found'
    split at found'
    · next new =>
      cases found'
      exact .inr ⟨new, rfl⟩
    · exact .inl found'

/-- What is done to a system before a worker is found as it is now. -/
lemma worker_move {m : Move κ} (made : s.move m = some s')
    (found' : s'.workers.find? w = some a') :
    (∃ a, s.workers.find? w = some a ∧ a'.gate = a.gate ∧ a'.token = a.token ∧
      ((∃ n, m = .worker w n ∧ n ≠ .abort ∧ n ≠ .stop) ∨ a'.phase = a.phase)) ∨
      w = s.nextWorker ∧ a'.phase = .unstarted := by
  have same : s.workers.find? w = some a' →
      (∃ a, s.workers.find? w = some a ∧ a'.gate = a.gate ∧ a'.token = a.token ∧
        ((∃ n, m = .worker w n ∧ n ≠ .abort ∧ n ≠ .stop) ∨ a'.phase = a.phase)) ∨
        w = s.nextWorker ∧ a'.phase = .unstarted :=
    fun found => .inl ⟨a', found, rfl, rfl, .inr rfl⟩
  cases m with
  | create name capacity bus =>
    cases made
    exact same found'
  | remove g =>
    simp only [move] at made
    split at made
    · cases made
    · cases made
      exact same found'
  | gate g m =>
    obtain found | new := worker_moveGate made found'
    · exact same found
    · exact .inr new
  | worker v m =>
    simp only [move, Option.bind_eq_some_iff] at made
    obtain ⟨b, _, made⟩ := made
    obtain ⟨a, found, gate, token, ⟨rfl, abort, stop⟩ | phase⟩ := worker_moveWorker made found'
    · exact .inl ⟨a, found, gate, token, .inl ⟨m, rfl, abort, stop⟩⟩
    · exact .inl ⟨a, found, gate, token, .inr phase⟩
  | cancel t =>
    cases made
    exact same found'
  | side m =>
    cases made
    rw [(s.alike_moveSide m).workers] at found'
    exact same found'

end System

namespace Chronicle

variable {κ : Type} {c : Chronicle κ} {w : WorkerId} {a' : Worker κ}

/-- A worker that is there after a move is new, or was there. -/
lemma worker_next {m : Move κ} (found' : (c.next m).system.workers.find? w = some a') :
    (∃ a, c.system.workers.find? w = some a ∧ a'.gate = a.gate ∧ a'.token = a.token ∧
      ((∃ n, m = .worker w n ∧ n ≠ .abort ∧ n ≠ .stop) ∨ a'.phase = a.phase)) ∨
      w = c.system.nextWorker ∧ a'.phase = .unstarted := by
  simp only [next] at found'
  split at found'
  · exact .inl ⟨a', found', rfl, rfl, .inr rfl⟩
  · next s made => exact System.worker_move made found'

end Chronicle

/-! ## Who is not polled waits -/

namespace Polling

variable {κ : Type} {asleep : κ → Bool} {n : Polling κ}

/-- A worker that is not being polled has to wait. -/
def Rests (asleep : κ → Bool) (n : Polling κ) : Prop :=
  ∀ w a, w ∉ n.polled → n.system.workers.find? w = some a → a.phase.isResting asleep = true

lemma Rests.next (h : Rests asleep n) (i : Instant κ) : Rests asleep (n.next asleep i) := by
  intro w a' idle found'
  cases i with
  | poll v =>
    rw [Polling.next, List.mem_cons, not_or] at idle
    exact h w a' idle.2 found'
  | pend v =>
    simp only [Polling.next] at idle found'
    split at idle
    · next waits =>
      rw [if_pos waits] at found'
      by_cases hw : w = v
      · subst hw
        have found : n.system.workers.find? w = some a' := found'
        simpa only [rests, found, Option.all_some] using waits
      · apply h w a' _ found'
        intro polled
        exact idle (List.mem_filter.mpr ⟨polled, by simpa using hw⟩)
    · next going =>
      rw [if_neg going] at found'
      exact h w a' idle found'
  | move m =>
    simp only [Polling.next] at idle found'
    split at idle
    · next allowed =>
      rw [if_pos allowed, system, Chronicle.run_concat] at found'
      obtain ⟨a, found, _, _, ⟨m, rfl, abort, stop⟩ | phase⟩ | ⟨_, phase⟩ :=
        Chronicle.worker_next found'
      · -- such a move is made in a poll
        have polled : n.polled.contains w = true := by
          cases m with
          | abort => exact absurd rfl abort
          | stop => exact absurd rfl stop
          | _ => exact allowed
        exact absurd (List.contains_iff_mem.mp polled) idle
      · rw [phase]
        exact h w a idle found
      · rw [phase]
        rfl
    · next refused =>
      rw [if_neg refused] at found'
      exact h w a' idle found'

/-- After every run those that are not being polled wait. -/
lemma run_rests (asleep : κ → Bool) (is : List (Instant κ)) : Rests asleep (run asleep is) := by
  induction is using List.reverseRecOn with
  | nil =>
    intro w a _ found
    cases found
  | append_singleton is i ih =>
    rw [run_concat]
    exact ih.next i

/-- A worker that is stopped in a callback is stopped where the callback is suspended. -/
theorem run_heeds (asleep : κ → Bool) (is : List (Instant κ)) {before : List (Move κ)}
    {w : WorkerId} {a : Worker κ} {e : Event} {k : κ} {xs : List ListenerId}
    (part : before ++ [.worker w .stop] <+: (run asleep is).moves)
    (found : (Chronicle.run before).system.workers.find? w = some a)
    (phase : a.phase = .delivering ⟨e, some k, xs⟩) : asleep k = true := by
  induction is using List.reverseRecOn with
  | nil =>
    have none := List.prefix_nil.mp part
    simp at none
  | append_singleton is i ih =>
    rw [run_concat] at part
    cases i with
    | poll v => exact ih part
    | pend v =>
      simp only [next] at part
      split at part
      · exact ih part
      · exact ih part
    | move m =>
      simp only [next] at part
      split at part
      · next allowed =>
        obtain same | earlier := List.prefix_concat_iff.mp part
        · obtain ⟨rfl, last⟩ := List.append_inj' same rfl
          cases List.singleton_inj.mp last
          have found : (run asleep is).system.workers.find? w = some a := found
          have idle : w ∉ (run asleep is).polled := by
            intro polled
            simp [allows, mayMove, found, phase, Phase.callback?, polled] at allowed
          have waits := run_rests asleep is w a idle found
          rw [phase] at waits
          exact waits
        · exact ih earlier
      · exact ih part

end Polling

end EventGates

import EventGates.Proofs.Host.Courses
import EventGates.Script.Run

/-!
# Courses of scripts

A session is lawful if its system is, with the dispatchers that the script holds by name. Every
command and every action of a callback keeps a session lawful, and leaves the workers that are in
callbacks there. Most do so because they do nothing else to the system than a course of things does;
those that hand a dispatcher out, drop it or put it to work change who holds it as well.
-/

namespace EventGates.Script.Session

/-- The queues that are handed out are with workers or with dispatchers that the script holds. -/
def Lawful (s : Session) : Prop := s.system.Lawful s.names.dispatchers

/-- A course of things in a session. -/
def Goes (s s' : Session) : Prop := s.Lawful → s'.Lawful ∧ s.system.Steady s'.system

variable {s s' s'' : Session}

namespace Goes

lemma refl (s : Session) : s.Goes s := fun h => ⟨h, .of_workers rfl fun _ => id⟩

lemma trans (h : s.Goes s') (h' : s'.Goes s'') : s.Goes s'' := by
  intro lawful
  obtain ⟨lawful', steady⟩ := h lawful
  obtain ⟨lawful'', steady'⟩ := h' lawful'
  exact ⟨lawful'', steady.trans steady'⟩

/-- The held dispatchers stay the same. -/
lemma of_system (course : s.system.Goes s'.system)
    (names : s'.names.dispatchers = s.names.dispatchers) : s.Goes s' := by
  intro lawful
  obtain ⟨lawful', steady⟩ := course _ lawful
  refine ⟨?_, steady⟩
  show s'.system.Lawful s'.names.dispatchers
  rw [names]
  exact lawful'

/-- Nothing is done to the system, and the held dispatchers stay the same. -/
lemma of_eq (system : s'.system = s.system)
    (names : s'.names.dispatchers = s.names.dispatchers) : s.Goes s' := by
  refine .of_system ?_ names
  rw [system]
  exact .refl s.system

end Goes

/-! ## Sessions around a system -/

/-- A course in the system. -/
lemma goes_onSystem {change : System Callback → System Callback}
    (course : s.system.Goes (change s.system)) : s.Goes (s.onSystem change) :=
  .of_system course rfl

lemma goes_makeEvent (s : Session) (d : Draft) : s.Goes (s.makeEvent d).1 :=
  .of_system (s.system.goes_makeEvent d) rfl

lemma goes_makeEvents (s : Session) (ds : List Draft) : s.Goes (s.makeEvents ds).1 :=
  .of_system (System.goes_makeEvents ds s.system) rfl

/-- The table of a name is there, or it is made. -/
lemma goes_table (s : Session) (key : String) : s.Goes (s.table key).1 := by
  simp only [table]
  split
  · exact .refl s
  · exact .of_system (s.system.goes_side .addTable) rfl

lemma goes_addToken (s : Session) (cancelled : Bool) : s.Goes (s.addToken cancelled).1 := by
  have token := s.system.goes_side .addToken
  cases cancelled with
  | false => exact .of_system token rfl
  | true => exact .of_system (token.trans (System.goes_cancel _ _)) rfl

lemma goes_cancel (s : Session) (key : String) : s.Goes (s.cancel key) := by
  simp only [cancel]
  split
  · exact .refl s
  · exact goes_onSystem (System.goes_cancel _ _)

/-! ## Objects by name -/

variable {next : GateId → Session × Answer}

lemma goes_withGate (key : String) (each : ∀ g, s.Goes (next g).1) :
    s.Goes (s.withGate key next).1 := by
  simp only [withGate]
  split
  · exact .refl s
  · exact each _

lemma goes_withGates {next : GateId → GateId → Session × Answer} (a b : String)
    (each : ∀ a b, s.Goes (next a b).1) : s.Goes (s.withGates a b next).1 :=
  goes_withGate a fun a => goes_withGate b fun b => each a b

lemma goes_withListener {next : GateId → ListenerId → Session × Answer} (gate listener : String)
    (each : ∀ g x, s.Goes (next g x).1) : s.Goes (s.withListener gate listener next).1 := by
  refine goes_withGate gate fun g => ?_
  split
  · exact .refl s
  · exact each g _

lemma goes_withHost {next : Host → Session × Answer} (key : String)
    (each : ∀ h, s.Goes (next h).1) : s.Goes (s.withHost key next).1 := by
  simp only [withHost]
  split
  · exact .refl s
  · exact each _

lemma goes_onGate (s : Session) (key : String) (answer : Gate → Answer) :
    s.Goes (s.onGate key answer).1 := by
  refine goes_withGate key fun g => ?_
  split <;> exact .refl s

/-! ## Commands -/

lemma goes_drain (s : Session) (key : String) (answer : Bool → List Reading → Answer) :
    s.Goes (s.drain key answer).1 := by
  simp only [drain]
  split
  · exact .refl s
  · split
    · exact .refl s
    · exact .of_eq rfl rfl

lemma goes_performBus (s : Session) (c : BusCommand) : s.Goes (s.performBus c).1 := by
  cases c with
  | create key capacity =>
    exact .of_system (s.system.goes_side (.addBus (capacity.getD Bus.defaultCapacity))) rfl
  | drop key => exact .of_eq rfl rfl
  | subscribe key bus =>
    simp only [performBus]
    split
    · exact .refl s
    · exact .of_eq rfl rfl
  | publish bus finding => exact goes_onSystem (s.system.goes_side (.publish _ finding))
  | drain key => exact s.goes_drain key _
  | drainByGate key => exact s.goes_drain key _

lemma goes_performGate (s : Session) (c : GateCommand) : s.Goes (s.performGate c).1 := by
  cases c with
  | create key spec => exact .of_system (s.system.goes_create _ _ _) rfl
  | drop key => exact .of_eq rfl rfl
  | watch key gate => exact .of_eq rfl rfl
  | find key =>
    simp only [performGate]
    split <;> exact .refl s
  | link a b =>
    refine goes_withGates a b fun a b => ?_
    have linked := s.system.goes_side (.link a b)
    cases made : s.system.fabric.link a b with
    | error g => exact .refl s
    | ok result =>
      simp only [System.moveSide, System.onFabric, made] at linked
      exact .of_system linked rfl
  | unlink a b =>
    exact goes_withGates a b fun a b => .of_system (s.system.goes_side (.unlink a b)) rfl
  | unlinkAll key =>
    exact goes_withGate key fun g => .of_system (s.system.goes_side (.unlinkAll g)) rfl
  | linked a b => exact goes_withGates a b fun _ _ => .refl s
  | same a b => exact goes_withGates a b fun _ _ => .refl s
  | partners key => exact goes_withGate key fun _ => .refl s
  | counters key => exact s.goes_onGate key _
  | state key =>
    refine goes_withGate key fun g => ?_
    split <;> exact .refl s
  | states => exact .refl s
  | describe key => exact s.goes_onGate key _
  | post key d =>
    exact (s.goes_makeEvent d).trans
      (goes_withGate key fun g => goes_onSystem (System.goes_post _ g _))
  | postLocal key d =>
    exact (s.goes_makeEvent d).trans
      (goes_withGate key fun g => goes_onSystem (System.goes_offer _ g _))
  | postBatch key ds =>
    exact (s.goes_makeEvents ds).trans
      (goes_withGate key fun g => goes_onSystem (System.goes_postBatch _ g _))
  | postRepeatedly key d times =>
    exact (s.goes_makeEvent d).trans
      (goes_withGate key fun g => goes_onSystem (System.goes_postRepeatedly _ g _ times))

/-- The callback of a worker changes, if it is in one. -/
lemma goes_onCallback (s : Session) (w : WorkerId) (change : Callback → Callback) :
    s.Goes (s.onCallback w change) := by
  refine goes_onSystem (s.system.goes_callback w change ?_ ?_)
  · intro a e k xs phase
    simp only [phase, Option.map_some]
  · intro a free
    split
    · next d phase =>
      obtain ⟨e, callback, xs⟩ := d
      cases callback with
      | none => exact congrArg (fun p => { a with phase := p }) phase.symm
      | some k => exact absurd phase (free e k xs)
    · rfl

lemma goes_release (s : Session) (key : String) : s.Goes (s.release key) := by
  simp only [release]
  split
  · exact .of_eq rfl rfl
  · next stored w ws _ =>
    have stored : s.Goes { s with signals := s.signals.insert key ⟨stored, ws⟩ } := .of_eq rfl rfl
    exact stored.trans (goes_onCallback _ w _)

lemma goes_changeRegistry (s : Session) (key : String)
    (change : Registry ListenerId → Registry ListenerId × Option Mutation) :
    s.Goes (s.changeRegistry key change).1 := by
  simp only [changeRegistry]
  split
  · exact .refl s
  · exact .of_eq rfl rfl

lemma goes_changeRegistryBy (s : Session) (key listener : String)
    (change : Registry ListenerId → ListenerId → Registry ListenerId × Mutation) :
    s.Goes (s.changeRegistryBy key listener change).1 := by
  simp only [changeRegistryBy]
  split
  · exact .refl s
  · exact s.goes_changeRegistry key _

lemma goes_performListener (s : Session) (c : ListenerCommand) :
    s.Goes (s.performListener c).1 := by
  cases c with
  | add gate listener =>
    exact goes_withListener gate listener fun g x =>
      .of_system (s.system.goes_change g (.add x)) rfl
  | remove gate listener =>
    exact goes_withListener gate listener fun g x =>
      .of_system (s.system.goes_change g (.remove x)) rfl
  | clear gate =>
    exact goes_withGate gate fun g => goes_onSystem (s.system.goes_change g .clear)
  | count gate => exact s.goes_onGate gate _
  | name listener =>
    simp only [performListener]
    split <;> exact .refl s
  | createRegistry key => exact .of_eq rfl rfl
  | enlist key listener => exact s.goes_changeRegistryBy key listener _
  | delist key listener => exact s.goes_changeRegistryBy key listener _
  | clearRegistry key => exact s.goes_changeRegistry key _
  | release key => exact s.goes_release key

/-! ## Dispatchers that are held -/

lemma goes_dropDispatcher (s : Session) (key : String) : s.Goes (s.dropDispatcher key) := by
  simp only [dropDispatcher]
  split
  · exact .refl s
  · next g found =>
    intro h
    exact ⟨System.Lawful.release h found, .of_workers rfl fun _ => id⟩

/-- A dispatcher is handed out and takes the place of another that is held under the name. -/
lemma goes_handOut {key : String} {g : GateId} {f : Fabric}
    (made : s.system.fabric.handOut g = some f) :
    s.Goes (((s.onFabric fun _ => f).dropDispatcher key).onNames fun n =>
      { n with dispatchers := n.dispatchers.insert key g }) := by
  intro h
  cases found : s.names.dispatchers.find? key with
  | none =>
    have kept : (s.onFabric fun _ => f).dropDispatcher key = s.onFabric fun _ => f := by
      simp only [dropDispatcher, onFabric, onSystem, found]
    rw [kept]
    exact ⟨System.Lawful.handOut h made found, .of_workers rfl fun _ => id⟩
  | some old =>
    have dropped : (s.onFabric fun _ => f).dropDispatcher key =
        ((s.onFabric fun _ => f).onFabric (·.endDispatch old)).onNames fun n =>
          { n with dispatchers := n.dispatchers.erase key } := by
      simp only [dropDispatcher, onFabric, onSystem, found]
    rw [dropped]
    exact ⟨System.Lawful.handOut_replacing h made found, .of_workers rfl fun _ => id⟩

/-- A dispatcher that is held is put to work. -/
lemma goes_engage {key : String} {g : GateId} (found : s.names.dispatchers.find? key = some g)
    (t : TokenId) :
    s.Goes ((s.onSystem fun sys => (sys.addWorker g t).1).onNames fun n =>
      { n with dispatchers := n.dispatchers.erase key }) := by
  intro h
  exact ⟨System.Lawful.engage h found t, System.steady_addWorker h.newWorker g t⟩

lemma goes_performWorker (s : Session) (c : WorkerCommand) : s.Goes (s.performWorker c).1 := by
  cases c with
  | handOut key =>
    refine goes_withGate key fun g => ?_
    cases made : s.system.fabric.handOut g with
    | none => exact .refl s
    | some f => exact goes_handOut made
  | drop key => exact s.goes_dropDispatcher key
  | run key cancelled =>
    cases found : s.names.dispatchers.find? key with
    | none =>
      simp only [performWorker, found]
      exact .refl s
    | some g =>
      have token := s.goes_addToken cancelled
      have still : (s.addToken cancelled).1.names.dispatchers.find? key = some g := found
      simp only [performWorker, found]
      exact token.trans ((goes_engage still _).trans (.of_eq rfl rfl))
  | start key cancelled =>
    refine goes_withGate key fun g => (s.goes_addToken cancelled).trans ?_
    cases spawned : (s.addToken cancelled).1.system.spawn g (s.addToken cancelled).2 with
    | error e =>
      simp only [spawned]
      exact .refl _
    | ok result =>
      simp only [spawned]
      exact .of_system (System.goes_spawn spawned) rfl
  | cancel key => exact s.goes_cancel key

/-! ## Endpoints, remote gates and hosts -/

lemma goes_request (s : Session) (spec : RequestSpec) : s.Goes (s.request spec).1 := by
  cases body : spec.body with
  | bytes bs =>
    simp only [request, body]
    exact .refl s
  | event d =>
    simp only [request, body]
    exact s.goes_makeEvent d

lemma goes_register (s : Session) (t : TableId) (path text : String) :
    s.Goes (s.register t path text).1 := by
  simp only [register]
  split
  · exact .refl s
  · next registered => exact .of_system (System.goes_register registered) rfl

lemma goes_unregister (s : Session) (t : TableId) (path : String) :
    s.Goes (s.unregister t path).1 :=
  .of_system (s.system.goes_side (.unregister t path)) rfl

lemma goes_performEndpoint (s : Session) (c : EndpointCommand) :
    s.Goes (s.performEndpoint c).1 := by
  cases c with
  | register key path text => exact (s.goes_table key).trans (goes_register _ _ path text)
  | unregister key path => exact (s.goes_table key).trans (goes_unregister _ _ path)
  | paths key => exact s.goes_table key
  | request key spec =>
    have asked := (s.goes_table key).trans (goes_request _ spec)
    exact asked.trans (.of_system (System.goes_route _ _ _) rfl)

lemma goes_performRemote (s : Session) (c : RemoteCommand) : s.Goes (s.performRemote c).1 := by
  cases c with
  | create key table spec =>
    refine (s.goes_table table).trans ?_
    simp only [performRemote]
    split
    · exact .refl _
    · next built => exact .of_system (RemoteGate.goes_build _ _ _ rfl built) rfl
  | describe key =>
    simp only [performRemote]
    split <;> exact .refl s
  | terminate key =>
    simp only [performRemote]
    split
    · exact .refl s
    · next r _ => exact .of_system (r.goes_terminate s.system) rfl

lemma goes_dropHost (s : Session) (key : String) : s.Goes (s.dropHost key) := by
  simp only [dropHost]
  split
  · exact .refl s
  · next h _ => exact .of_system (h.goes_dispose s.system) rfl

lemma goes_beginShutdown (s : Session) (key : String) (h : Host) :
    s.Goes (s.beginShutdown key h).1 :=
  .of_system (h.goes_beginShutdown s.system) rfl

lemma goes_performHost (s : Session) (c : HostCommand) : s.Goes (s.performHost c).1 := by
  cases c with
  | create key spec =>
    have built : ∀ (s : Session) (t : Option TableId),
        s.Goes ((s.onSystem fun sys => (Host.build sys spec.config t).1).dropHost key) := by
      intro s t
      have course := Host.goes_build s.system spec.config t
      exact (goes_onSystem course).trans (goes_dropHost _ key)
    cases table : spec.endpoints with
    | none =>
      simp only [performHost, table]
      exact (built s none).trans (.of_eq rfl rfl)
    | some name =>
      simp only [performHost, table]
      exact (s.goes_table name).trans ((built _ _).trans (.of_eq rfl rfl))
  | subscribe key host =>
    refine goes_withHost host fun h => ?_
    split
    · exact .refl s
    · exact .of_eq rfl rfl
  | createGate host key name =>
    refine goes_withHost host fun h => ?_
    split
    · exact .refl s
    · next made =>
      have course := Host.goes_createGate made
      dsimp only
      split <;> exact .of_system course rfl
  | createRemote host key name mode custom =>
    refine goes_withHost host fun h => ?_
    split
    · exact .refl s
    · next made => exact .of_system (Host.goes_createRemote made) rfl
  | gates host => exact goes_withHost host fun _ => .refl s
  | remotes host => exact goes_withHost host fun _ => .refl s
  | start host =>
    refine goes_withHost host fun h => ?_
    have course := h.goes_start s.system
    generalize h.start s.system = result at course ⊢
    obtain ⟨system, h, outcome⟩ := result
    cases outcome with
    | error e => exact .of_system course rfl
    | ok u => exact .of_system course rfl
  | release host => exact goes_withHost host fun h => s.goes_beginShutdown host h
  | drop host => exact s.goes_dropHost host
  | register host path => exact goes_withHost host fun h => s.goes_register h.table path path
  | unregister host path => exact goes_withHost host fun h => s.goes_unregister h.table path

/-! ## All commands -/

lemma goes_performHeld (s : Session) (c : Command) : s.Goes (s.performHeld c).1 := by
  cases c with
  | bus c => exact s.goes_performBus c
  | gate c => exact s.goes_performGate c
  | define key program => exact .of_eq rfl rfl
  | listener c => exact s.goes_performListener c
  | worker c => exact s.goes_performWorker c
  | endpoint c => exact s.goes_performEndpoint c
  | remote c => exact s.goes_performRemote c
  | host c => exact s.goes_performHost c

/-- What is handed out is held. -/
lemma Lawful.mem_heldGates (h : s.Lawful) {g : GateId} (out : s.system.isOut g = true) :
    g ∈ s.heldGates := by
  simp only [heldGates, List.mem_append]
  obtain served | ⟨key, found⟩ := h.custody.owned g out
  · obtain ⟨w, a, found, rfl⟩ := System.isServed_iff.mp served
    have worker := List.mem_map_of_mem (f := Worker.gate) (Table.mem_values_of_find? found)
    exact .inl (.inl (.inr worker))
  · have named := Table.mem_values_of_find? found
    exact .inl (.inl (.inl (.inr named)))

/-- Gates that nothing holds go away. -/
lemma goes_collect (s : Session) : s.Goes s.collect := by
  intro h
  refine goes_onSystem (System.goes_removeEach ?_) h
  intro g gone
  cases out : s.system.isOut g with
  | false => rfl
  | true =>
    have unheld := (List.mem_filter.mp gone).2
    simp [h.mem_heldGates out] at unheld

/-- Workers join the line. -/
lemma goes_awaken (s : Session) (first : List WorkerId) : s.Goes (s.awaken first) :=
  .of_eq rfl rfl

lemma goes_perform (s : Session) (c : Command) : s.Goes (s.perform c).1 :=
  (s.goes_performHeld c).trans ((goes_collect _).trans (goes_awaken _ _))

/-! ## Callbacks -/

lemma goes_note (s : Session) (o : Occurrence) : s.Goes (s.note o) := .of_eq rfl rfl

lemma goes_call (s : Session) (x : ListenerId) (e : Event) : s.Goes (s.call x e).1 := by
  simp only [call]
  split <;> exact .of_eq rfl rfl

lemma goes_takeStored {key : String} (h : s.takeStored key = some s') : s.Goes s' := by
  simp only [takeStored] at h
  split at h
  · cases h
    exact .of_eq rfl rfl
  · cases h

/-- An action of a callback. -/
lemma goes_act (s : Session) (w : Option WorkerId) (f : Frame) (fs : List Frame) (a : Action) :
    s.Goes (s.act w f fs a).1 := by
  cases a with
  | panic message => exact .refl s
  | wait key =>
    simp only [act]
    split
    · next taken => exact (goes_takeStored taken).trans (goes_note _ _)
    · cases w with
      | none => exact .refl s
      | some w => exact .of_eq rfl rfl
  | block key => exact .refl s
  | deliver listener d =>
    refine (s.goes_makeEvent d).trans ?_
    simp only [act]
    split
    · exact goes_note _ _
    · exact goes_call _ _ _
  | perform c => exact (s.goes_perform c).trans (goes_note _ _)

/-- A step of a callback that is not suspended. -/
lemma goes_stepFrames (s : Session) (w : Option WorkerId) (fs : List Frame) :
    s.Goes (s.stepFrames w fs).1 := by
  cases fs with
  | nil => exact .refl s
  | cons f fs =>
    cases actions : f.actions with
    | cons a rest =>
      simp only [stepFrames, actions]
      exact s.goes_act w _ fs a
    | nil =>
      simp only [stepFrames, actions]
      cases fs with
      | nil => exact .refl s
      | cons outer fs => exact s.goes_note _

lemma goes_resume (s : Session) (label key : String) (fs : List Frame) :
    s.Goes (s.resume label key fs).1 := by
  cases fs with
  | nil => exact .refl s
  | cons f fs => exact s.goes_note _

/-- A step of a callback. -/
lemma goes_stepCallback {w : Option WorkerId} {c : Callback} {progress : Progress}
    (h : s.stepCallback w c = some (s', progress)) : s.Goes s' := by
  have ran := s.goes_stepFrames w c.frames
  have resumed := fun label key => s.goes_resume label key c.frames
  simp only [stepCallback] at h
  split at h
  · rw [Option.some.inj h] at ran
    exact ran
  · next key _ =>
    have resumed := resumed "wait" key
    rw [Option.some.inj h] at resumed
    exact resumed
  · next key _ =>
    have resumed := resumed "block" key
    rw [Option.some.inj h] at resumed
    exact resumed
  · cases h

/-- A callback outside any delivery. -/
lemma goes_runCallback (steps : Nat) (c : Callback) (s : Session) :
    s.Goes (runCallback steps c s) := by
  induction steps generalizing c s with
  | zero => exact .refl s
  | succ n ih =>
    simp only [runCallback]
    split
    · next made => exact (goes_stepCallback made).trans (ih _ _)
    · next made => exact goes_stepCallback made
    · exact .refl s

/-- A worker gives up waiting. -/
lemma goes_giveUp (s : Session) (w : WorkerId) (p : Pause) : s.Goes (s.giveUp w p) := by
  simp only [giveUp]
  split
  · exact s.goes_release _
  · exact .of_eq rfl rfl
  · exact .refl s

/-- The callbacks that hold their threads under a key are opened. -/
lemma goes_unblock (s : Session) (key : String) : s.Goes (s.unblock key) := by
  have each : ∀ (ws : List WorkerId) (s : Session) (change : Callback → Callback),
      s.Goes (ws.foldl (fun s w => s.onCallback w change) s) := by
    intro ws
    induction ws with
    | nil => exact fun s _ => .refl s
    | cons w ws ih => exact fun s change => (s.goes_onCallback w change).trans (ih _ change)
  exact each _ s _

end EventGates.Script.Session

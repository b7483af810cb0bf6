import EventGates.Proofs.Config.Overrides
import EventGates.Proofs.Host.Company

/-!
# Capacities that can be had

The places of a queue or a bus are reserved when it is made. There must be one at least, which hosts see
to, and no more than a limit, which nobody sees to (`Capacity.reserve`): whoever asks for more panics. So
a host can be built and makes its gates at any time exactly if its settings ask for no more than the
limits (`Service.operable_iff`). Of environments that is so unless the text of a capacity is a numeral
beyond the limit that still fits into a word (`Service.operable_ofEnvironment_iff`); such a text is
accepted without a warning.

Memory is taken to suffice for whatever is within the limits; how large a bus fits into it is a matter
of the machine.
-/

namespace EventGates

/-- One place at least can be had exactly up to the limit. -/
lemma Capacity.reserve_max_one {limit : Nat} (some : 1 ≤ limit) (n : Nat) :
    reserve limit (max n 1) = if n ≤ limit then .ok (max n 1) else .error n := by
  rw [reserve]
  split
  · next fits => rw [if_pos (Nat.le_trans (Nat.le_max_left n 1) fits.2)]
  · next exceeds =>
    have large : limit < n := by omega
    rw [if_neg (Nat.not_le_of_lt large), Nat.max_eq_left (by omega)]

/-- Only the upper limits matter. -/
lemma HostConfig.isBuildable_iff {c : HostConfig} :
    c.isBuildable = true ↔ c.queueCapacity ≤ maxQueueSlots ∧ c.busCapacity ≤ maxBusCapacity := by
  have queue : c.queueSlots ≤ maxQueueSlots ↔ c.queueCapacity ≤ maxQueueSlots := by
    rw [queueSlots, Nat.max_le]
    exact and_iff_left (by decide)
  have bus : c.diagnosticsCapacity.all (· ≤ maxBusCapacity) = true ↔
      c.busCapacity ≤ maxBusCapacity := by
    rw [diagnosticsCapacity]
    split
    · next zero => simp [zero]
    · simp
  rw [isBuildable, Bool.and_eq_true, decide_eq_true_iff, queue, bus]

namespace Host

variable {κ : Type} {h h' : Host} {s s' : System κ}

/-- A host is built unless its bus is asked to keep too many records. -/
lemma tryBuild_eq (s : System κ) (config : HostConfig) (table : Option TableId) :
    tryBuild s config table =
      if config.busCapacity ≤ maxBusCapacity then .ok (build s config table)
      else .error config.busCapacity := by
  by_cases zero : config.busCapacity = 0
  · have absent : config.diagnosticsCapacity = none := if_pos zero
    rw [if_pos (zero ▸ Nat.zero_le _)]
    simp only [tryBuild, build, absent]
    cases table with
    | none => rfl
    | some t => rfl
  · have wanted : config.diagnosticsCapacity = some config.busCapacity := if_neg zero
    have reserved : Capacity.reserve maxBusCapacity (max config.busCapacity 1) =
        if config.busCapacity ≤ maxBusCapacity then .ok config.busCapacity
        else .error config.busCapacity := by
      rw [Capacity.reserve_max_one (by decide), Nat.max_eq_left (Nat.pos_of_ne_zero zero)]
    simp only [tryBuild, build, wanted, reserved]
    split
    · cases table with
      | none => rfl
      | some t => rfl
    · rfl

/-- A gate is made unless its queue is asked to have too many slots. -/
lemma tryCreateGate_eq (h : Host) (s : System κ) (name : String) :
    h.tryCreateGate s name =
      if h.config.queueCapacity ≤ maxQueueSlots then .ok (h.createGate s name)
      else .error h.config.queueCapacity := by
  have slots : max h.config.queueSlots 1 = max h.config.queueCapacity 1 := by
    rw [HostConfig.queueSlots, Nat.max_assoc, Nat.max_self]
  simp only [tryCreateGate, slots, Capacity.reserve_max_one (by decide : 1 ≤ maxQueueSlots)]
  split
  · rfl
  · rfl

/-- A gate that is made is not refused a worker: nobody else can have its queue yet. -/
lemma exists_createGate (h : Host) (s : System κ) (name : String) :
    ∃ made, h.createGate s name = .ok made := by
  cases started : h.started with
  | false =>
    simp only [createGate, started, bind, Except.bind]
    exact ⟨_, rfl⟩
  | true =>
    have free : (s.fabric.addGate (h.newGate name)).1.handOut s.fabric.nextGate =
        some { (s.fabric.addGate (h.newGate name)).1 with
          gates := (s.fabric.gates.insert s.fabric.nextGate (h.newGate name)).insert
            s.fabric.nextGate { h.newGate name with running := true, handedOut := true } } := by
      simp only [Fabric.handOut, Fabric.addGate, Table.find?_insert, if_pos]
      rfl
    have next : (s.fabric.addGate (h.newGate name)).2 = s.fabric.nextGate := rfl
    simp only [createGate, started, spawn, System.spawn, next, free, bind, Except.bind]
    exact ⟨_, rfl⟩

/-! ## The settings of a host -/

lemma config_spawn {g : GateId} (made : h.spawn s g = .ok (s', h')) : h'.config = h.config := by
  obtain ⟨w, -, rfl⟩ := spawn_eq_ok made
  rfl

lemma config_spawn_of_started {g : GateId}
    (made : (if h.started then h.spawn s g else .ok (s, h)) = .ok (s', h')) :
    h'.config = h.config := by
  split at made
  · exact config_spawn made
  · cases made
    rfl

lemma config_createGate {name : String} {g : GateId}
    (made : h.createGate s name = .ok (s', h', g)) : h'.config = h.config := by
  obtain ⟨host, spawned, rfl⟩ := createGate_eq_ok made
  have same := config_spawn_of_started spawned
  exact same

lemma config_createRemote {name : String} {mode : AddressMode} {facts : Facts}
    {catalogue : Wire.Catalogue} {r : RemoteGate}
    (made : h.createRemote s name mode facts catalogue = .ok (s', h', r)) : h'.config = h.config := by
  obtain ⟨built, host, -, spawned, rfl⟩ := createRemote_eq_ok made
  have same := config_spawn_of_started spawned
  exact same

lemma config_spawnEach {gs : List GateId} {e : Option GateError}
    (made : spawnEach gs h s = (s', h', e)) : h'.config = h.config := by
  induction gs generalizing h s with
  | nil =>
    cases made
    rfl
  | cons g gs ih =>
    simp only [spawnEach] at made
    split at made
    · exact ih made
    · split at made
      · cases made
        rfl
      · next spawned => exact (ih made).trans (config_spawn spawned)

lemma config_start (h : Host) (s : System κ) : (h.start s).2.1.config = h.config := by
  simp only [start]
  split
  · rfl
  · split
    · next each => exact config_spawnEach each
    · next each =>
      have same := config_spawnEach each
      exact same

end Host

namespace Service

variable {κ : Type} {v v' : Service κ} {config : HostConfig} {table : Option TableId}

/-- A host keeps its settings. -/
lemma config_step {m : HostMove κ} (made : v.step m = some v') : v'.host.config = v.host.config := by
  cases m with
  | createGate name =>
    simp only [step] at made
    split at made
    · cases made
    · next created =>
      cases made
      exact Host.config_createGate created
  | createRemote name mode facts catalogue =>
    simp only [step] at made
    split at made
    · cases made
    · next created =>
      cases made
      exact Host.config_createRemote created
  | start =>
    obtain rfl := Option.some.inj made
    exact v.host.config_start v.system
  | shutdown =>
    obtain rfl := Option.some.inj made
    rfl
  | giveUp index =>
    obtain ⟨p, -, rfl⟩ := Option.map_eq_some_iff.mp made
    rfl
  | beside m =>
    simp only [step] at made
    split at made
    · obtain ⟨s, -, rfl⟩ := Option.map_eq_some_iff.mp made
      rfl
    · cases made

lemma config_nextAmid (v : Service κ) (m : HostMove κ) :
    (v.nextAmid m).host.config = v.host.config := by
  rw [nextAmid]
  cases made : v.stepAmid m with
  | none => rfl
  | some v' =>
    show v'.host.config = v.host.config
    have own : v.step m = some v' ∨ ∃ s, v' = { v with system := s } := by
      cases m with
      | beside m =>
        simp only [stepAmid] at made
        split at made
        · obtain ⟨s, -, rfl⟩ := Option.map_eq_some_iff.mp made
          exact .inr ⟨s, rfl⟩
        · cases made
      | _ => exact .inl made
    obtain made | ⟨s, rfl⟩ := own
    · exact config_step made
    · rfl

/-- A host keeps its settings along any run. -/
lemma config_foldl_nextAmid (v : Service κ) (ms : List (HostMove κ)) :
    (ms.foldl nextAmid v).host.config = v.host.config := by
  induction ms generalizing v with
  | nil => rfl
  | cons m ms ih => exact (ih _).trans (v.config_nextAmid m)

/-! ## Hosts that work -/

/-- Builds a host in a system without gates, if its bus is not refused. -/
def tryBuild (config : HostConfig) (table : Option TableId) : Except Nat (Service κ) :=
  (Host.tryBuild {} config table).map fun (system, host) => { system, host }

/-- Given memory enough, nothing that a host with these settings asks for is refused: it is built, and it
makes a gate of any name at any time. -/
def Operable (κ : Type) (config : HostConfig) (table : Option TableId) : Prop :=
  ∃ v : Service κ, tryBuild config table = .ok v ∧ ∀ (ms : List (HostMove κ)) (name : String),
    ∃ made, (ms.foldl nextAmid v).host.tryCreateGate (ms.foldl nextAmid v).system name =
      .ok (.ok made)

lemma tryBuild_eq (config : HostConfig) (table : Option TableId) :
    (tryBuild config table : Except Nat (Service κ)) =
      if config.busCapacity ≤ maxBusCapacity then .ok (build config table)
      else .error config.busCapacity := by
  rw [tryBuild, Host.tryBuild_eq]
  split
  · rfl
  · rfl

/-- A host works exactly if its settings ask for no more than can be had. -/
theorem operable_iff : Operable κ config table ↔ config.isBuildable = true := by
  rw [HostConfig.isBuildable_iff]
  constructor
  · rintro ⟨v, built, works⟩
    rw [tryBuild_eq] at built
    split at built
    · next bus =>
      cases built
      obtain ⟨made, first⟩ := works [] ""
      rw [Host.tryCreateGate_eq] at first
      split at first
      · next queue => exact ⟨queue, bus⟩
      · cases first
    · cases built
  · rintro ⟨queue, bus⟩
    refine ⟨build config table, (tryBuild_eq config table).trans (if_pos bus), fun ms name => ?_⟩
    have kept : (ms.foldl nextAmid (build config table : Service κ)).host.config = config :=
      config_foldl_nextAmid _ ms
    rw [Host.tryCreateGate_eq, kept, if_pos queue]
    obtain ⟨made, eq⟩ := Host.exists_createGate _ _ name
    exact ⟨made, congrArg _ eq⟩

end Service

/-! ## Environments -/

/-- No variable gives a capacity that cannot be had. -/
structure Environment.Moderate (env : Environment) : Prop where
  queue : ∀ n : Nat, HostConfig.Setting.queueCapacity.Gives env n → n ≤ maxQueueSlots
  bus : ∀ n : Nat, HostConfig.Setting.busCapacity.Gives env n → n ≤ maxBusCapacity

/-- With a default within a limit, a number is within the limit if what its variable gives is. -/
lemma HostConfig.Kind.getD_le_iff {env : Environment} {key : String} {word limit default : Nat}
    (within : default ≤ limit) :
    (Override.number env key word).value.getD default ≤ limit ↔
      ∀ n : Nat, (∃ stem, env.Holds key stem ∧ (number word).Accepts stem n) → n ≤ limit := by
  have given : ∀ n : Nat, (Override.number env key word).value = some n ↔ _ :=
    fun n => value_override (k := .number word)
  simp only [← given]
  cases (Override.number env key word).value with
  | none => exact iff_of_true within nofun
  | some n => simp

namespace Service

variable {κ : Type}

/-- Under an environment a host works exactly if no variable gives a capacity that cannot be had. -/
theorem operable_ofEnvironment_iff (env : Environment) (table : Option TableId) :
    Operable κ (HostConfig.ofEnvironment env).1 table ↔ env.Moderate := by
  have queue : (HostConfig.ofEnvironment env).1.queueCapacity ≤ maxQueueSlots ↔
      ∀ n : Nat, HostConfig.Setting.queueCapacity.Gives env n → n ≤ maxQueueSlots :=
    HostConfig.Kind.getD_le_iff (by decide)
  have bus : (HostConfig.ofEnvironment env).1.busCapacity ≤ maxBusCapacity ↔
      ∀ n : Nat, HostConfig.Setting.busCapacity.Gives env n → n ≤ maxBusCapacity :=
    HostConfig.Kind.getD_le_iff (by decide)
  rw [operable_iff, HostConfig.isBuildable_iff, queue, bus]
  exact ⟨fun ⟨slots, records⟩ => ⟨slots, records⟩, fun h => ⟨h.queue, h.bus⟩⟩

/-- A host works with the longest queues that can be had and a bus of a million records. -/
example :
    let env : Environment := fun key =>
      match key with
      | "GATEFABRIC_QUEUE_CAPACITY" => some "2305843009213693951"
      | "GATEFABRIC_BUS_CAPACITY" => some "1000000"
      | _ => none
    Operable Unit (HostConfig.ofEnvironment env).1 none :=
  operable_iff.mpr (by decide +kernel)

/-- The greatest word is asked for as the capacity of queues. -/
def vastQueues : Environment := fun key =>
  if key = "GATEFABRIC_QUEUE_CAPACITY" then some "18446744073709551615" else none

/-- Not every environment is one under which hosts work. -/
theorem not_operable_vastQueues :
    ¬∀ (env : Environment) (table : Option TableId),
      Operable Unit (HostConfig.ofEnvironment env).1 table := by
  intro all
  have built := operable_iff.mp (all vastQueues none)
  have refused : (HostConfig.ofEnvironment vastQueues).1.isBuildable = false := by decide +kernel
  rw [refused] at built
  cases built

end Service

end EventGates

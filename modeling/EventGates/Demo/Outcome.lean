import EventGates.Host

/-!
# Outcomes of demonstrations

A demonstration prints lines and succeeds, or it fails before it has printed any. It fails where no host
can be built with its settings, and where the machine that it runs on has no memory for the bus.
-/

namespace EventGates.Demo

/-- What comes of a demonstration. -/
structure Outcome where
  success : Bool
  lines : List String
deriving DecidableEq, Repr

/-- The greatest ring of a bus for which there is memory, whose places are made all at once. No rule of
buses leads to this number; it is what a machine of some gigabytes allows. -/
def maxRingSize : Nat := 0x8000000

/-- There is memory for the diagnostics bus of a host with these settings. -/
def fitsMemory (c : HostConfig) : Bool :=
  c.diagnosticsCapacity.all fun n => Bus.ringSize n ≤ maxRingSize

/-- The outcome of what is printed on a host with the given settings; none if no such host can be
built. -/
def Outcome.of {ε : Type} (config : HostConfig) (printed : Except ε (List String)) : Outcome :=
  match config.isBuildable && fitsMemory config, printed with
  | true, .ok lines => ⟨true, lines⟩
  | _, _ => ⟨false, []⟩

/-- More steps than the workers of a demonstration need. -/
def patience : Nat := 10000

end EventGates.Demo

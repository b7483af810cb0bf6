import EventGates.Config
import EventGates.Proofs.Text.Blanks
import EventGates.Proofs.Text.Numerals
import Mathlib.Data.List.Forall2

/-!
# Settings from the environment

Each of the nine settings has a variable of its own, of one of three kinds (`Setting`, `Kind`). Of the
text of a variable only the stem counts, without the blanks around it (`Environment.Holds`), and what it
gives is laid down by the kind (`Kind.Accepts`): numerals up to a limit, texts that are not empty, or
names of addressing modes. A variable that gives something is what its setting becomes, one that gives
nothing leaves the default, and neither touches any other setting. The variables of numbers and modes
that are set and give nothing are warned about one by one, in the order of the settings
(`ofEnvironment_follows`).

All variables of a kind are read in the same way, so what holds of a variable is proved once for each
kind (`Kind.value_override`, `Kind.warned_override`).
-/

namespace EventGates

/-! ## What variables give -/

/-- A variable is set to a stem with nothing but blanks around it. -/
def Environment.Holds (env : Environment) (key : String) (stem : List Char) : Prop :=
  ∃ raw, env key = some raw ∧ Text.Pads raw.toList stem

/-- The names of a mode in settings. -/
def AddressMode.names : AddressMode → List String
  | .dns => ["dns"]
  | .ipv4 => ["ipv4", "ip4"]
  | .ipv6 => ["ipv6", "ip6"]

/-- A text is a name of a mode in capital or small letters. -/
def AddressMode.IsNamed (m : AddressMode) (cs : List Char) : Prop :=
  ∃ name ∈ m.names, cs.map Char.toLower = name.toList

/-- The report on a text that names no mode. -/
def AddressMode.unnamedReport (cs : List Char) : String :=
  "unknown address mode " ++ Text.quote (String.ofList (cs.map Char.toLower))

namespace HostConfig

/-- What the text of a variable is about. -/
inductive Kind where
  | number (limit : Nat)
  | text
  | mode

namespace Kind

/-- What the text of a variable gives. -/
def Value : Kind → Type
  | .number _ => Nat
  | .text => String
  | .mode => AddressMode

/-- A stem gives a value. -/
def Accepts : (k : Kind) → List Char → k.Value → Prop
  | .number limit, cs, (n : Nat) => Text.IsNumeral cs n ∧ n ≤ limit
  | .text, cs, (s : String) => cs ≠ [] ∧ s.toList = cs
  | .mode, cs, m => AddressMode.IsNamed m cs

/-- The report on a stem that gives nothing; an empty text is not reported. -/
def Blames : Kind → List Char → String → Prop
  | .number limit, cs, cause => ∃ e, Text.FirstFault limit cs e ∧ cause = Text.NumeralError.message e
  | .text, _, _ => False
  | .mode, cs, cause => cause = AddressMode.unnamedReport cs

/-- Reads a variable of the kind. -/
def override (env : Environment) (key : String) : (k : Kind) → Override k.Value
  | .number limit => .number env key limit
  | .text => .text env key
  | .mode => .mode env key

end Kind

/-- The settings that can be overridden. -/
inductive Setting where
  | grace
  | queueCapacity
  | busCapacity
  | basePath
  | port
  | mode
  | advertisedHost
  | connectTimeout
  | requestTimeout
deriving DecidableEq, Repr

namespace Setting

/-- The variable of a setting. -/
def key : Setting → String
  | .grace => "GATEFABRIC_GRACE_MS"
  | .queueCapacity => "GATEFABRIC_QUEUE_CAPACITY"
  | .busCapacity => "GATEFABRIC_BUS_CAPACITY"
  | .basePath => "GATEFABRIC_BASE_PATH"
  | .port => "GATEFABRIC_PORT"
  | .mode => "GATEFABRIC_ADDRESS_MODE"
  | .advertisedHost => "GATEFABRIC_ADVERTISED_HOST"
  | .connectTimeout => "GATEFABRIC_CONNECT_TIMEOUT_MS"
  | .requestTimeout => "GATEFABRIC_REQUEST_TIMEOUT_MS"

def kind : Setting → Kind
  | .grace => .number (UInt64.size - 1)
  | .queueCapacity => .number (UInt64.size - 1)
  | .busCapacity => .number (UInt64.size - 1)
  | .basePath => .text
  | .port => .number (UInt16.size - 1)
  | .mode => .mode
  | .advertisedHost => .text
  | .connectTimeout => .number (UInt64.size - 1)
  | .requestTimeout => .number (UInt64.size - 1)

/-- The value of a setting, if it has one. -/
def get : (s : Setting) → HostConfig → Option s.kind.Value
  | .grace, c => some c.grace
  | .queueCapacity, c => some c.queueCapacity
  | .busCapacity, c => some c.busCapacity
  | .basePath, c => some c.http.basePath
  | .port, c => some c.http.port
  | .mode, c => some c.http.mode
  | .advertisedHost, c => c.http.advertisedHost
  | .connectTimeout, c => some c.http.connectTimeout
  | .requestTimeout, c => some c.http.requestTimeout

/-- The variable of a setting is set, and its stem gives a value. -/
def Gives (s : Setting) (env : Environment) (v : s.kind.Value) : Prop :=
  ∃ stem, env.Holds s.key stem ∧ s.kind.Accepts stem v

/-- The settings whose variables are warned about, in the order in which they are read. -/
def parsed : List Setting :=
  [.grace, .queueCapacity, .busCapacity, .port, .mode, .connectTimeout, .requestTimeout]

/-- Every setting has a variable of its own. -/
lemma key_injective : Function.Injective key := by
  intro s t same
  cases s <;> cases t <;> simp [key] at same ⊢

/-- Reads the variable of a setting. -/
def override (s : Setting) (env : Environment) : Override s.kind.Value := s.kind.override env s.key

end Setting

end HostConfig

/-- The warning about a variable, if any: it is set to a text whose stem is not accepted, and the warning
shows the stem and what is to blame. -/
inductive Override.Warned {α : Type} (accepts : List Char → α → Prop)
    (blames : List Char → String → Prop) (env : Environment) (key : String) :
    Option ConfigWarning → Prop
  | unset (absent : env key = none) : Warned accepts blames env key none
  | quiet {stem a} (held : env.Holds key stem) (accepted : accepts stem a) :
      Warned accepts blames env key none
  | warn {stem cause} (held : env.Holds key stem) (refused : ∀ a, ¬accepts stem a)
      (blamed : blames stem cause) :
      Warned accepts blames env key (some ⟨key, String.ofList stem, cause⟩)

/-! ## Reading one variable -/

/-- The stem of a variable that is set is its trimmed text. -/
lemma Environment.holds_iff {env : Environment} {key raw : String} {stem : List Char}
    (set : env key = some raw) : env.Holds key stem ↔ Text.trim raw.toList = stem := by
  simp only [Holds, set, Option.some.injEq, exists_eq_left', Text.trim_eq_iff]

/-- A variable has one stem at most. -/
lemma Environment.Holds.unique {env : Environment} {key : String} {stem stem' : List Char}
    (held : env.Holds key stem) (held' : env.Holds key stem') : stem = stem' := by
  obtain ⟨raw, set, pads⟩ := held
  exact (Text.trim_eq_iff.mpr pads).symm.trans ((holds_iff set).mp held')

/-- The spellings of a mode are its names. -/
lemma AddressMode.lookup_spellings {text : String} {m : AddressMode} :
    spellings.lookup text = some m ↔ text ∈ m.names := by
  constructor
  · intro found
    obtain ⟨before, after, whole, -⟩ := List.lookup_eq_some_iff.mp found
    have mem : (text, m) ∈ spellings := by
      rw [whole]
      exact List.mem_append_right before List.mem_cons_self
    simp only [spellings, List.mem_cons, Prod.mk.injEq, List.not_mem_nil, or_false] at mem
    obtain ⟨rfl, rfl⟩ | ⟨rfl, rfl⟩ | ⟨rfl, rfl⟩ | ⟨rfl, rfl⟩ | ⟨rfl, rfl⟩ := mem <;> decide
  · intro mem
    cases m with
    | dns =>
      obtain rfl := List.mem_singleton.mp mem
      rfl
    | ipv4 => obtain rfl | rfl := List.mem_pair.mp mem <;> rfl
    | ipv6 => obtain rfl | rfl := List.mem_pair.mp mem <;> rfl

/-- The spelling of a trimmed text differs from it in capital letters only. -/
lemma AddressMode.normalSpelling_trimString (raw : String) :
    normalSpelling (Text.trimString raw) =
      String.ofList ((Text.trim raw.toList).map Char.toLower) := by
  rw [normalSpelling, Text.trimString, String.toList_ofList,
    Text.trim_eq_self Text.head?_trim Text.getLast?_trim]

/-- A trimmed text is read as a mode exactly if it is a name of it. -/
lemma AddressMode.parse?_trimString {raw : String} {m : AddressMode} :
    parse? (Text.trimString raw) = some m ↔ m.IsNamed (Text.trim raw.toList) := by
  rw [parse?, normalSpelling_trimString, lookup_spellings]
  constructor
  · exact fun mem => ⟨_, mem, String.toList_ofList.symm⟩
  · rintro ⟨name, mem, same⟩
    rw [same, String.ofList_toList]
    exact mem

/-- The report on a trimmed text shows it in small letters. -/
lemma AddressMode.unknownMessage_trimString (raw : String) :
    unknownMessage (Text.trimString raw) = unnamedReport (Text.trim raw.toList) :=
  congrArg (fun s => "unknown address mode " ++ Text.quote s) (normalSpelling_trimString raw)

namespace Override

variable {α : Type} {env : Environment} {key : String} {accepts : List Char → α → Prop}
  {blames : List Char → String → Prop} {parse : String → Except String α}

/-- A variable gives what it should, and is warned about if it should be. -/
structure Heeds (accepts : List Char → α → Prop) (blames : List Char → String → Prop)
    (env : Environment) (key : String) (o : Override α) : Prop where
  value : ∀ a, o.value = some a ↔ ∃ stem, env.Holds key stem ∧ accepts stem a
  warning : Warned accepts blames env key o.warning

/-- A variable is heeded if its trimmed text is read as what it is accepted for, and if there is
something to blame for one that cannot be read. -/
lemma heeds_read
    (ok : ∀ raw a, parse (Text.trimString raw) = .ok a ↔ accepts (Text.trim raw.toList) a)
    (error : ∀ raw cause, parse (Text.trimString raw) = .error cause →
      blames (Text.trim raw.toList) cause) : Heeds accepts blames env key (read env key parse) := by
  rw [read]
  cases set : env key with
  | none => exact ⟨by simp [Environment.Holds, set], .unset set⟩
  | some raw =>
    have held : env.Holds key (Text.trim raw.toList) := (Environment.holds_iff set).mpr rfl
    have own : ∀ a, (∃ stem, env.Holds key stem ∧ accepts stem a) ↔
        parse (Text.trimString raw) = .ok a := by
      simp only [Environment.holds_iff set, exists_eq_left', ok, implies_true]
    dsimp only
    cases read : parse (Text.trimString raw) with
    | ok a => exact ⟨fun b => by simp [own, read], .quiet held ((ok raw a).mp read)⟩
    | error cause =>
      refine ⟨fun b => by simp [own, read], .warn held ?_ (error raw cause read)⟩
      intro a accepted
      rw [(ok raw a).mpr accepted] at read
      cases read

/-- Numbers are read as numerals up to their limit. -/
lemma heeds_number (limit : Nat) :
    Heeds (fun cs n => Text.IsNumeral cs n ∧ n ≤ limit)
      (fun cs cause => ∃ e, Text.FirstFault limit cs e ∧ cause = Text.NumeralError.message e) env key
      (number env key limit) := by
  apply heeds_read
  · intro raw n
    have accepted : Text.parseUpTo limit (Text.trimString raw) = .ok n ↔ _ := Text.parseUpTo_eq_ok_iff
    rw [Text.trimString, String.toList_ofList] at accepted
    rw [← accepted, Text.trimString]
    cases Text.parseUpTo limit (String.ofList (Text.trim raw.toList)) with
    | ok m => simp [Except.mapError]
    | error e => simp [Except.mapError]
  · intro raw cause read
    cases parsed : Text.parseUpTo limit (Text.trimString raw) with
    | ok m =>
      rw [parsed] at read
      cases read
    | error e =>
      rw [parsed] at read
      cases read
      have fault := Text.parseUpTo_eq_error_iff.mp parsed
      rw [Text.trimString, String.toList_ofList] at fault
      exact ⟨e, fault, rfl⟩

/-- Modes are read by their names. -/
lemma heeds_mode :
    Heeds (fun cs m => AddressMode.IsNamed m cs) (fun cs cause => cause = AddressMode.unnamedReport cs)
      env key (mode env key) := by
  apply heeds_read
  · intro raw m
    rw [← AddressMode.parse?_trimString]
    cases AddressMode.parse? (Text.trimString raw) with
    | none => simp
    | some _ => simp
  · intro raw cause read
    cases named : AddressMode.parse? (Text.trimString raw) with
    | some m => simp only [named, reduceCtorEq] at read
    | none =>
      simp only [named, Except.error.injEq] at read
      exact read.symm.trans (AddressMode.unknownMessage_trimString raw)

/-- A text that is not empty is what its variable gives. -/
lemma value_text {s : String} :
    (text env key).value = some s ↔ ∃ stem, env.Holds key stem ∧ stem ≠ [] ∧ s.toList = stem := by
  rw [text]
  cases set : env key with
  | none => simp [Environment.Holds, set]
  | some raw =>
    simp only [Environment.holds_iff set, Option.map_some, Option.filter_eq_some_iff,
      Option.some.injEq, decide_eq_true_eq, exists_eq_left', Text.trimString]
    constructor
    · rintro ⟨rfl, nonempty⟩
      exact ⟨fun empty => nonempty (by rw [empty]), String.toList_ofList⟩
    · rintro ⟨some, same⟩
      rw [← same, String.ofList_toList]
      refine ⟨rfl, ?_⟩
      rintro rfl
      exact some same.symm

end Override

namespace HostConfig

open Override (Warned)

variable {env : Environment} {key : String}

/-- A variable gives what its stem is accepted for. -/
lemma Kind.value_override {k : Kind} {v : k.Value} :
    (k.override env key).value = some v ↔ ∃ stem, env.Holds key stem ∧ k.Accepts stem v := by
  cases k with
  | number limit => exact (Override.heeds_number limit).value v
  | text => exact Override.value_text
  | mode => exact Override.heeds_mode.value v

/-- A variable of a number or a mode is warned about exactly if it is set and gives nothing. -/
lemma Kind.warned_override {k : Kind} (other : k ≠ .text) :
    Warned k.Accepts k.Blames env key (k.override env key).warning := by
  cases k with
  | number limit => exact (Override.heeds_number limit).warning
  | text => exact absurd rfl other
  | mode => exact Override.heeds_mode.warning

/-! ## All variables -/

/-- A setting is what its own variable gives, or the default. -/
lemma Setting.get_ofEnvironment (s : Setting) (env : Environment) :
    s.get (ofEnvironment env).1 = (s.override env).value.or (s.get {}) := by
  cases s with
  | advertisedHost => rfl
  | _ => exact Option.or_some.symm

/-- How the settings and the warnings follow an environment. -/
structure Follows (env : Environment) (c : HostConfig) (ws : List ConfigWarning) : Prop where
  given : ∀ (s : Setting) v, s.Gives env v → s.get c = some v
  silent : ∀ s : Setting, (∀ v, ¬s.Gives env v) → s.get c = s.get {}
  /-- Nothing else has a variable. -/
  fixed : c.http.maxBodyBytes = ({} : HostConfig).http.maxBodyBytes
  /-- There is one warning at most for each setting, in their order. -/
  warned : ∃ found : List (Option ConfigWarning),
    List.Forall₂ (fun s => Warned s.kind.Accepts s.kind.Blames env s.key) Setting.parsed found ∧
      ws = found.filterMap id

/-- Under every environment, each setting is what its own variable gives, and the default if that gives
nothing, so it is the same under all environments in which that variable is. The variables of numbers
and modes that are set and give nothing are warned about, each once and in their order. -/
theorem ofEnvironment_follows :
    (∀ env, Follows env (ofEnvironment env).1 (ofEnvironment env).2) ∧
      Function.Injective Setting.key ∧
      ∀ (s : Setting) (env env' : Environment), env s.key = env' s.key →
        s.get (ofEnvironment env).1 = s.get (ofEnvironment env').1 := by
  refine ⟨fun env => ?_, Setting.key_injective, fun s env env' same => ?_⟩
  · constructor
    case given =>
      intro s v given
      rw [s.get_ofEnvironment, Setting.override, Kind.value_override.mpr given]
      rfl
    case silent =>
      intro s silent
      have nothing : (s.override env).value = none := by
        apply Option.eq_none_iff_forall_ne_some.mpr
        exact fun v given => silent v (Kind.value_override.mp given)
      rw [s.get_ofEnvironment, nothing]
      rfl
    case fixed => rfl
    case warned =>
      refine ⟨Setting.parsed.map fun s => (s.override env).warning, ?_, rfl⟩
      rw [List.forall₂_map_right_iff, List.forall₂_same]
      have told : ∀ s ∈ Setting.parsed, s.kind ≠ .text := by simp [Setting.parsed, Setting.kind]
      exact fun s mem => Kind.warned_override (told s mem)
  · have alike : (s.override env).value = (s.override env').value := by
      apply Option.ext
      intro v
      rw [Setting.override, Setting.override, Kind.value_override, Kind.value_override]
      simp only [Environment.Holds, same]
    rw [s.get_ofEnvironment, s.get_ofEnvironment, alike]

/-- Three variables, two of them with blanks around their texts. -/
def paddedTexts : Environment := fun key =>
  match key with
  | "GATEFABRIC_QUEUE_CAPACITY" => some "\t+007"
  | "GATEFABRIC_PORT" => some "65536 "
  | "GATEFABRIC_ADDRESS_MODE" => some "IP6"
  | _ => none

/-- The blanks do not count. A port that is too large leaves the default, is shown without the blank, and
hinders nothing that is read later. -/
theorem ofEnvironment_follows_paddedTexts :
    (ofEnvironment paddedTexts).1.queueCapacity = 7 ∧ (ofEnvironment paddedTexts).1.http.port = 8080 ∧
      (ofEnvironment paddedTexts).1.http.mode = .ipv6 ∧
      (ofEnvironment paddedTexts).2 =
        [⟨"GATEFABRIC_PORT", "65536", "number too large to fit in target type"⟩] := by
  obtain ⟨follows, -, -⟩ := ofEnvironment_follows
  obtain ⟨given, silent, -, -⟩ := follows paddedTexts
  have queue : paddedTexts.Holds Setting.queueCapacity.key ['+', '0', '0', '7'] :=
    (Environment.holds_iff rfl).mpr (by decide +kernel)
  have port : paddedTexts.Holds Setting.port.key ['6', '5', '5', '3', '6'] :=
    (Environment.holds_iff rfl).mpr (by decide +kernel)
  have mode : paddedTexts.Holds Setting.mode.key ['I', 'P', '6'] :=
    (Environment.holds_iff rfl).mpr (by decide +kernel)
  have exceeds : ∀ n, ¬Setting.port.kind.Accepts ['6', '5', '5', '3', '6'] n := by
    rintro n ⟨⟨digits, same | same, -, -, rfl⟩, fits⟩
    · subst same
      exact absurd fits (by decide)
    · cases same
  refine ⟨?_, ?_, ?_, ?_⟩
  · have seven : Setting.queueCapacity.kind.Accepts ['+', '0', '0', '7'] (7 : Nat) :=
      ⟨⟨['0', '0', '7'], .inr rfl, by decide, by simp [Char.isDigit], by decide⟩, by decide⟩
    have taken := given _ _ ⟨_, queue, seven⟩
    exact Option.some.inj taken
  · refine Option.some.inj (silent .port ?_)
    rintro v ⟨stem, held, accepted⟩
    obtain rfl := port.unique held
    exact exceeds v accepted
  · have named : Setting.mode.kind.Accepts ['I', 'P', '6'] AddressMode.ipv6 :=
      ⟨"ip6", by decide, by decide⟩
    have taken := given _ _ ⟨_, mode, named⟩
    exact Option.some.inj taken
  · decide +kernel

end HostConfig

end EventGates

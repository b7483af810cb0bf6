import EventGates.Proofs.Remote.Withdrawal
import EventGates.Proofs.Text.Bytes
import Mathlib.Data.List.DropRight

/-!
# Paths of gates

The endpoint path of a gate is the base path without the slashes at its end, a slash, and the name of
the gate as a path segment. The base path is what an operator wrote, and its percent signs are not
protected. Still the slash keeps the name apart from whatever the base path ends in: escapes are
replaced on both sides of it separately, so the plain path of a gate ends in its name. Gates of one
configuration therefore stand in each other's way exactly if they have the same name
(`namesEndpoints`).
-/

namespace EventGates

open Text (encodeString unescapeBytes plain percentEncode)

namespace HttpConfig

variable {http : HttpConfig} {name a b : String}

/-! ## The base path -/

/-- The base path without the slashes at its end. -/
def trimmedBase (http : HttpConfig) : String :=
  String.ofList (http.basePath.toList.rdropWhile (· == '/'))

lemma endpointPath_eq (http : HttpConfig) (name : String) :
    http.endpointPath name = http.trimmedBase ++ ("/" ++ percentEncode name) :=
  String.append_assoc ..

/-- Nothing but slashes is left out of the base path. -/
lemma exists_slashes (http : HttpConfig) :
    ∃ n, http.basePath = http.trimmedBase ++ String.ofList (List.replicate n '/') := by
  let trimmed := http.basePath.toList.rtakeWhile (· == '/')
  have slashes : ∀ c ∈ trimmed, c = '/' := by
    intro c mem
    simpa using List.mem_rtakeWhile_imp mem
  refine ⟨trimmed.length, String.toList_injective ?_⟩
  rw [String.toList_append, trimmedBase, String.toList_ofList, String.toList_ofList,
    ← List.eq_replicate_of_mem slashes, List.rdropWhile_append_rtakeWhile]

/-- None of the slashes at the end is left. -/
lemma getLast?_trimmedBase (http : HttpConfig) : http.trimmedBase.toList.getLast? ≠ some '/' := by
  intro last
  rw [trimmedBase, String.toList_ofList] at last
  obtain ⟨cs, whole⟩ := List.getLast?_eq_some_iff.mp last
  have other := List.rdropWhile_last_not (· == '/') http.basePath.toList
    (whole ▸ List.concat_ne_nil '/' cs)
  simp [whole] at other

/-! ## Plain paths -/

lemma encodeString_slash_append (s : String) :
    encodeString ("/" ++ s) = 0x2F :: encodeString s := by
  rw [Text.encodeString_append]
  rfl

/-- Escapes are replaced in the base path and in the name separately. -/
lemma unescapeBytes_endpointPath (http : HttpConfig) (name : String) :
    unescapeBytes (encodeString (http.endpointPath name)) =
      unescapeBytes (encodeString http.trimmedBase) ++ encodeString ("/" ++ name) := by
  rw [endpointPath_eq, Text.encodeString_append, encodeString_slash_append,
    Text.encodeString_percentEncode, Text.unescapeBytes_append_slash,
    Text.unescapeBytes_escapeBytes, encodeString_slash_append]

/-- What stands before a slash in a text is a text. -/
lemma exists_encodeString_of_append_slash {bs more : Text.Bytes} {s : String}
    (written : encodeString s = bs ++ 0x2F :: more) : ∃ t, encodeString t = bs := by
  obtain ⟨cs, rfl⟩ := Text.exists_encode_of_append (by decide) written
  exact ⟨String.ofList cs, by rw [encodeString, String.toList_ofList]⟩

/-- If the base path spells a text with its escapes replaced, then it does so without the slashes at
its end. -/
lemma exists_encodeString_trimmedBase {s : String}
    (readable : encodeString s = unescapeBytes (encodeString http.basePath)) :
    ∃ t, encodeString t = unescapeBytes (encodeString http.trimmedBase) := by
  obtain ⟨n, whole⟩ := http.exists_slashes
  cases n with
  | zero =>
    rw [List.replicate_zero, String.ofList_nil, String.append_empty] at whole
    exact ⟨s, whole ▸ readable⟩
  | succ n =>
    have slash : String.ofList (List.replicate (n + 1) '/') =
        "/" ++ String.ofList (List.replicate n '/') := by
      rw [List.replicate_succ, String.ofList_cons]
      rfl
    rw [whole, slash, Text.encodeString_append, encodeString_slash_append,
      Text.unescapeBytes_append_slash] at readable
    exact exists_encodeString_of_append_slash readable

/-- Behind a base path that spells a text the plain path of a gate is that text, a slash and the
name. -/
lemma plain_endpointPath {t : String}
    (readable : encodeString t = unescapeBytes (encodeString http.trimmedBase)) (name : String) :
    plain (http.endpointPath name) = t ++ "/" ++ name := by
  have spelled := http.unescapeBytes_endpointPath name
  rw [← readable, ← Text.encodeString_append, ← String.append_assoc] at spelled
  obtain read | ⟨-, unreadable⟩ := Text.plain_cases (http.endpointPath name)
  · exact Text.encodeString_injective (read.trans spelled)
  · exact absurd spelled.symm (unreadable _)

/-- Behind a base path that spells nothing the paths of gates are plain as they are. -/
lemma plain_endpointPath_of_unreadable
    (unreadable : ∀ t, encodeString t ≠ unescapeBytes (encodeString http.trimmedBase))
    (name : String) : plain (http.endpointPath name) = http.endpointPath name := by
  obtain read | ⟨same, -⟩ := Text.plain_cases (http.endpointPath name)
  · rw [unescapeBytes_endpointPath, encodeString_slash_append] at read
    obtain ⟨t, readable⟩ := exists_encodeString_of_append_slash read
    exact absurd readable (unreadable t)
  · exact same

/-- Gates with different names have different plain paths. -/
lemma plain_endpointPath_inj :
    plain (http.endpointPath a) = plain (http.endpointPath b) ↔ a = b := by
  refine ⟨fun same => ?_, fun same => by rw [same]⟩
  by_cases readable : ∃ t, encodeString t = unescapeBytes (encodeString http.trimmedBase)
  · obtain ⟨t, readable⟩ := readable
    rw [plain_endpointPath readable, plain_endpointPath readable] at same
    exact (String.append_right_inj _).mp same
  · rw [not_exists] at readable
    rw [plain_endpointPath_of_unreadable readable, plain_endpointPath_of_unreadable readable,
      endpointPath_eq, endpointPath_eq, String.append_right_inj, String.append_right_inj] at same
    exact Text.percentEncode_injective same

end HttpConfig

/-! ## Gates of one configuration -/

section Leases

variable {κ : Type} {s s' : System κ} {t : TableId} {gate : Gate} {http : HttpConfig} {facts : Facts}
  {catalogue : Wire.Catalogue} {host : String} {names : List String} {r : RemoteGate}

namespace RemoteGate

/-- The endpoint of a remote gate is at the path of its gate. -/
lemma path_build (built : build s gate http facts catalogue t = .ok (s', r)) :
    r.path = http.endpointPath gate.name := by
  simp only [build, bind, Except.bind] at built
  split at built
  · cases built
  · split at built
    · cases built
    · cases built
      rfl

/-- A remote gate that has an address is refused if its path is served, and built otherwise. -/
lemma build_cases (address : facts.host http.mode http.advertisedHost = .ok host) :
    ((s.endpoints t).lookup (http.endpointPath gate.name)).isSome ∧
        build s gate http facts catalogue t =
          .error (.endpoint ⟨plain (http.endpointPath gate.name)⟩) ∨
      ¬((s.endpoints t).lookup (http.endpointPath gate.name)).isSome ∧
        ∃ s' r, build s gate http facts catalogue t = .ok (s', r) := by
  simp only [build, bind, Except.bind, address, System.register]
  have same : System.endpoints { s with fabric := (s.fabric.addGate gate).1 } t = s.endpoints t := rfl
  rw [same]
  cases served : (s.endpoints t).lookup (http.endpointPath gate.name) with
  | some h =>
    rw [Endpoints.register_of_taken served]
    exact .inl ⟨rfl, rfl⟩
  | none =>
    rw [Endpoints.register_of_free served]
    exact .inr ⟨Bool.false_ne_true, _, _, rfl⟩

end RemoteGate

/-- Remote gates of one configuration were built in a table and terminated, and those with the given
names are left. Nothing else is done to the table, whatever becomes of the rest of the system. -/
inductive Leases (http : HttpConfig) (t : TableId) (s : System κ) : System κ → List String → Prop
  | start : Leases http t s s []
  | build {s' s'' names gate facts catalogue r} (before : Leases http t s s' names)
      (built : RemoteGate.build s' gate http facts catalogue t = .ok (s'', r)) :
      Leases http t s s'' (gate.name :: names)
  | terminate {s' names name} {r : RemoteGate} (before : Leases http t s s' names)
      (table : r.table = t) (path : r.path = http.endpointPath name) :
      Leases http t s (r.terminate s').1 (names.filter (· ≠ name))
  | elsewhere {s' s'' names} (before : Leases http t s s' names)
      (same : s''.endpoints t = s'.endpoints t) : Leases http t s s'' names

/-- The paths that are served are those of the names that are left. -/
lemma Leases.served_iff (free : ∀ name, (s.endpoints t).lookup (http.endpointPath name) = none)
    (leases : Leases http t s s' names) (name : String) :
    ((s'.endpoints t).lookup (http.endpointPath name)).isSome ↔ name ∈ names := by
  induction leases with
  | start =>
    rw [free]
    exact iff_of_false Bool.false_ne_true List.not_mem_nil
  | @build s' s'' names gate facts catalogue r before built ih =>
    obtain ⟨-, made⟩ := RemoteGate.endpoints_build built
    simp only [(Endpoints.lookup_register made).2, RemoteGate.path_build built,
      HttpConfig.plain_endpointPath_inj, List.mem_cons, ← ih]
    split
    · next same => exact iff_of_true rfl (.inl same)
    · next other => exact (or_iff_right other).symm
  | @terminate s' names other r before table path ih =>
    rw [RemoteGate.terminate, table, System.endpoints_unregister, if_pos rfl]
    simp only [Endpoints.lookup_unregister, path, HttpConfig.plain_endpointPath_inj, List.mem_filter,
      ← ih]
    split
    · next same => simp [same]
    · next other => simp [other]
  | elsewhere before same ih =>
    rw [same]
    exact ih

end Leases

/-- How the names of gates and their endpoints belong together, whatever the base path is. -/
structure HttpConfig.NamesEndpoints (http : HttpConfig) : Prop where
  /-- All slashes at the end of the base path are left out, and nothing else. -/
  trimmed : ∃ n, http.basePath = http.trimmedBase ++ String.ofList (List.replicate n '/')
  bare : http.trimmedBase.toList.getLast? ≠ some '/'
  distinct : ∀ a b, plain (http.endpointPath a) = plain (http.endpointPath b) ↔ a = b
  /-- Behind a base path that spells a text, names stand as they are. -/
  named : (∃ s, encodeString s = unescapeBytes (encodeString http.basePath)) →
    ∃ base, encodeString base = unescapeBytes (encodeString http.trimmedBase) ∧
      ∀ name, plain (http.endpointPath name) = base ++ "/" ++ name
  /-- Behind one that spells nothing, the whole path stands as it is written. -/
  asWritten : (∀ s, encodeString s ≠ unescapeBytes (encodeString http.trimmedBase)) →
    ∀ name, plain (http.endpointPath name) = http.endpointPath name
  /-- A remote gate is refused exactly if one with its name is there, and built otherwise. -/
  conflicts : ∀ {κ : Type} {s s' : System κ} {t : TableId} {names : List String},
    (∀ name, (s.endpoints t).lookup (http.endpointPath name) = none) →
    Leases http t s s' names →
    ∀ (gate : Gate) (facts : Facts) (catalogue : Wire.Catalogue) (host : String),
      facts.host http.mode http.advertisedHost = .ok host →
      (RemoteGate.build s' gate http facts catalogue t =
          .error (.endpoint ⟨plain (http.endpointPath gate.name)⟩) ↔ gate.name ∈ names) ∧
        ((∃ s'' r, RemoteGate.build s' gate http facts catalogue t = .ok (s'', r)) ↔
          gate.name ∉ names)

/-- Under every configuration, different names have different endpoints, and a remote gate finds its
path taken exactly by its namesakes. -/
theorem HttpConfig.namesEndpoints (http : HttpConfig) : http.NamesEndpoints := by
  constructor
  case trimmed => exact http.exists_slashes
  case bare => exact http.getLast?_trimmedBase
  case distinct => exact fun a b => plain_endpointPath_inj
  case named =>
    rintro ⟨s, readable⟩
    obtain ⟨base, readable⟩ := exists_encodeString_trimmedBase readable
    exact ⟨base, readable, plain_endpointPath readable⟩
  case asWritten => exact fun unreadable => plain_endpointPath_of_unreadable unreadable
  case conflicts =>
    intro κ s s' t names free leases gate facts catalogue host address
    rw [← leases.served_iff free]
    obtain ⟨taken, refused⟩ | ⟨vacant, s'', r, built⟩ := RemoteGate.build_cases address
    · refine ⟨iff_of_true refused taken, iff_of_false ?_ (not_not_intro taken)⟩
      rintro ⟨s'', r, built⟩
      rw [refused] at built
      cases built
    · refine ⟨iff_of_false ?_ vacant, iff_of_true ⟨s'', r, built⟩ vacant⟩
      intro refused
      rw [refused] at built
      cases built

/-- The base path ends in the beginning of an escape, and the names look like the rest of it: a
namesake of a gate is refused, and a gate whose name is the other's without its escape is not. -/
theorem HttpConfig.namesEndpoints_halfEscape :
    let http : HttpConfig := { basePath := "/%4//", advertisedHost := some "host" }
    ∃ (s : System Unit) (r : RemoteGate),
      RemoteGate.build {} { name := "1%2F", capacity := 1 } http {} {} 0 = .ok (s, r) ∧
        RemoteGate.build s { name := "1%2F", capacity := 2 } http {} {} 0 =
          .error (.endpoint ⟨"/%4/1%2F"⟩) ∧
        ∃ s' r', RemoteGate.build s { name := "1/", capacity := 1 } http {} {} 0 = .ok (s', r') := by
  intro http
  have built : ∃ (s : System Unit) (r : RemoteGate),
      RemoteGate.build {} { name := "1%2F", capacity := 1 } http {} {} 0 = .ok (s, r) := ⟨_, _, rfl⟩
  obtain ⟨s, r, built⟩ := built
  have conflicts := http.namesEndpoints.conflicts (fun _ => rfl) (.build .start built)
  have taken : plain (http.endpointPath "1%2F") = "/%4/1%2F" := by decide +kernel
  refine ⟨s, r, built, ?_, ?_⟩
  · have refused := (conflicts { name := "1%2F", capacity := 2 } {} {} "host" rfl).1
    rw [taken] at refused
    exact refused.mpr List.mem_cons_self
  · have accepted := (conflicts { name := "1/", capacity := 1 } {} {} "host" rfl).2
    exact accepted.mpr (by decide)

end EventGates

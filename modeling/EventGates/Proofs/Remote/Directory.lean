import EventGates.Proofs.Remote.Withdrawal
import EventGates.Proofs.Text.Bytes

/-!
# Endpoints by path

A table of endpoints is a map from plain paths to handlers, whichever spellings it is called with. The
plain path of a spelling is the text that it has once its escapes are replaced (`Text.Unescapes`). A
handler holds a path from its registration on, until a spelling of the path is unregistered (`Holds`);
calls that are refused count for nothing. What the table answers after any calls is what is held then
(`after_maps`): it finds a handler, refuses a registration, has something to withdraw and lists a path
exactly where somebody holds it.
-/

namespace EventGates.Endpoints

/-! ## Calls -/

/-- A call on a table of endpoints. -/
inductive Call where
  | register (path : String) (h : Handler)
  | unregister (path : String)

/-- The answer to a call. -/
inductive Reply where
  | registered
  | refused (cause : PathTaken)
  | unregistered (served : Bool)

/-- What a call leads to; one that is refused changes nothing. -/
def call (t : Endpoints) : Call → Endpoints × Reply
  | .register path h =>
    match t.register path h with
    | .error cause => (t, .refused cause)
    | .ok t => (t, .registered)
  | .unregister path =>
    let (t, served) := t.unregister path
    (t, .unregistered served)

/-- The table after some calls. -/
def after (cs : List Call) : Endpoints := cs.foldl (fun t c => (t.call c).1) {}

variable {t : Endpoints} {cs : List Call} {c : Call} {path p : String} {h h' : Handler}

lemma after_concat (cs : List Call) (c : Call) : after (cs ++ [c]) = ((after cs).call c).1 := by
  rw [after, List.foldl_append]
  rfl

/-- Spellings of a path name one endpoint. -/
lemma lookup_congr (t : Endpoints) (same : Text.plain p = Text.plain path) :
    t.lookup p = t.lookup path := by
  rw [lookup, lookup, same]

/-- A registration is refused where somebody is served, and changes nothing. -/
lemma call_register_of_taken (taken : t.lookup path = some h') (h : Handler) :
    t.call (.register path h) = (t, .refused ⟨Text.plain path⟩) := by
  rw [call, register_of_taken taken]

/-- A registration at a free path is accepted, and the handler serves every spelling of it. -/
lemma call_register_of_free (free : t.lookup path = none) (h : Handler) :
    (t.call (.register path h)).2 = .registered ∧
      ∀ p, (t.call (.register path h)).1.lookup p =
        if Text.plain p = Text.plain path then some h else t.lookup p := by
  have made := register_of_free free h
  rw [call, made]
  exact ⟨rfl, (lookup_register made).2⟩

/-- A registration is refused exactly where somebody is served. -/
lemma call_register_refused_iff :
    t.call (.register path h) = (t, .refused ⟨Text.plain path⟩) ↔ (t.lookup path).isSome := by
  cases served : t.lookup path with
  | some h' => exact iff_of_true (call_register_of_taken served h) rfl
  | none =>
    apply iff_of_false
    · intro refused
      have registered := (call_register_of_free served h).1
      rw [refused] at registered
      cases registered
    · exact Bool.false_ne_true

lemma call_register_registered_iff :
    (t.call (.register path h)).2 = .registered ↔ ¬(t.lookup path).isSome := by
  cases served : t.lookup path with
  | some h' =>
    rw [call_register_of_taken served]
    exact iff_of_false nofun (not_not_intro rfl)
  | none => exact iff_of_true (call_register_of_free served h).1 Bool.false_ne_true

/-- A request for a path that is not served reaches no handler. -/
lemma route_of_lookup_eq_none {r : Request} (free : t.lookup r.path = none) (f : Fabric) :
    t.route f r = (f, ⟨404, ""⟩) := by
  simp only [route, free, ite_self]

lemma route_of_lookup_eq_some {r : Request} (served : t.lookup r.path = some h) (f : Fabric) :
    (t.route f r).1 = (h.handle f r).1 ∧ (t.route f r).2.status = (h.handle f r).2.status := by
  rw [route, served]
  refine ⟨rfl, ?_⟩
  show (if r.method = "HEAD" then _ else _ : Response).status = _
  split
  · rfl
  · rfl

/-! ## Who holds a path -/

/-- A handler was registered for a path under some spelling, and no spelling of the path was
unregistered since. -/
def Holds (cs : List Call) (path : String) (h : Handler) : Prop :=
  ∃ earlier q later, cs = earlier ++ .register q h :: later ∧
    ((after earlier).call (.register q h)).2 = .registered ∧
    Text.plain q = Text.plain path ∧
    ∀ q', .unregister q' ∈ later → Text.plain q' ≠ Text.plain path

/-- One more call: whoever holds the path keeps it unless it is unregistered, or it is registered. -/
lemma holds_concat_iff : Holds (cs ++ [c]) path h ↔
    Holds cs path h ∧ (∀ q, c = .unregister q → Text.plain q ≠ Text.plain path) ∨
    ∃ q, c = .register q h ∧ ((after cs).call c).2 = .registered ∧
      Text.plain q = Text.plain path := by
  constructor
  · rintro ⟨earlier, q, later, whole, registered, spelled, kept⟩
    obtain rfl | ⟨later, c', rfl⟩ := List.eq_nil_or_concat later
    · obtain ⟨rfl, last⟩ := List.append_inj' whole rfl
      cases last
      exact .inr ⟨q, rfl, registered, spelled⟩
    · rw [List.concat_eq_append, ← List.cons_append, ← List.append_assoc] at whole
      rw [List.concat_eq_append] at kept
      obtain ⟨rfl, last⟩ := List.append_inj' whole rfl
      cases last
      refine .inl ⟨⟨earlier, q, later, rfl, registered, spelled, fun q' mem => ?_⟩, ?_⟩
      · exact kept q' (List.mem_append_left _ mem)
      · rintro q' rfl
        exact kept q' (List.mem_append_right _ List.mem_cons_self)
  · rintro (⟨⟨earlier, q, later, rfl, registered, spelled, kept⟩, last⟩ | ⟨q, rfl, registered, spelled⟩)
    · refine ⟨earlier, q, later ++ [c], ?_, registered, spelled, fun q' mem => ?_⟩
      · rw [List.append_assoc, List.cons_append]
      · obtain before | now := List.mem_append.mp mem
        · exact kept q' before
        · exact last q' (List.mem_singleton.mp now).symm
    · exact ⟨cs, q, [], rfl, registered, spelled, nofun⟩

/-- A table finds exactly the handler that holds the path. -/
lemma lookup_after_iff : (after cs).lookup path = some h ↔ Holds cs path h := by
  induction cs using List.reverseRecOn generalizing path h with
  | nil =>
    apply iff_of_false nofun
    rintro ⟨earlier, q, later, whole, -⟩
    exact List.append_ne_nil_of_right_ne_nil earlier (List.cons_ne_nil _ later) whole.symm
  | append_singleton cs c ih =>
    rw [after_concat, holds_concat_iff, ← ih]
    cases c with
    | register q h' =>
      cases served : (after cs).lookup q with
      | some other =>
        rw [call_register_of_taken served]
        simp
      | none =>
        obtain ⟨registered, found⟩ := call_register_of_free served h'
        rw [registered, found]
        split
        · next same =>
          rw [lookup_congr _ same, served]
          simp [same, eq_comm]
        · next other => simp [eq_comm, other]
    | unregister q =>
      show ((after cs).unregister q).1.lookup path = some h ↔ _
      rw [lookup_unregister]
      split
      · next same => simp [same]
      · next other => simp [Ne.symm other]

/-! ## The paths that are listed -/

/-- A table never has two entries for one path. -/
lemma nodup_after (cs : List Call) : (after cs).handlers.keys.Nodup := by
  induction cs using List.reverseRecOn with
  | nil => exact List.nodup_nil
  | append_singleton cs c ih =>
    rw [after_concat]
    cases c with
    | register path h =>
      cases served : (after cs).lookup path with
      | some other =>
        rw [call_register_of_taken served]
        exact ih
      | none =>
        rw [call, register_of_free served]
        exact Table.nodup_keys_insert ih ..
    | unregister path => exact Table.nodup_keys_erase ih _

/-- The keys of a table are the plain paths at which somebody is served. -/
lemma mem_paths_iff {key : String} :
    key ∈ t.paths ↔ ∃ path h, Text.plain path = key ∧ t.lookup path = some h := by
  rw [paths, (List.mergeSort_perm ..).mem_iff]
  constructor
  · intro mem
    cases found : t.handlers.find? key with
    | none => exact absurd mem (Table.not_mem_keys_of_find?_eq_none found)
    | some h =>
      refine ⟨Text.percentEncode key, h, Text.plain_percentEncode key, ?_⟩
      rw [lookup, Text.plain_percentEncode, found]
  · rintro ⟨path, h, rfl, found⟩
    exact Table.mem_keys_of_find? found

/-- The paths are listed in order, each of them once. -/
lemma pairwise_paths (distinct : t.handlers.keys.Nodup) : t.paths.Pairwise (· < ·) := by
  have apart : t.paths.Nodup := (List.mergeSort_perm ..).nodup_iff.mpr distinct
  have ordered : t.paths.Pairwise fun a b => decide (a ≤ b) := by
    apply List.pairwise_mergeSort
    · intro a b c ab bc
      exact decide_eq_true (String.le_trans (of_decide_eq_true ab) (of_decide_eq_true bc))
    · intro a b
      rw [Bool.or_eq_true, decide_eq_true_eq, decide_eq_true_eq]
      exact String.le_total a b
  refine ordered.imp₂ (fun a b le ne => ?_) apart
  exact Std.lt_of_le_of_ne (of_decide_eq_true le) ne

/-! ## What a table answers -/

/-- A table of endpoints after some calls is the map from plain paths to those who hold them. -/
structure IsMap (cs : List Call) : Prop where
  /-- A plain path is what the bytes of a path spell with the escapes replaced; where they spell no
  text, the path is its own plain path. -/
  spelled : ∀ path,
    Text.encodeString (Text.plain path) = Text.unescapeBytes (Text.encodeString path) ∨
      Text.plain path = path ∧
        ∀ s, Text.encodeString s ≠ Text.unescapeBytes (Text.encodeString path)
  /-- An escape is a percent sign with two hexadecimal digits behind it, and is replaced by the byte of
  their value. -/
  escapes : ∀ path bs, Text.Unescapes (Text.encodeString path) bs ↔
    Text.unescapeBytes (Text.encodeString path) = bs
  /-- A handler is found exactly under the spellings of the path that it holds. -/
  finds : ∀ path h, (after cs).lookup path = some h ↔ Holds cs path h
  /-- A registration is refused, and changes nothing, exactly where somebody holds the path. -/
  refuses : ∀ path h,
    (after cs).call (.register path h) = (after cs, .refused ⟨Text.plain path⟩) ↔
      ∃ h', Holds cs path h'
  accepts : ∀ path h,
    ((after cs).call (.register path h)).2 = .registered ↔ ¬∃ h', Holds cs path h'
  /-- There is something to withdraw exactly where somebody holds the path. -/
  withdraws : ∀ path,
    ((after cs).call (.unregister path)).2 = .unregistered true ↔ ∃ h, Holds cs path h
  idle : ∀ path, (¬∃ h, Holds cs path h) →
    (after cs).call (.unregister path) = (after cs, .unregistered false)
  /-- A withdrawal concerns the spellings of one path. -/
  spares : ∀ path p, ((after cs).call (.unregister path)).1.lookup p =
    if Text.plain p = Text.plain path then none else (after cs).lookup p
  /-- The plain paths that somebody holds are listed once each, in order. -/
  lists : ∀ key, key ∈ (after cs).paths ↔ ∃ path h, Text.plain path = key ∧ Holds cs path h
  ordered : (after cs).paths.Pairwise (· < ·)
  /-- A request for a path that nobody holds reaches no handler. -/
  turnsAway : ∀ f r, (¬∃ h, Holds cs r.path h) → (after cs).route f r = (f, ⟨404, ""⟩)
  serves : ∀ f r h, Holds cs r.path h →
    ((after cs).route f r).1 = (h.handle f r).1 ∧
      ((after cs).route f r).2.status = (h.handle f r).2.status

/-- After any calls, a table of endpoints is the map from plain paths to those who hold them. -/
theorem after_maps (cs : List Call) : IsMap cs := by
  have held : ∀ path, (∃ h, Holds cs path h) ↔ ((after cs).lookup path).isSome := by
    intro path
    rw [Option.isSome_iff_exists]
    exact exists_congr fun h => lookup_after_iff.symm
  have free : ∀ path, (¬∃ h, Holds cs path h) → (after cs).lookup path = none := by
    intro path nobody
    rw [held, Bool.not_eq_true, Option.isSome_eq_false_iff] at nobody
    exact Option.isNone_iff_eq_none.mp nobody
  constructor
  case spelled => exact Text.plain_cases
  case escapes => exact fun path bs => Text.unescapes_iff
  case finds => exact fun path h => lookup_after_iff
  case refuses =>
    intro path h
    rw [held]
    exact call_register_refused_iff
  case accepts =>
    intro path h
    rw [held]
    exact call_register_registered_iff
  case withdraws =>
    intro path
    rw [held]
    exact ⟨fun same => Reply.unregistered.inj same, congrArg Reply.unregistered⟩
  case idle =>
    intro path nobody
    rw [call, unregister_of_lookup_eq_none (free path nobody)]
  case spares => exact lookup_unregister (after cs)
  case lists =>
    intro key
    rw [mem_paths_iff]
    exact exists_congr fun path => exists_congr fun h => and_congr_right' lookup_after_iff
  case ordered => exact pairwise_paths (nodup_after cs)
  case turnsAway => exact fun f r nobody => route_of_lookup_eq_none (free r.path nobody) f
  case serves => exact fun f r h holds => route_of_lookup_eq_some (lookup_after_iff.mpr holds) f

/-- The path is registered as one spelling and asked for as others. A registration of a second spelling is
refused, and a third one withdraws what was registered. -/
theorem after_maps_spellings :
    let cs : List Call := [.register "/a%20b" (.echo "one")]
    Text.Unescapes (Text.encodeString "/a%20b") (Text.encodeString "/a b") ∧
      (after cs).call (.register "/%61 b" (.echo "two")) = (after cs, .refused ⟨"/a b"⟩) ∧
      (after cs).lookup "/a%20%62" = some (.echo "one") ∧
      "/a b" ∈ (after cs).paths ∧
      ((after cs).call (.unregister "/a b")).2 = .unregistered true ∧
      ((after cs).call (.unregister "/a b")).1.lookup "/a%20b" = none := by
  intro cs
  have maps := after_maps cs
  have held : ∀ path, Text.plain path = "/a b" → Holds cs path (.echo "one") := by
    intro path same
    exact ⟨[], "/a%20b", [], rfl, rfl, by rw [same]; decide +kernel, nofun⟩
  have plain : Text.plain "/a b" = "/a b" := by decide +kernel
  have escaped : Text.plain "/a%20b" = "/a b" := by decide +kernel
  have first : Text.plain "/%61 b" = "/a b" := by decide +kernel
  have last : Text.plain "/a%20%62" = "/a b" := by decide +kernel
  refine ⟨(maps.escapes _ _).mpr (by decide +kernel), ?_, (maps.finds _ _).mpr (held _ last),
    (maps.lists _).mpr ⟨_, _, plain, held _ plain⟩, (maps.withdraws _).mpr ⟨_, held _ plain⟩, ?_⟩
  · rw [← first]
    exact (maps.refuses _ _).mpr ⟨_, held _ first⟩
  · rw [maps.spares, if_pos (escaped.trans plain.symm)]

end EventGates.Endpoints

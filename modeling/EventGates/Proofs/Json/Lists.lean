import EventGates.Proofs.Json.Tokens

/-!
# Lists are read by the grammar

Whatever reads a list takes an item, and another one behind each comma, up to the closing byte. This
is said once, of anything that takes items (`takesMore`, `takesEnclosed`), and it takes what the
grammar encloses if it takes the items by the grammar (`takes_enclosed`). The readers of arrays and
objects are of this form, and so are those that only pass over them.
-/

namespace EventGates.Json.Grammar

open Text (Bytes)
open Reader (skipBlanks isBlankByte endsNumeral)

variable {α κ : Type}

/-! ## Items and members -/

/-- An item is taken where the blanks end, unless the list ends there. -/
def afterBlanks (close : UInt8) (T : Intake α) : Intake α := fun bs x rest =>
  ∃ b bs', skipBlanks bs = b :: bs' ∧ b ≠ close ∧ T (b :: bs') x rest

/-- What is taken stands behind blanks and a quote. -/
def behindQuote (T : Intake α) : Intake α := fun bs x rest =>
  ∃ bs', skipBlanks bs = 0x22 :: bs' ∧ T bs' x rest

/-- A member is taken after the opening quote of its key. -/
def takesMember (K : Intake κ) (T : κ → Intake α) : Intake (κ × α) := fun bs m rest =>
  ∃ left left', K bs m.1 left ∧ Reader.colon left = .ok ((), left') ∧ T m.1 left' m.2 rest

/-- What is spelled begins with no blank and not as the list ends. -/
def Begins (close : UInt8) (R : α → Bytes → Prop) : Prop :=
  ∀ (x : α) (tok : Bytes), R x tok → ∃ b bs, tok = b :: bs ∧ isBlankByte b = false ∧ b ≠ close

lemma Led.of_spells {R : α → Bytes → Prop} {x : α} {tok : Bytes} (spells : R x tok) :
    Led R x tok :=
  ⟨[], tok, .nil, spells, rfl⟩

lemma Blank.append {w w' : Bytes} (blank : Blank w) (blank' : Blank w') : Blank (w ++ w') :=
  fun b mem => (List.mem_append.mp mem).elim (blank b) (blank' b)

/-- Further blanks may lead. -/
lemma Led.blank_append {R : α → Bytes → Prop} {x : α} {w text : Bytes} (blank : Blank w)
    (led : Led R x text) : Led R x (w ++ text) := by
  obtain ⟨w', tok, blank', spells, rfl⟩ := led
  exact ⟨w ++ w', tok, blank.append blank', spells, (List.append_assoc _ _ _).symm⟩

/-- What is taken behind blanks is taken where they end. -/
lemma takes_afterBlanks {close : UInt8} {T : Intake α} {R : α → Bytes → Prop}
    (item : Takes T (Led R)) (begins : Begins close R) : Takes (afterBlanks close T) (Led R) where
  sound {bs rest x} := by
    rintro ⟨b, bs', left, -, taken⟩
    obtain ⟨text, led, parts⟩ := item.sound taken
    obtain ⟨w, blank, whole⟩ := exists_blank bs
    refine ⟨w ++ text, led.blank_append blank, ?_⟩
    rw [whole, left, parts, List.append_assoc]
  complete {text rest x} := by
    rintro ⟨w, tok, blank, spells, rfl⟩ stop
    obtain ⟨b, bs, rfl, noBlank, other⟩ := begins _ _ spells
    refine ⟨b, bs ++ rest, ?_, other, item.complete (.of_spells spells) stop⟩
    rw [List.append_assoc]
    exact blank.skip noBlank

/-- What skips blanks itself is taken behind them if it is taken where they end. -/
lemma takes_led {close : UInt8} {T : Intake α} {R : α → Bytes → Prop} (begins : Begins close R)
    (skips : ∀ bs, T (skipBlanks bs) = T bs) (nothing : ∀ {x rest}, ¬T [] x rest)
    (sound : ∀ {b bs x rest}, isBlankByte b = false → T (b :: bs) x rest →
      ∃ tok, R x tok ∧ b :: bs = tok ++ rest)
    (complete : ∀ {x tok rest}, R x tok → endsNumeral rest = true → T (tok ++ rest) x rest) :
    Takes T (Led R) where
  sound {bs rest x} := by
    intro taken
    rw [← skips] at taken
    cases left : skipBlanks bs with
    | nil => exact absurd (left ▸ taken) nothing
    | cons b bs' =>
      obtain ⟨tok, spells, same⟩ := sound (isBlankByte_of_skipBlanks left) (left ▸ taken)
      obtain ⟨w, blank, parts⟩ := exists_blank bs
      refine ⟨w ++ tok, ⟨w, tok, blank, spells, rfl⟩, ?_⟩
      rw [parts, left, same, List.append_assoc]
  complete {_ rest x} := by
    rintro ⟨w, tok, blank, spells, rfl⟩ stop
    have here := complete spells stop
    obtain ⟨b, bs, rfl, noBlank, -⟩ := begins _ _ spells
    rw [← skips, List.append_assoc, List.cons_append, blank.skip noBlank]
    exact here

/-- Members are taken if their keys and what stands under them are. -/
lemma takes_member {K : Intake κ} {T : κ → Intake α} {S : κ → Bytes → Prop}
    {R : κ → α → Bytes → Prop} (key : Takes K S) (value : ∀ k, Takes (T k) (Led (R k))) :
    Takes (behindQuote (takesMember K T)) (Led (Member S R)) where
  sound {bs rest m} := by
    rintro ⟨bs', left, mid, mid', name, colon, taken⟩
    obtain ⟨k, spells, rfl⟩ := key.sound name
    obtain ⟨w', blank', rfl⟩ := colon_eq_ok_iff.mp colon
    obtain ⟨text, led, rfl⟩ := (value _).sound taken
    obtain ⟨w, blank, whole⟩ := exists_blank bs
    refine ⟨_, ⟨w, _, blank, .mk spells blank' led, rfl⟩, ?_⟩
    rw [whole, left]
    simp only [List.append_assoc, List.cons_append]
  complete {text rest m} := by
    rintro ⟨w, _, blank, @⟨k, x, name, w', text', spells, blank', led⟩, rfl⟩ stop
    have colon : Reader.colon (w' ++ 0x3A :: (text' ++ rest)) = .ok ((), text' ++ rest) :=
      colon_eq_ok_iff.mpr ⟨w', blank', rfl⟩
    have ends : endsNumeral (w' ++ 0x3A :: (text' ++ rest)) = true := blank'.endsNumeral rfl
    refine ⟨name ++ (w' ++ 0x3A :: (text' ++ rest)), ?_, _, _, key.complete spells ends, colon,
      (value k).complete led stop⟩
    simp only [List.append_assoc, List.cons_append]
    exact blank.skip rfl

/-! ## Repeating -/

/-- Another item is taken behind each comma, up to the closing byte; `budget` bounds how many. -/
def takesMore (close : UInt8) (T : Intake α) : Bytes → Intake (List α)
  | [], _, _, _ => False
  | _ :: _, bs, [], rest => skipBlanks bs = close :: rest
  | _ :: budget, bs, x :: xs, rest =>
    ∃ bs' mid, skipBlanks bs = 0x2C :: bs' ∧ T bs' x mid ∧ takesMore close T budget mid xs rest

/-- A list is taken: its first item, if there is one, and the others, no more than the bytes that
`ahead` makes of those before and behind that item. -/
def takesEnclosed (close : UInt8) (ahead : Bytes → Bytes → Bytes) (first T : Intake α) :
    Intake (List α)
  | bs, [], rest => skipBlanks bs = close :: rest
  | bs, x :: xs, rest =>
    ∃ mid, first bs x mid ∧ takesMore close T (0 :: ahead bs mid) mid xs rest

variable {close : UInt8} {T : Intake α} {R : α → Bytes → Prop}

/-- What is taken behind the first item is the rest of a list. -/
lemma tail_of_takesMore (noBlank : isBlankByte close = false) (item : Takes T (Led R))
    {budget bs rest : Bytes} {xs : List α} (taken : takesMore close T budget bs xs rest) :
    ∃ tok, Tail close R xs tok ∧ bs = tok ++ rest := by
  induction budget generalizing bs xs with
  | nil => cases taken
  | cons _ budget ih =>
    cases xs with
    | nil =>
      obtain ⟨w, blank, rfl⟩ := (skipBlanks_eq_cons_iff noBlank).mp taken
      refine ⟨_, .close blank, ?_⟩
      rw [List.append_assoc, List.singleton_append]
    | cons x xs =>
      obtain ⟨bs', mid, left, here, more⟩ := taken
      obtain ⟨w, blank, rfl⟩ := (skipBlanks_eq_cons_iff rfl).mp left
      obtain ⟨text, led, rfl⟩ := item.sound here
      obtain ⟨tok, tail, rfl⟩ := ih more
      refine ⟨_, .comma blank led tail, ?_⟩
      simp only [List.append_assoc, List.cons_append]

/-- The rest of a list begins with what no numeral goes on with. -/
lemma Tail.endsNumeral (stops : Reader.endsNumeral [close] = true) {xs : List α} {tok : Bytes}
    (tail : Tail close R xs tok) (rest : Bytes) : Reader.endsNumeral (tok ++ rest) = true := by
  cases tail with
  | close blank =>
    rw [List.append_assoc]
    exact blank.endsNumeral stops
  | comma blank led tail =>
    rw [List.append_assoc]
    exact blank.endsNumeral rfl

/-- The rest of a list has more bytes than items. -/
lemma Tail.length_lt {xs : List α} {tok : Bytes} (tail : Tail close R xs tok) :
    xs.length < tok.length := by
  induction tail with
  | close blank =>
    rw [List.length_append]
    exact Nat.succ_pos _
  | comma blank led tail ih =>
    simp only [List.length_append, List.length_cons]
    omega

/-- The rest of a list is taken. -/
lemma Tail.takesMore (noBlank : isBlankByte close = false)
    (stops : Reader.endsNumeral [close] = true) (item : Takes T (Led R)) {xs : List α} {tok : Bytes}
    (tail : Tail close R xs tok) {budget : Bytes} (enough : xs.length < budget.length)
    (rest : Bytes) : Grammar.takesMore close T budget (tok ++ rest) xs rest := by
  induction tail generalizing budget with
  | close blank =>
    cases budget with
    | nil => cases enough
    | cons _ budget =>
      rw [List.append_assoc]
      exact blank.skip noBlank
  | @comma w text more x xs blank led tail ih =>
    cases budget with
    | nil => cases enough
    | cons _ budget =>
      have here := item.complete led (tail.endsNumeral stops rest)
      refine ⟨text ++ (more ++ rest), more ++ rest, ?_, here, ih (Nat.lt_of_succ_lt_succ enough)⟩
      simp only [List.append_assoc, List.cons_append]
      exact blank.skip rfl

/-- A list is taken by the grammar if its items are. -/
theorem takes_enclosed {ahead : Bytes → Bytes → Bytes} {first : Intake α}
    (noBlank : isBlankByte close = false) (stops : Reader.endsNumeral [close] = true)
    (far : ∀ {x text mid}, Led R x text → mid.length ≤ (ahead (text ++ mid) mid).length)
    (head : Takes first (Led R)) (item : Takes T (Led R)) :
    Takes (takesEnclosed close ahead first T) (Enclosed close R) where
  sound {bs rest xs} := by
    intro taken
    cases xs with
    | nil =>
      obtain ⟨w, blank, rfl⟩ := (skipBlanks_eq_cons_iff noBlank).mp taken
      refine ⟨_, .empty blank, ?_⟩
      rw [List.append_assoc, List.singleton_append]
    | cons x xs =>
      obtain ⟨mid, here, more⟩ := taken
      obtain ⟨text, led, rfl⟩ := head.sound here
      obtain ⟨tok, tail, rfl⟩ := tail_of_takesMore noBlank item more
      exact ⟨_, .items led tail, (List.append_assoc _ _ _).symm⟩
  complete {tok rest xs} := by
    intro enclosed _
    cases enclosed with
    | empty blank =>
      show skipBlanks _ = _
      rw [List.append_assoc]
      exact blank.skip noBlank
    | @items text more x xs led tail =>
      have enough : xs.length < (0 :: ahead (text ++ (more ++ rest)) (more ++ rest)).length := by
        have shorter := tail.length_lt
        have left : (more ++ rest).length ≤
            (ahead (text ++ (more ++ rest)) (more ++ rest)).length := far led
        rw [List.length_append] at left
        rw [List.length_cons]
        omega
      rw [List.append_assoc]
      exact ⟨more ++ rest, head.complete led (tail.endsNumeral stops rest),
        tail.takesMore noBlank stops item enough rest⟩

/-- What is left when the blanks are skipped is no shorter than what comes behind an item. -/
lemma Led.length_le_skipBlanks (begins : Begins close R) {x : α} {text : Bytes}
    (led : Led R x text) (mid : Bytes) : mid.length ≤ (skipBlanks (text ++ mid)).length := by
  obtain ⟨w, tok, blank, spells, rfl⟩ := led
  obtain ⟨b, bs, rfl, noBlank, -⟩ := begins _ _ spells
  rw [List.append_assoc, List.cons_append, blank.skip noBlank, List.length_cons, List.length_append]
  omega

/-! ## Readers of arrays and objects -/

lemma moreItems_eq_ok_iff {item : Reader α} {budget bs rest : Bytes} {xs : List α} :
    Reader.moreItems item budget bs = .ok (xs, rest) ↔
      takesMore 0x5D (afterBlanks 0x5D (takes item)) budget bs xs rest := by
  induction budget generalizing bs xs with
  | nil => exact iff_of_false nofun id
  | cons _ budget ih =>
    constructor
    · intro read
      unfold Reader.moreItems at read
      split at read
      · cases read
      · next left =>
        cases read
        exact left
      · next bs' left =>
        split at read
        · cases read
        · cases read
        · next some other =>
          obtain ⟨⟨x, mid⟩, here, read⟩ := bind_eq_ok_iff.mp read
          obtain ⟨⟨xs, rest'⟩, more, same⟩ := bind_eq_ok_iff.mp read
          cases same
          obtain ⟨b, bs'', left'⟩ := List.exists_cons_of_ne_nil some
          rw [left'] at here
          exact ⟨bs', mid, left, ⟨b, bs'', left', fun close => other bs'' (close ▸ left'), here⟩,
            ih.mp more⟩
      · cases read
    · intro taken
      cases xs with
      | nil =>
        have left : skipBlanks bs = 0x5D :: rest := taken
        simp only [Reader.moreItems, left]
      | cons x xs =>
        obtain ⟨bs', mid, left, ⟨b, bs'', left', other, here⟩, more⟩ := taken
        have read : (item (b :: bs'') >>= fun r => Reader.moreItems item budget r.2 >>= fun r' =>
            .ok (r.1 :: r'.1, r'.2)) = .ok (x :: xs, rest) :=
          bind_eq_ok_iff.mpr ⟨_, here, bind_eq_ok_iff.mpr ⟨_, ih.mpr more, rfl⟩⟩
        simp only [Reader.moreItems, left, left']
        split
        · next none => cases none
        · next same => exact absurd (List.cons.inj same).1 other
        · exact read

lemma items_eq_ok_iff {item : Reader α} {bs rest : Bytes} {xs : List α} :
    Reader.items item bs = .ok (xs, rest) ↔
      takesEnclosed 0x5D (fun _ mid => mid) (afterBlanks 0x5D (takes item))
        (afterBlanks 0x5D (takes item)) bs xs rest := by
  constructor
  · intro read
    unfold Reader.items at read
    split at read
    · cases read
    · next left =>
      cases read
      exact left
    · next some other =>
      obtain ⟨⟨x, mid⟩, here, read⟩ := bind_eq_ok_iff.mp read
      obtain ⟨⟨xs, rest'⟩, more, same⟩ := bind_eq_ok_iff.mp read
      cases same
      obtain ⟨b, bs', left⟩ := List.exists_cons_of_ne_nil some
      rw [left] at here
      exact ⟨mid, ⟨b, bs', left, fun close => other bs' (close ▸ left), here⟩,
        moreItems_eq_ok_iff.mp more⟩
  · intro taken
    cases xs with
    | nil =>
      have left : skipBlanks bs = 0x5D :: rest := taken
      simp only [Reader.items, left]
    | cons x xs =>
      obtain ⟨mid, ⟨b, bs', left, other, here⟩, more⟩ := taken
      have read : (item (b :: bs') >>= fun r => Reader.moreItems item (0 :: r.2) r.2 >>= fun r' =>
          .ok (r.1 :: r'.1, r'.2)) = .ok (x :: xs, rest) :=
        bind_eq_ok_iff.mpr ⟨_, here, bind_eq_ok_iff.mpr ⟨_, moreItems_eq_ok_iff.mpr more, rfl⟩⟩
      simp only [Reader.items, left]
      split
      · next none => cases none
      · next same => exact absurd (List.cons.inj same).1 other
      · exact read

lemma member_eq_ok_iff {item : Reader α} {bs rest : Bytes} {m : String × α} :
    Reader.member item bs = .ok (m, rest) ↔
      takesMember (takes Reader.stringBody) (fun _ => takes item) bs m rest := by
  constructor
  · intro read
    obtain ⟨⟨key, left⟩, name, read⟩ := bind_eq_ok_iff.mp read
    obtain ⟨⟨_, left'⟩, colon, read⟩ := bind_eq_ok_iff.mp read
    obtain ⟨⟨x, rest'⟩, here, same⟩ := bind_eq_ok_iff.mp read
    cases same
    exact ⟨left, left', name, colon, here⟩
  · rintro ⟨left, left', name, colon, here⟩
    exact bind_eq_ok_iff.mpr ⟨_, name, bind_eq_ok_iff.mpr ⟨_, colon,
      bind_eq_ok_iff.mpr ⟨_, here, rfl⟩⟩⟩

lemma moreMembers_eq_ok_iff {item : Reader α} {budget bs rest : Bytes} {ms : List (String × α)} :
    Reader.moreMembers item budget bs = .ok (ms, rest) ↔
      takesMore 0x7D (behindQuote (takes (Reader.member item))) budget bs ms rest := by
  induction budget generalizing bs ms with
  | nil => exact iff_of_false nofun id
  | cons _ budget ih =>
    constructor
    · intro read
      unfold Reader.moreMembers at read
      split at read
      · cases read
      · next left =>
        cases read
        exact left
      · next bs' left =>
        split at read
        · cases read
        · next bs'' left' =>
          obtain ⟨⟨m, mid⟩, here, read⟩ := bind_eq_ok_iff.mp read
          obtain ⟨⟨ms, rest'⟩, more, same⟩ := bind_eq_ok_iff.mp read
          cases same
          exact ⟨bs', mid, left, ⟨bs'', left', here⟩, ih.mp more⟩
        · cases read
        · cases read
      · cases read
    · intro taken
      cases ms with
      | nil =>
        have left : skipBlanks bs = 0x7D :: rest := taken
        simp only [Reader.moreMembers, left]
      | cons m ms =>
        obtain ⟨bs', mid, left, ⟨bs'', left', here⟩, more⟩ := taken
        simp only [Reader.moreMembers, left, left']
        exact bind_eq_ok_iff.mpr ⟨_, here, bind_eq_ok_iff.mpr ⟨_, ih.mpr more, rfl⟩⟩

lemma members_eq_ok_iff {item : Reader α} {bs rest : Bytes} {ms : List (String × α)} :
    Reader.members item bs = .ok (ms, rest) ↔
      takesEnclosed 0x7D (fun _ mid => mid) (behindQuote (takes (Reader.member item)))
        (behindQuote (takes (Reader.member item))) bs ms rest := by
  constructor
  · intro read
    unfold Reader.members at read
    split at read
    · cases read
    · next left =>
      cases read
      exact left
    · next bs' left =>
      obtain ⟨⟨m, mid⟩, here, read⟩ := bind_eq_ok_iff.mp read
      obtain ⟨⟨ms, rest'⟩, more, same⟩ := bind_eq_ok_iff.mp read
      cases same
      exact ⟨mid, ⟨bs', left, here⟩, moreMembers_eq_ok_iff.mp more⟩
    · cases read
  · intro taken
    cases ms with
    | nil =>
      have left : skipBlanks bs = 0x7D :: rest := taken
      simp only [Reader.members, left]
    | cons m ms =>
      obtain ⟨mid, ⟨bs', left, here⟩, more⟩ := taken
      simp only [Reader.members, left]
      exact bind_eq_ok_iff.mpr ⟨_, here,
        bind_eq_ok_iff.mpr ⟨_, moreMembers_eq_ok_iff.mpr more, rfl⟩⟩

/-! ## Skippers of arrays and objects -/

/-- What a skipper takes; what it is taken for does not matter. -/
def passes (s : Skipper) : Intake α := fun bs _ rest => s bs = .ok rest

lemma skipper_moreItems_eq_ok_iff {item : Skipper} {budget bs rest : Bytes} :
    Skipper.moreItems item budget bs = .ok rest ↔
      ∃ us : List Unit, takesMore 0x5D (passes item) budget bs us rest := by
  induction budget generalizing bs with
  | nil => exact iff_of_false nofun fun taken => taken.choose_spec
  | cons _ budget ih =>
    constructor
    · intro read
      unfold Skipper.moreItems at read
      split at read
      · cases read
      · next left =>
        cases read
        exact ⟨[], left⟩
      · next bs' left =>
        obtain ⟨mid, here, more⟩ := bind_eq_ok_iff.mp read
        obtain ⟨us, more⟩ := ih.mp more
        exact ⟨() :: us, bs', mid, left, here, more⟩
      · cases read
    · rintro ⟨us, taken⟩
      cases us with
      | nil =>
        have left : skipBlanks bs = 0x5D :: rest := taken
        simp only [Skipper.moreItems, left]
      | cons u us =>
        obtain ⟨bs', mid, left, here, more⟩ := taken
        simp only [Skipper.moreItems, left]
        exact bind_eq_ok_iff.mpr ⟨_, here, ih.mpr ⟨us, more⟩⟩

lemma skipper_items_eq_ok_iff {item : Skipper} {bs rest : Bytes} :
    Skipper.items item bs = .ok rest ↔
      ∃ us : List Unit, takesEnclosed 0x5D (fun bs _ => skipBlanks bs)
        (afterBlanks 0x5D (passes item)) (passes item) bs us rest := by
  constructor
  · intro read
    unfold Skipper.items at read
    split at read
    · cases read
    · next left =>
      cases read
      exact ⟨[], left⟩
    · next some other =>
      obtain ⟨mid, here, more⟩ := bind_eq_ok_iff.mp read
      obtain ⟨us, more⟩ := skipper_moreItems_eq_ok_iff.mp more
      obtain ⟨b, bs', left⟩ := List.exists_cons_of_ne_nil some
      rw [left] at here
      exact ⟨() :: us, mid, ⟨b, bs', left, fun close => other bs' (close ▸ left), here⟩, more⟩
  · rintro ⟨us, taken⟩
    cases us with
    | nil =>
      have left : skipBlanks bs = 0x5D :: rest := taken
      simp only [Skipper.items, left]
    | cons u us =>
      obtain ⟨mid, ⟨b, bs', left, other, here⟩, more⟩ := taken
      simp only [Skipper.items, left]
      split
      · next none => cases none
      · next same => exact absurd (List.cons.inj same).1 other
      · exact bind_eq_ok_iff.mpr ⟨_, here, skipper_moreItems_eq_ok_iff.mpr ⟨us, left ▸ more⟩⟩

lemma skipper_member_eq_ok_iff {item : Skipper} {bs rest : Bytes} {m : Unit × Unit} :
    Skipper.member item bs = .ok rest ↔
      behindQuote (takesMember (passes Skipper.string) fun _ => passes item) bs m rest := by
  constructor
  · intro read
    unfold Skipper.member at read
    split at read
    · cases read
    · next bs' left =>
      obtain ⟨mid, name, read⟩ := bind_eq_ok_iff.mp read
      obtain ⟨⟨_, left'⟩, colon, here⟩ := bind_eq_ok_iff.mp read
      exact ⟨bs', left, mid, left', name, colon, here⟩
    · cases read
  · rintro ⟨bs', left, mid, left', name, colon, here⟩
    simp only [Skipper.member, left]
    exact bind_eq_ok_iff.mpr ⟨_, name, bind_eq_ok_iff.mpr ⟨_, colon, here⟩⟩

lemma skipper_moreMembers_eq_ok_iff {item : Skipper} {budget bs rest : Bytes} :
    Skipper.moreMembers item budget bs = .ok rest ↔
      ∃ us : List (Unit × Unit),
        takesMore 0x7D (passes (Skipper.member item)) budget bs us rest := by
  induction budget generalizing bs with
  | nil => exact iff_of_false nofun fun taken => taken.choose_spec
  | cons _ budget ih =>
    constructor
    · intro read
      unfold Skipper.moreMembers at read
      split at read
      · cases read
      · next left =>
        cases read
        exact ⟨[], left⟩
      · next bs' left =>
        obtain ⟨mid, here, more⟩ := bind_eq_ok_iff.mp read
        obtain ⟨us, more⟩ := ih.mp more
        exact ⟨((), ()) :: us, bs', mid, left, here, more⟩
      · cases read
    · rintro ⟨us, taken⟩
      cases us with
      | nil =>
        have left : skipBlanks bs = 0x7D :: rest := taken
        simp only [Skipper.moreMembers, left]
      | cons u us =>
        obtain ⟨bs', mid, left, here, more⟩ := taken
        simp only [Skipper.moreMembers, left]
        exact bind_eq_ok_iff.mpr ⟨_, here, ih.mpr ⟨us, more⟩⟩

lemma skipper_members_eq_ok_iff {item : Skipper} {bs rest : Bytes} :
    Skipper.members item bs = .ok rest ↔
      ∃ us : List (Unit × Unit), takesEnclosed 0x7D (fun bs _ => skipBlanks bs)
        (afterBlanks 0x7D (passes (Skipper.member item))) (passes (Skipper.member item))
        bs us rest := by
  constructor
  · intro read
    unfold Skipper.members at read
    split at read
    · cases read
    · next left =>
      cases read
      exact ⟨[], left⟩
    · next some other =>
      obtain ⟨mid, here, more⟩ := bind_eq_ok_iff.mp read
      obtain ⟨us, more⟩ := skipper_moreMembers_eq_ok_iff.mp more
      obtain ⟨b, bs', left⟩ := List.exists_cons_of_ne_nil some
      rw [left] at here
      exact ⟨((), ()) :: us, mid, ⟨b, bs', left, fun close => other bs' (close ▸ left), here⟩, more⟩
  · rintro ⟨us, taken⟩
    cases us with
    | nil =>
      have left : skipBlanks bs = 0x7D :: rest := taken
      simp only [Skipper.members, left]
    | cons u us =>
      obtain ⟨mid, ⟨b, bs', left, other, here⟩, more⟩ := taken
      simp only [Skipper.members, left]
      split
      · next none => cases none
      · next same => exact absurd (List.cons.inj same).1 other
      · exact bind_eq_ok_iff.mpr ⟨_, here, skipper_moreMembers_eq_ok_iff.mpr ⟨us, left ▸ more⟩⟩

end EventGates.Json.Grammar

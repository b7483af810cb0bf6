import EventGates.Proofs.Json.Numerals
import EventGates.Proofs.Json.Strings

/-!
# Values are read back

A reader reads a value back if it takes exactly what was written of the value, whatever comes next
that could not go on with a numeral. Scalars are read back by every reader; an array or an object is
read back by a reader whose nested reader reads its parts back, and has one level less for them. So a
value without floating-point numbers that nests within the limit is read back, which is
`valueWithin_chars`; `read_bytes` is the same of a whole text.
-/

namespace EventGates.Json.Reader

open Text (Bytes encode)

/-- A reader reads what was written of a value, if no numeral could go on after it. -/
def ReadsBack (item : Reader Json) (x : Json) : Prop :=
  ∀ rest, endsNumeral rest = true → item (encode x.chars ++ rest) = .ok (x, rest)

/-- A byte that a value may begin with: no blank, and not the end of an array. -/
def beginsValue (b : UInt8) : Bool := !isBlankByte b && b != 0x5D

/-- A digit is no other byte. -/
lemma ne_of_isDigit {b c : UInt8} (h : isDigit b = true) (other : isDigit c = false) : b ≠ c := by
  rintro rfl
  rw [h] at other
  cases other

/-- What was written of a value begins with a byte of its own. -/
lemma encode_chars_eq_cons {x : Json} (free : x.floatFree = true) :
    ∃ b bs, encode x.chars = b :: bs ∧ beginsValue b = true := by
  cases x with
  | null => exact ⟨_, _, rfl, rfl⟩
  | bool b => cases b <;> exact ⟨_, _, rfl, rfl⟩
  | string s =>
    rw [chars, encode_stringText]
    exact ⟨_, _, rfl, rfl⟩
  | array xs => cases xs <;> exact ⟨_, _, rfl, rfl⟩
  | object ms => cases ms <;> exact ⟨_, _, rfl, rfl⟩
  | number n =>
    cases n with
    | real x => cases free
    | negative below => exact ⟨_, _, rfl, rfl⟩
    | natural m =>
      obtain ⟨b, bs, written, digit⟩ := encode_toDigits m
      refine ⟨b, bs, written, ?_⟩
      simp only [beginsValue, isBlankByte, Bool.and_eq_true, Bool.not_eq_true', Bool.or_eq_false_iff,
        beq_eq_false_iff_ne, bne_iff_ne]
      exact ⟨⟨⟨⟨ne_of_isDigit digit rfl, ne_of_isDigit digit rfl⟩, ne_of_isDigit digit rfl⟩,
        ne_of_isDigit digit rfl⟩, ne_of_isDigit digit rfl⟩

/-- Nothing is skipped before a value. -/
lemma skipBlanks_chars {x : Json} (free : x.floatFree = true) (rest : Bytes) :
    skipBlanks (encode x.chars ++ rest) = encode x.chars ++ rest := by
  obtain ⟨b, bs, written, begins⟩ := encode_chars_eq_cons free
  simp only [beginsValue, Bool.and_eq_true, Bool.not_eq_true'] at begins
  rw [written, List.cons_append, skipBlanks, List.dropWhile_cons_of_neg (by simp [begins.1])]

/-! ## Scalars -/

lemma valueWith_null (nested : Option (Reader Json)) : ReadsBack (valueWith nested) .null :=
  fun _ _ => rfl

lemma valueWith_bool (nested : Option (Reader Json)) (b : Bool) :
    ReadsBack (valueWith nested) (.bool b) := by
  intro rest _
  cases b <;> rfl

lemma valueWith_string (nested : Option (Reader Json)) (s : String) :
    ReadsBack (valueWith nested) (.string s) := by
  intro rest _
  obtain ⟨body, written, read⟩ := stringBody_stringText s rest
  rw [chars, written]
  show (stringBody (body ++ rest) >>= fun r => .ok (Json.string r.1, r.2)) = _
  rw [read]
  rfl

lemma valueWith_number (nested : Option (Reader Json)) {n : Number} (whole : ∀ x, n ≠ .real x) :
    ReadsBack (valueWith nested) (.number n) := by
  intro rest stop
  have read := number_text whole stop
  have first : ∃ b bs, encode n.text = b :: bs ∧ (b = 0x2D ∨ isDigit b = true) := by
    cases n with
    | real x => exact absurd rfl (whole x)
    | negative below => exact ⟨_, _, rfl, .inl rfl⟩
    | natural m =>
      obtain ⟨b, bs, written, digit⟩ := encode_toDigits m
      exact ⟨b, bs, written, .inr digit⟩
  obtain ⟨b, bs, written, numeral⟩ := first
  rw [chars, written, List.cons_append]
  rw [written, List.cons_append] at read
  have other : ∀ c : UInt8, c ≠ 0x2D → isDigit c = false → b ≠ c := by
    intro c noMinus noDigit
    obtain rfl | digit := numeral
    · exact noMinus.symm
    · exact ne_of_isDigit digit noDigit
  have noBlank : isBlankByte b = false := by
    simp only [isBlankByte, Bool.or_eq_false_iff, beq_eq_false_iff_ne]
    exact ⟨⟨⟨other _ (by decide) rfl, other _ (by decide) rfl⟩, other _ (by decide) rfl⟩,
      other _ (by decide) rfl⟩
  have begins : (b == 0x2D || isDigit b) = true := by
    simpa only [Bool.or_eq_true, beq_iff_eq] using numeral
  have skip : skipBlanks (b :: (bs ++ rest)) = b :: (bs ++ rest) :=
    List.dropWhile_cons_of_neg (by simp [noBlank])
  simp only [valueWith, skip, other 0x6E (by decide) rfl, other 0x74 (by decide) rfl,
    other 0x66 (by decide) rfl, if_false]
  rw [if_pos (by simpa using begins), read]
  rfl

/-! ## Arrays -/

/-- What follows an item ends a numeral. -/
lemma endsNumeral_itemChars (xs : List Json) (rest : Bytes) :
    endsNumeral (encode (itemChars xs) ++ rest) = true := by
  cases xs with
  | nil => rfl
  | cons x xs => rfl

/-- There are more bytes than items. -/
lemma length_lt_itemChars (xs : List Json) : xs.length < (encode (itemChars xs)).length := by
  induction xs with
  | nil => exact Nat.zero_lt_one
  | cons x xs ih =>
    have comma : encode (itemChars (x :: xs)) = 0x2C :: (encode x.chars ++ encode (itemChars xs)) := by
      rw [itemChars, Text.encode_cons, Text.encode_append]
      rfl
    rw [comma, List.length_cons, List.length_cons, List.length_append]
    omega

/-- The items after the first one are read back. -/
lemma moreItems_itemChars {item : Reader Json} {xs : List Json}
    (free : ∀ x ∈ xs, x.floatFree = true) (reads : ∀ x ∈ xs, ReadsBack item x) {budget : Bytes}
    (enough : xs.length < budget.length) (rest : Bytes) :
    moreItems item budget (encode (itemChars xs) ++ rest) = .ok (xs, rest) := by
  induction xs generalizing budget with
  | nil =>
    cases budget with
    | nil => cases enough
    | cons b budget => rfl
  | cons x xs ih =>
    cases budget with
    | nil => cases enough
    | cons b budget =>
      have later := ih (fun y hy => free y (List.mem_cons_of_mem x hy))
        (fun y hy => reads y (List.mem_cons_of_mem x hy)) (Nat.lt_of_succ_lt_succ enough)
      have here := reads x List.mem_cons_self _ (endsNumeral_itemChars xs rest)
      have skip := skipBlanks_chars (free x List.mem_cons_self) (encode (itemChars xs) ++ rest)
      have comma : encode (itemChars (x :: xs)) ++ rest =
          0x2C :: (encode x.chars ++ (encode (itemChars xs) ++ rest)) := by
        rw [itemChars, Text.encode_cons, Text.encode_append, List.append_assoc, List.append_assoc]
        rfl
      have step : skipBlanks (0x2C :: (encode x.chars ++ (encode (itemChars xs) ++ rest))) =
          0x2C :: (encode x.chars ++ (encode (itemChars xs) ++ rest)) := rfl
      obtain ⟨c, cs, written, begins⟩ := encode_chars_eq_cons (free x List.mem_cons_self)
      rw [comma, moreItems, step]
      simp only
      rw [skip]
      rw [written, List.cons_append] at here ⊢
      simp only [beginsValue, Bool.and_eq_true, bne_iff_ne] at begins
      split
      · next same => cases same
      · next same => exact absurd (List.cons.inj same).1 begins.2
      · rw [here]
        simp only [bind, Except.bind, later]

/-- The items of an array are read back. -/
lemma valueWith_array {item : Reader Json} {xs : List Json}
    (free : ∀ x ∈ xs, x.floatFree = true) (reads : ∀ x ∈ xs, ReadsBack item x) :
    ReadsBack (valueWith (some item)) (.array xs) := by
  intro rest _
  cases xs with
  | nil => rfl
  | cons x xs =>
    have here := reads x List.mem_cons_self _ (endsNumeral_itemChars xs rest)
    have skip := skipBlanks_chars (free x List.mem_cons_self) (encode (itemChars xs) ++ rest)
    obtain ⟨c, cs, written, begins⟩ := encode_chars_eq_cons (free x List.mem_cons_self)
    have enough : xs.length < (0 :: (encode (itemChars xs) ++ rest)).length := by
      have more := length_lt_itemChars xs
      rw [List.length_cons, List.length_append]
      omega
    have later := moreItems_itemChars (fun y hy => free y (List.mem_cons_of_mem x hy))
      (fun y hy => reads y (List.mem_cons_of_mem x hy)) enough rest
    have bracket : encode (chars (.array (x :: xs))) ++ rest =
        0x5B :: (encode x.chars ++ (encode (itemChars xs) ++ rest)) := by
      rw [chars, Text.encode_cons, Text.encode_append, List.append_assoc, List.append_assoc]
      rfl
    have all : items item (encode x.chars ++ (encode (itemChars xs) ++ rest)) =
        .ok (x :: xs, rest) := by
      rw [items, skip]
      rw [written, List.cons_append] at here ⊢
      simp only [beginsValue, Bool.and_eq_true, bne_iff_ne] at begins
      split
      · next same => cases same
      · next same => exact absurd (List.cons.inj same).1 begins.2
      · rw [here]
        simp only [bind, Except.bind, later]
    rw [bracket]
    show (items item _ >>= fun r => .ok (Json.array r.1, r.2)) = _
    rw [all]
    rfl

/-! ## Objects -/

/-- What follows a member ends a numeral. -/
lemma endsNumeral_memberChars (ms : List (String × Json)) (rest : Bytes) :
    endsNumeral (encode (memberChars ms) ++ rest) = true := by
  cases ms with
  | nil => rfl
  | cons m ms => rfl

/-- What follows a member is written after it. -/
lemma encode_key_append (key cs rest : List Char) :
    encode (key ++ ':' :: (cs ++ rest)) = encode (key ++ ':' :: cs) ++ encode rest := by
  rw [← List.cons_append, ← List.append_assoc, Text.encode_append]

/-- What was written of a member is a quote and what `member` reads. -/
lemma member_chars {item : Reader Json} {x : Json} (read : ReadsBack item x) (k : String)
    {rest : Bytes} (stop : endsNumeral rest = true) :
    ∃ body, encode (stringText k ++ ':' :: x.chars) = 0x22 :: body ∧
      member item (body ++ rest) = .ok ((k, x), rest) := by
  obtain ⟨body, written, key⟩ := stringBody_stringText k (0x3A :: (encode x.chars ++ rest))
  refine ⟨body ++ 0x3A :: encode x.chars, ?_, ?_⟩
  · rw [Text.encode_append, written]
    rfl
  · rw [List.append_assoc, List.cons_append, member, key]
    show (item (encode x.chars ++ rest) >>= fun r => .ok ((k, r.1), r.2)) = _
    rw [read rest stop]
    rfl

/-- There are more bytes than members. -/
lemma length_lt_memberChars (ms : List (String × Json)) :
    ms.length < (encode (memberChars ms)).length := by
  induction ms with
  | nil => exact Nat.zero_lt_one
  | cons m ms ih =>
    obtain ⟨k, x⟩ := m
    have comma : encode (memberChars ((k, x) :: ms)) =
        0x2C :: (encode (stringText k ++ ':' :: x.chars) ++ encode (memberChars ms)) := by
      rw [memberChars, Text.encode_cons, encode_key_append]
      rfl
    rw [comma, List.length_cons, List.length_cons, List.length_append]
    omega

/-- The members after the first one are read back. -/
lemma moreMembers_memberChars {item : Reader Json} {ms : List (String × Json)}
    (reads : ∀ m ∈ ms, ReadsBack item m.2) {budget : Bytes} (enough : ms.length < budget.length)
    (rest : Bytes) :
    moreMembers item budget (encode (memberChars ms) ++ rest) = .ok (ms, rest) := by
  induction ms generalizing budget with
  | nil =>
    cases budget with
    | nil => cases enough
    | cons b budget => rfl
  | cons m ms ih =>
    obtain ⟨k, x⟩ := m
    cases budget with
    | nil => cases enough
    | cons b budget =>
      have later := ih (fun n hn => reads n (List.mem_cons_of_mem _ hn))
        (Nat.lt_of_succ_lt_succ enough)
      obtain ⟨body, written, here⟩ := member_chars (reads (k, x) List.mem_cons_self) k
        (endsNumeral_memberChars ms rest)
      have comma : encode (memberChars ((k, x) :: ms)) ++ rest =
          0x2C :: 0x22 :: (body ++ (encode (memberChars ms) ++ rest)) := by
        rw [memberChars, Text.encode_cons, encode_key_append, written, List.append_assoc, List.append_assoc]
        rfl
      rw [comma]
      show (member item _ >>= fun r => moreMembers item budget r.2 >>= fun rs =>
        .ok (r.1 :: rs.1, rs.2)) = _
      rw [here]
      simp only [bind, Except.bind, later]

/-- The members of an object are read back. -/
lemma valueWith_object {item : Reader Json} {ms : List (String × Json)}
    (reads : ∀ m ∈ ms, ReadsBack item m.2) : ReadsBack (valueWith (some item)) (.object ms) := by
  intro rest _
  cases ms with
  | nil => rfl
  | cons m ms =>
    obtain ⟨k, x⟩ := m
    obtain ⟨body, written, here⟩ := member_chars (reads (k, x) List.mem_cons_self) k
      (endsNumeral_memberChars ms rest)
    have enough : ms.length < (0 :: (encode (memberChars ms) ++ rest)).length := by
      have more := length_lt_memberChars ms
      rw [List.length_cons, List.length_append]
      omega
    have later := moreMembers_memberChars (fun n hn => reads n (List.mem_cons_of_mem _ hn))
      enough rest
    have brace : encode (chars (.object ((k, x) :: ms))) ++ rest =
        0x7B :: 0x22 :: (body ++ (encode (memberChars ms) ++ rest)) := by
      rw [chars, Text.encode_cons, encode_key_append, written, List.append_assoc, List.append_assoc]
      rfl
    rw [brace]
    show ((member item _ >>= fun r =>
      moreMembers item (0 :: r.2) r.2 >>= fun rs => .ok (r.1 :: rs.1, rs.2)) >>=
        fun rs => .ok (Json.object rs.1, rs.2)) = _
    rw [here]
    simp only [bind, Except.bind, later]

/-! ## Values -/

/-- A value without floating-point numbers that nests no more deeply than allowed is read back. -/
theorem valueWithin_chars {limit : Nat} {x : Json} (free : x.floatFree = true)
    (deep : x.depth ≤ limit) : ReadsBack (valueWithin limit) x := by
  -- on the depth that is left: the values inside an array or an object have one less
  induction limit generalizing x with
  | zero =>
    cases x with
    | null => exact valueWith_null none
    | bool b => exact valueWith_bool none b
    | string s => exact valueWith_string none s
    | number n =>
      apply valueWith_number none
      rintro y rfl
      cases free
    | array xs => cases deep
    | object ms => cases deep
  | succ limit ih =>
    cases x with
    | null => exact valueWith_null _
    | bool b => exact valueWith_bool _ b
    | string s => exact valueWith_string _ s
    | number n =>
      apply valueWith_number _
      rintro y rfl
      cases free
    | array xs =>
      rw [floatFree, floatFreeItems_iff] at free
      rw [depth] at deep
      apply valueWith_array free
      intro x mem
      exact ih (free x mem) (Nat.le_trans (depth_le_depthItems mem) (Nat.le_of_succ_le_succ deep))
    | object ms =>
      rw [floatFree, floatFreeMembers_iff] at free
      rw [depth] at deep
      apply valueWith_object
      intro m mem
      exact ih (free m mem) (Nat.le_trans (depth_le_depthMembers mem) (Nat.le_of_succ_le_succ deep))

end EventGates.Json.Reader

namespace EventGates.Json

/-- A text that was written of a value is read as that value. -/
theorem read_bytes {x : Json} (free : x.floatFree = true) (deep : x.depth ≤ Reader.depthLimit) :
    read x.bytes = .ok x := by
  have whole := Reader.valueWithin_chars free deep [] rfl
  rw [List.append_nil] at whole
  rw [read, bytes, whole]
  rfl

end EventGates.Json

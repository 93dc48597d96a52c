import PpqTee.Client

/-! Cutting an error body down: on the bytes of the text, as the loop does it, and on its
characters. -/

namespace PpqTee.Client

/-- `u8::is_utf8_char_boundary`: anything but a continuation byte. -/
def startsChar (b : UInt8) : Bool := b < 0x80 || 0xC0 ≤ b

/-- `str::is_char_boundary`, on the bytes of the string. -/
def isBoundary (bytes : Bytes) (index : Nat) : Bool :=
  if index = 0 then true
  else if inside : index < bytes.length then startsChar (bytes.get ⟨index, inside⟩)
  else index == bytes.length

/-- The loop of `cap_body`: where it stops, and after how many steps. `none` is a step below
zero. -/
def searchDown (bytes : Bytes) (steps : Nat) : (cut : Nat) → Option (Nat × Nat)
  | 0 => if isBoundary bytes 0 then some (0, steps) else none
  | cut + 1 =>
    if isBoundary bytes (cut + 1) then some (cut + 1, steps) else searchDown bytes (steps + 1) cut

def truncationNote : String := s!"... (truncated to {MAX_ERROR_BODY_BYTES} bytes)"

/-- `cap_body` on the bytes of its argument, `none` where it would panic. -/
def capBytes (body : Bytes) : Option Bytes :=
  if body.length ≤ MAX_ERROR_BODY_BYTES then some body
  else do
    let (cut, _) ← searchDown body 0 MAX_ERROR_BODY_BYTES
    -- `truncate` asserts the boundary
    if isBoundary body cut then some (body.take cut ++ utf8 truncationNote) else none

def encode (chars : List Char) : Bytes := chars.flatMap String.utf8EncodeChar

theorem encode_cons (c : Char) (rest : List Char) :
    encode (c :: rest) = String.utf8EncodeChar c ++ encode rest := List.flatMap_cons

theorem length_encode_cons (c : Char) (rest : List Char) :
    (encode (c :: rest)).length = c.utf8Size + (encode rest).length := by
  rw [encode_cons, List.length_append, String.length_utf8EncodeChar]

theorem startsChar_ofNat {n : Nat} (small : n < 256) :
    startsChar (UInt8.ofNat n) = true ↔ n < 0x80 ∨ 0xC0 ≤ n := by
  have value : (UInt8.ofNat n).toNat = n := by
    rw [UInt8.toNat_ofNat', Nat.mod_eq_of_lt small]
  simp only [startsChar, Bool.or_eq_true, decide_eq_true_eq, UInt8.lt_iff_toNat_lt,
    UInt8.le_iff_toNat_le, value]
  rfl

theorem startsChar_continuation (n : Nat) : startsChar (UInt8.ofNat (n % 0x40 + 0x80)) = false := by
  rw [← Bool.not_eq_true, startsChar_ofNat (by omega)]
  omega

/-- The first byte of a character, and no other one, starts a character. -/
theorem utf8EncodeChar_shape (c : Char) :
    ∃ first later, String.utf8EncodeChar c = first :: later ∧ startsChar first = true ∧
      ∀ b ∈ later, startsChar b = false := by
  have none : ∀ b ∈ ([] : Bytes), startsChar b = false := List.forall_mem_nil _
  unfold String.utf8EncodeChar
  by_cases one : c.val.toNat ≤ 0x7f
  · rw [if_pos one]
    exact ⟨_, _, rfl, (startsChar_ofNat (by omega)).mpr (by omega), none⟩
  · rw [if_neg one]
    by_cases two : c.val.toNat ≤ 0x7ff
    · rw [if_pos two]
      exact ⟨_, _, rfl, (startsChar_ofNat (by omega)).mpr (by omega),
        List.forall_mem_cons.mpr ⟨startsChar_continuation _, none⟩⟩
    · rw [if_neg two]
      by_cases three : c.val.toNat ≤ 0xffff
      · rw [if_pos three]
        exact ⟨_, _, rfl, (startsChar_ofNat (by omega)).mpr (by omega),
          List.forall_mem_cons.mpr ⟨startsChar_continuation _,
            List.forall_mem_cons.mpr ⟨startsChar_continuation _, none⟩⟩⟩
      · rw [if_neg three]
        exact ⟨_, _, rfl, (startsChar_ofNat (by omega)).mpr (by omega),
          List.forall_mem_cons.mpr ⟨startsChar_continuation _,
            List.forall_mem_cons.mpr ⟨startsChar_continuation _,
              List.forall_mem_cons.mpr ⟨startsChar_continuation _, none⟩⟩⟩⟩

theorem isBoundary_length (bytes : Bytes) : isBoundary bytes bytes.length = true := by
  unfold isBoundary
  by_cases empty : bytes.length = 0
  · rw [if_pos empty]
  · rw [if_neg empty, dif_neg (Nat.lt_irrefl _), beq_self_eq_true]

/-- Between two characters there is a boundary. -/
theorem isBoundary_encode_zero (front : Bytes) (chars : List Char) :
    isBoundary (front ++ encode chars) front.length = true := by
  cases chars with
  | nil =>
    rw [encode, List.flatMap_nil, List.append_nil]
    exact isBoundary_length front
  | cons c rest =>
    obtain ⟨first, later, same, starts, _⟩ := utf8EncodeChar_shape c
    rw [encode_cons, same]
    unfold isBoundary
    by_cases empty : front.length = 0
    · rw [if_pos empty]
    · rw [if_neg empty, dif_pos (by simp), List.get_eq_getElem, List.getElem_append_right (by simp)]
      simpa using starts

/-- Within a character there is none. -/
theorem isBoundary_within (c : Char) (rest : List Char) {n : Nat} (positive : 0 < n)
    (within : n < c.utf8Size) : isBoundary (encode (c :: rest)) n = false := by
  have inside : n < (String.utf8EncodeChar c).length := by
    rw [String.length_utf8EncodeChar]
    exact within
  obtain ⟨first, later, same, _, inner⟩ := utf8EncodeChar_shape c
  rw [encode_cons]
  unfold isBoundary
  rw [if_neg (Nat.ne_of_gt positive), dif_pos (by rw [List.length_append]; omega),
    List.get_eq_getElem, List.getElem_append_left inside]
  apply inner
  cases n with
  | zero => cases positive
  | succ n =>
    simp only [same, List.getElem_cons_succ]
    exact List.getElem_mem _

theorem isBoundary_append (front back : Bytes) {n : Nat} (positive : 0 < n) :
    isBoundary (front ++ back) (front.length + n) = isBoundary back n := by
  unfold isBoundary
  rw [if_neg (by omega), if_neg (Nat.ne_of_gt positive)]
  by_cases inside : n < back.length
  · rw [dif_pos inside, dif_pos (by rw [List.length_append]; omega)]
    simp
  · rw [dif_neg inside, dif_neg (by rw [List.length_append]; omega), List.length_append]
    rw [Bool.eq_iff_iff, beq_iff_eq, beq_iff_eq]
    omega

/-- The byte test finds the character boundaries. -/
theorem isBoundary_encode (chars : List Char) (n : Nat) :
    isBoundary (encode chars) n = isCharBoundary chars n := by
  induction chars generalizing n with
  | nil => cases n <;> rfl
  | cons c rest ih =>
    cases n with
    | zero => rfl
    | succ n =>
      unfold isCharBoundary
      by_cases within : n + 1 < c.utf8Size
      · rw [isBoundary_within c rest (Nat.succ_pos n) within, decide_eq_false (by omega), Bool.false_and]
      · obtain ⟨m, past⟩ := Nat.exists_eq_add_of_le (Nat.not_lt.mp within)
        rw [decide_eq_true (by omega), Bool.true_and, past, Nat.add_sub_cancel_left, ← ih,
          encode_cons, ← String.length_utf8EncodeChar]
        cases m with
        | zero => exact isBoundary_encode_zero _ rest
        | succ m => exact isBoundary_append _ _ (Nat.succ_pos m)

theorem isCharBoundary_cons {c : Char} {n : Nat} (past : c.utf8Size ≤ n) (rest : List Char) :
    isCharBoundary (c :: rest) n = isCharBoundary rest (n - c.utf8Size) := by
  cases n with
  | zero => exact absurd c.utf8Size_pos (Nat.not_lt.mpr past)
  | succ n => rw [isCharBoundary, decide_eq_true past, Bool.true_and]

theorem isCharBoundary_append (front back : List Char) :
    isCharBoundary (front ++ back) (encode front).length = true := by
  induction front with
  | nil => simp [encode, isCharBoundary]
  | cons c front ih =>
    rw [List.cons_append, length_encode_cons, isCharBoundary_cons (Nat.le_add_right _ _),
      Nat.add_sub_cancel_left]
    exact ih

theorem encode_truncate (chars : List Char) (cut : Nat)
    (boundary : isCharBoundary chars cut = true) :
    encode (truncate chars cut boundary) = (encode chars).take cut := by
  induction chars generalizing cut with
  | nil =>
    cases cut with
    | zero => rfl
    | succ cut => cases boundary
  | cons c rest ih =>
    cases cut with
    | zero => rfl
    | succ cut =>
      have past : c.utf8Size ≤ cut + 1 := by
        rw [isCharBoundary, Bool.and_eq_true, decide_eq_true_eq] at boundary
        exact boundary.1
      have whole : (String.utf8EncodeChar c).take (cut + 1) = String.utf8EncodeChar c := by
        apply List.take_of_length_le
        rw [String.length_utf8EncodeChar]
        exact past
      calc encode (truncate (c :: rest) (cut + 1) boundary)
          = String.utf8EncodeChar c ++ (encode rest).take (cut + 1 - c.utf8Size) := by
            rw [truncate, encode_cons, ih]
        _ = (encode (c :: rest)).take (cut + 1) := by
            rw [encode_cons, List.take_append, whole, String.length_utf8EncodeChar]

theorem truncate_begins (chars : List Char) (cut : Nat)
    (boundary : isCharBoundary chars cut = true) : truncate chars cut boundary <+: chars := by
  induction chars generalizing cut with
  | nil =>
    cases cut with
    | zero => exact List.nil_prefix
    | succ cut => cases boundary
  | cons c rest ih =>
    cases cut with
    | zero => exact List.nil_prefix
    | succ cut =>
      rw [truncate, List.cons_prefix_cons]
      exact ⟨rfl, ih _ _⟩

theorem boundaryBelow_le (chars : List Char) (cut : Nat) : boundaryBelow chars cut ≤ cut := by
  induction cut with
  | zero => exact Nat.le_refl 0
  | succ cut ih =>
    unfold boundaryBelow
    split_ifs
    · exact Nat.le_refl _
    · exact Nat.le_succ_of_le ih

/-- The search stops at the last boundary. -/
theorem le_boundaryBelow {chars : List Char} {b cut : Nat} (boundary : isCharBoundary chars b = true)
    (below : b ≤ cut) : b ≤ boundaryBelow chars cut := by
  induction cut with
  | zero => exact below
  | succ cut ih =>
    unfold boundaryBelow
    split_ifs with stops
    · exact below
    · apply ih
      rcases Nat.lt_or_eq_of_le below with less | same
      · exact Nat.le_of_lt_succ less
      · rw [same] at boundary
        exact absurd boundary stops

/-- No character is longer than four bytes. -/
theorem exists_boundary (chars : List Char) {n : Nat} (inside : n ≤ (encode chars).length) :
    ∃ b, isCharBoundary chars b = true ∧ b ≤ n ∧ n ≤ b + 3 := by
  induction chars generalizing n with
  | nil => exact ⟨0, rfl, Nat.zero_le n, Nat.le_trans inside (Nat.zero_le 3)⟩
  | cons c rest ih =>
    rw [length_encode_cons] at inside
    by_cases past : c.utf8Size ≤ n
    · obtain ⟨b, boundary, below, near⟩ := ih (by omega : n - c.utf8Size ≤ (encode rest).length)
      refine ⟨c.utf8Size + b, ?_, by omega, by omega⟩
      rw [isCharBoundary_cons (Nat.le_add_right _ _), Nat.add_sub_cancel_left]
      exact boundary
    · have short := c.utf8Size_le_four
      exact ⟨0, by rw [isCharBoundary], Nat.zero_le n, by omega⟩

theorem boundaryBelow_near {chars : List Char} {n : Nat} (inside : n ≤ (encode chars).length) :
    n ≤ boundaryBelow chars n + 3 := by
  obtain ⟨b, boundary, under, near⟩ := exists_boundary chars inside
  calc n ≤ b + 3 := near
    _ ≤ boundaryBelow chars n + 3 := Nat.add_le_add_right (le_boundaryBelow boundary under) 3

theorem searchDown_encode (chars : List Char) (steps cut : Nat) :
    searchDown (encode chars) steps cut =
      some (boundaryBelow chars cut, steps + (cut - boundaryBelow chars cut)) := by
  induction cut generalizing steps with
  | zero => rfl
  | succ cut ih =>
    unfold searchDown boundaryBelow
    rw [isBoundary_encode]
    by_cases boundary : isCharBoundary chars (cut + 1) = true
    · rw [if_pos boundary, if_pos boundary, Nat.sub_self]
      rfl
    · have below := boundaryBelow_le chars cut
      rw [if_neg boundary, if_neg boundary, ih, show steps + 1 + (cut - boundaryBelow chars cut) =
        steps + (cut + 1 - boundaryBelow chars cut) by omega]

theorem prefix_of_length_le {chars shorter longer : List Char} (first : shorter <+: chars)
    (second : longer <+: chars) (bytes : (encode shorter).length ≤ (encode longer).length) :
    shorter <+: longer := by
  rcases List.prefix_or_prefix_of_prefix first second with done | reversed
  · exact done
  · obtain ⟨more, same⟩ := reversed
    cases more with
    | nil =>
      rw [List.append_nil] at same
      exact same ▸ List.prefix_refl _
    | cons c more =>
      have positive := c.utf8Size_pos
      rw [← same, encode, List.flatMap_append, List.length_append] at bytes
      change _ + (encode (c :: more)).length ≤ (encode longer).length at bytes
      rw [length_encode_cons] at bytes
      change (encode longer).length + _ ≤ _ at bytes
      omega

/-- The longest prefix of whole characters that takes at most `limit` bytes. -/
structure Longest (chars kept : List Char) (limit : Nat) : Prop where
  begins : kept <+: chars
  fits : (encode kept).length ≤ limit
  maximal : ∀ other, other <+: chars → (encode other).length ≤ limit → other <+: kept

/-- What `cap_body` keeps of a text that is too long. -/
def keptChars (chars : List Char) (limit : Nat) : List Char :=
  truncate chars (boundaryBelow chars limit) (isCharBoundary_boundaryBelow chars limit)

theorem length_keptChars {chars : List Char} {limit : Nat}
    (long : limit ≤ (encode chars).length) :
    (encode (keptChars chars limit)).length = boundaryBelow chars limit := by
  have below := boundaryBelow_le chars limit
  rw [keptChars, encode_truncate, List.length_take, Nat.min_eq_left (Nat.le_trans below long)]

theorem longest_keptChars {chars : List Char} {limit : Nat}
    (long : limit ≤ (encode chars).length) : Longest chars (keptChars chars limit) limit := by
  have size := length_keptChars long
  refine ⟨truncate_begins _ _ _, ?_, ?_⟩
  · rw [size]
    exact boundaryBelow_le chars limit
  · intro other begins fits
    apply prefix_of_length_le begins (truncate_begins _ _ _)
    obtain ⟨rest, whole⟩ := begins
    have boundary := isCharBoundary_append other rest
    rw [whole] at boundary
    calc (encode other).length ≤ boundaryBelow chars limit := le_boundaryBelow boundary fits
      _ = (encode (keptChars chars limit)).length := size.symm

theorem capBody_short {s : String} (short : s.utf8ByteSize ≤ MAX_ERROR_BODY_BYTES) :
    capBody s = s := by
  unfold capBody
  rw [if_pos short]

theorem capBody_cut {s : String} (long : MAX_ERROR_BODY_BYTES < s.utf8ByteSize) :
    capBody s =
      String.ofList (keptChars s.toList MAX_ERROR_BODY_BYTES) ++ truncationNote := by
  unfold capBody
  rw [if_neg (Nat.not_le.mpr long)]
  rfl

theorem utf8_eq_encode (s : String) : utf8 s = encode s.toList := utf8_eq_flatMap s

theorem length_encode_of_long {s : String} (long : MAX_ERROR_BODY_BYTES < s.utf8ByteSize) :
    MAX_ERROR_BODY_BYTES ≤ (encode s.toList).length := by
  rw [← utf8_eq_encode, length_utf8]
  exact Nat.le_of_lt long

/-- The loop and `truncate` on the bytes do to the text what `capBody` does, and do not panic. -/
theorem capBytes_utf8 (s : String) : capBytes (utf8 s) = some (utf8 (capBody s)) := by
  unfold capBytes
  rw [length_utf8]
  by_cases short : s.utf8ByteSize ≤ MAX_ERROR_BODY_BYTES
  · rw [if_pos short, capBody_short short]
  · rw [if_neg short, capBody_cut (Nat.not_le.mp short), utf8_append, utf8_eq_encode s,
      searchDown_encode]
    simp only [Option.bind_eq_bind, Option.bind_some]
    rw [isBoundary_encode, if_pos (isCharBoundary_boundaryBelow _ _), utf8_eq_encode (String.ofList _),
      String.toList_ofList, keptChars, encode_truncate]

theorem capBody_bounded (s : String) :
    (capBody s).utf8ByteSize ≤ MAX_ERROR_BODY_BYTES + truncationNote.utf8ByteSize := by
  by_cases short : s.utf8ByteSize ≤ MAX_ERROR_BODY_BYTES
  · rw [capBody_short short]
    exact Nat.le_add_right_of_le short
  · have long := Nat.not_le.mp short
    have kept := length_keptChars (length_encode_of_long long)
    calc (capBody s).utf8ByteSize
        = boundaryBelow s.toList MAX_ERROR_BODY_BYTES + truncationNote.utf8ByteSize := by
          rw [capBody_cut long, ← length_utf8, utf8_append, List.length_append, utf8_eq_encode,
            String.toList_ofList, kept, length_utf8]
      _ ≤ MAX_ERROR_BODY_BYTES + truncationNote.utf8ByteSize :=
          Nat.add_le_add_right (boundaryBelow_le _ _) _

/-- Whatever stands at the cut: the search takes at most three steps and ends on a boundary, and
all whole characters that fit are kept, with the note behind them. -/
theorem capBody_maximal (s : String) :
    capBytes (utf8 s) = some (utf8 (capBody s)) ∧
    (s.utf8ByteSize ≤ MAX_ERROR_BODY_BYTES → capBody s = s) ∧
    (MAX_ERROR_BODY_BYTES < s.utf8ByteSize → ∃ cut steps kept,
      searchDown (utf8 s) 0 MAX_ERROR_BODY_BYTES = some (cut, steps) ∧ steps ≤ 3 ∧
      cut + steps = MAX_ERROR_BODY_BYTES ∧ isBoundary (utf8 s) cut = true ∧
      Longest s.toList kept MAX_ERROR_BODY_BYTES ∧ (encode kept).length = cut ∧
      capBody s = String.ofList kept ++ truncationNote) ∧
    (capBody s).utf8ByteSize ≤ MAX_ERROR_BODY_BYTES + truncationNote.utf8ByteSize := by
  refine ⟨capBytes_utf8 s, capBody_short, ?_, capBody_bounded s⟩
  intro long
  have inside := length_encode_of_long long
  have below := boundaryBelow_le s.toList MAX_ERROR_BODY_BYTES
  have near := boundaryBelow_near inside
  refine ⟨_, MAX_ERROR_BODY_BYTES - boundaryBelow s.toList MAX_ERROR_BODY_BYTES, _, ?_, ?_, ?_,
    ?_, longest_keptChars inside, length_keptChars inside, capBody_cut long⟩
  · rw [utf8_eq_encode, searchDown_encode, Nat.zero_add]
  · omega
  · omega
  · rw [utf8_eq_encode, isBoundary_encode]
    exact isCharBoundary_boundaryBelow _ _

end PpqTee.Client

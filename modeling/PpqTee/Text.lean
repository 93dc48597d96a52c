import PpqTee.Error

/-! The string operations of Rust's standard library that the crate uses, on the
characters of a string and the bytes they take in UTF-8. -/

namespace PpqTee

/-- `str::is_char_boundary`. -/
def isCharBoundary : List Char → Nat → Bool
  | _, 0 => true
  | [], _ + 1 => false
  | c :: rest, n + 1 => c.utf8Size ≤ n + 1 && isCharBoundary rest (n + 1 - c.utf8Size)

/-- `String::truncate`, which panics off a character boundary. -/
def truncate : (chars : List Char) → (cut : Nat) → isCharBoundary chars cut = true → List Char
  | _, 0, _ => []
  | [], _ + 1, boundary => by simp [isCharBoundary] at boundary
  | c :: rest, n + 1, boundary =>
    c :: truncate rest (n + 1 - c.utf8Size) (by
      simp only [isCharBoundary, Bool.and_eq_true] at boundary
      exact boundary.2)

/-- `while !body.is_char_boundary(cut) { cut -= 1 }`. -/
def boundaryBelow (chars : List Char) : Nat → Nat
  | 0 => 0
  | cut + 1 => if isCharBoundary chars (cut + 1) then cut + 1 else boundaryBelow chars cut

/-- The search never runs below zero, and stops on a boundary. -/
theorem isCharBoundary_boundaryBelow (chars : List Char) (cut : Nat) :
    isCharBoundary chars (boundaryBelow chars cut) = true := by
  induction cut with
  | zero => simp [boundaryBelow, isCharBoundary]
  | succ cut ih =>
    by_cases boundary : isCharBoundary chars (cut + 1) = true
    · rw [boundaryBelow, if_pos boundary]
      exact boundary
    · rw [boundaryBelow, if_neg boundary]
      exact ih

/-- The ranges that the bytes after a first byte of a UTF-8 sequence must lie in, or `none`
if no sequence starts with it. -/
def followers (first : UInt8) : Option (List (UInt8 × UInt8)) :=
  if first < 0x80 then some []
  else if first < 0xC2 then none
  else if first < 0xE0 then some [(0x80, 0xBF)]
  else if first = 0xE0 then some [(0xA0, 0xBF), (0x80, 0xBF)]
  else if first = 0xED then some [(0x80, 0x9F), (0x80, 0xBF)]
  else if first < 0xF0 then some [(0x80, 0xBF), (0x80, 0xBF)]
  else if first = 0xF0 then some [(0x90, 0xBF), (0x80, 0xBF), (0x80, 0xBF)]
  else if first < 0xF4 then some [(0x80, 0xBF), (0x80, 0xBF), (0x80, 0xBF)]
  else if first = 0xF4 then some [(0x80, 0x8F), (0x80, 0xBF), (0x80, 0xBF)]
  else none

/-- How many bytes fit the ranges, up to the first that does not. -/
def fitting : List (UInt8 × UInt8) → Bytes → Nat
  | (low, high) :: ranges, b :: rest => if low ≤ b ∧ b ≤ high then 1 + fitting ranges rest else 0
  | _, _ => 0

/-- The length of the ill-formed sequence that a replacement character stands for. -/
def invalidLen : Bytes → Nat
  | [] => 0
  | first :: rest => 1 + fitting ((followers first).getD []) rest

def lossyChars (bytes : Bytes) : List Char :=
  match bytes with
  | [] => []
  | first :: rest =>
    match (ByteArray.mk (first :: rest).toArray).utf8DecodeChar? 0 with
    | some c => c :: lossyChars ((first :: rest).drop c.utf8Size)
    | none => '\uFFFD' :: lossyChars ((first :: rest).drop (invalidLen (first :: rest)))
termination_by bytes.length
decreasing_by
  · have := c.utf8Size_pos
    simp only [List.length_drop, List.length_cons]
    omega
  · simp only [List.length_drop, List.length_cons, invalidLen]
    omega

/-- `String::from_utf8_lossy`. -/
def fromUtf8Lossy (bytes : Bytes) : String := String.ofList (lossyChars bytes)

theorem utf8_eq_flatMap (text : String) : utf8 text = text.toList.flatMap String.utf8EncodeChar := by
  rw [utf8, ← String.utf8Encode_toList, List.utf8Encode, List.toList_data_toByteArray]

theorem length_utf8 (text : String) : (utf8 text).length = text.utf8ByteSize := by
  rw [utf8, Array.length_toList]
  rfl

theorem utf8_append (s t : String) : utf8 (s ++ t) = utf8 s ++ utf8 t := by
  rw [utf8_eq_flatMap, utf8_eq_flatMap, utf8_eq_flatMap, String.toList_append, List.flatMap_append]

theorem lossyChars_decoded {bytes : Bytes} {c : Char}
    (decoded : bytes.toByteArray.utf8DecodeChar? 0 = some c) (some : bytes ≠ []) :
    lossyChars bytes = c :: lossyChars (bytes.drop c.utf8Size) := by
  cases bytes with
  | nil => exact absurd rfl some
  | cons first rest =>
    have same : ByteArray.mk (first :: rest).toArray = (first :: rest).toByteArray :=
      ByteArray.ext List.data_toByteArray.symm
    rw [lossyChars, same, decoded]

theorem lossyChars_encoded (chars : List Char) :
    lossyChars (chars.flatMap String.utf8EncodeChar) = chars := by
  induction chars with
  | nil => simp [lossyChars]
  | cons c chars ih =>
    have size := String.length_utf8EncodeChar c
    rw [List.flatMap_cons]
    rw [lossyChars_decoded, List.drop_left' size, ih]
    · rw [List.toByteArray_append]
      exact ByteArray.utf8DecodeChar?_utf8EncodeChar_append
    · apply List.append_ne_nil_of_left_ne_nil
      apply List.ne_nil_of_length_pos
      rw [size]
      exact c.utf8Size_pos

/-- Text survives the lossy conversion. -/
theorem fromUtf8Lossy_utf8 (text : String) : fromUtf8Lossy (utf8 text) = text := by
  rw [fromUtf8Lossy, utf8_eq_flatMap, lossyChars_encoded, String.ofList_toList]

/-- The characters of `str::from_utf8`, of a string whose first byte is at `index`. -/
def utf8Chars (index : Nat) (bytes : Bytes) : Except String (List Char) :=
  match bytes with
  | [] => .ok []
  | first :: rest =>
    match (ByteArray.mk (first :: rest).toArray).utf8DecodeChar? 0 with
    | some c => do
      let later ← utf8Chars (index + c.utf8Size) ((first :: rest).drop c.utf8Size)
      .ok (c :: later)
    | none =>
      if (followers first).isSome ∧ invalidLen (first :: rest) = rest.length + 1 then
        .error s!"incomplete utf-8 byte sequence from index {index}"
      else
        .error s!"invalid utf-8 sequence of {invalidLen (first :: rest)} bytes from index {index}"
termination_by bytes.length
decreasing_by
  have := c.utf8Size_pos
  simp only [List.length_drop, List.length_cons]
  omega

/-- `str::from_utf8`. -/
def fromUtf8 (bytes : Bytes) : Except String String := (utf8Chars 0 bytes).map String.ofList

theorem utf8DecodeChar_encoded {bytes : Bytes} {c : Char} {chars : List Char}
    (encoded : bytes = (c :: chars).flatMap String.utf8EncodeChar) :
    (ByteArray.mk bytes.toArray).utf8DecodeChar? 0 = some c ∧
      bytes.drop c.utf8Size = chars.flatMap String.utf8EncodeChar ∧ bytes ≠ [] := by
  have size := String.length_utf8EncodeChar c
  have some : String.utf8EncodeChar c ≠ [] := by
    apply List.ne_nil_of_length_pos
    rw [size]
    exact c.utf8Size_pos
  have same : ByteArray.mk bytes.toArray = bytes.toByteArray := ByteArray.ext List.data_toByteArray.symm
  rw [same, encoded, List.flatMap_cons]
  refine ⟨?_, List.drop_left' size, List.append_ne_nil_of_left_ne_nil some _⟩
  rw [List.toByteArray_append]
  exact ByteArray.utf8DecodeChar?_utf8EncodeChar_append

theorem utf8Chars_encoded (index : Nat) (chars : List Char) :
    utf8Chars index (chars.flatMap String.utf8EncodeChar) = .ok chars := by
  induction chars generalizing index with
  | nil => rw [List.flatMap_nil, utf8Chars]
  | cons c chars ih =>
    generalize encoded : (c :: chars).flatMap String.utf8EncodeChar = bytes
    obtain ⟨decoded, behind, some⟩ := utf8DecodeChar_encoded encoded.symm
    cases bytes with
    | nil => exact absurd rfl some
    | cons first rest =>
      rw [utf8Chars, decoded]
      simp only
      rw [behind, ih, ok_bind]

/-- The bytes of a text are read as that text. -/
theorem fromUtf8_utf8 (text : String) : fromUtf8 (utf8 text) = .ok text := by
  rw [fromUtf8, utf8_eq_flatMap, utf8Chars_encoded, Except.map, String.ofList_toList]

/-- `str::strip_prefix`. -/
def stripPrefix (s pre : String) : Option String :=
  if pre.toList <+: s.toList then some (String.ofList (s.toList.drop pre.toList.length)) else none

/-- `str::trim_end_matches` of one character. -/
def trimEndMatches (s : String) (c : Char) : String :=
  String.ofList (s.toList.reverse.dropWhile (· = c)).reverse

theorem toList_trimEndMatches (s : String) (c : Char) :
    ∃ n, s.toList = (trimEndMatches s c).toList ++ List.replicate n c := by
  have cut := List.takeWhile_append_dropWhile (p := (· = c)) (l := s.toList.reverse)
  have same : s.toList.reverse.takeWhile (· = c) =
      List.replicate (s.toList.reverse.takeWhile (· = c)).length c := by
    rw [List.eq_replicate_iff]
    exact ⟨rfl, fun b member => by simpa using List.all_eq_true.mp List.all_takeWhile b member⟩
  refine ⟨(s.toList.reverse.takeWhile (· = c)).length, ?_⟩
  rw [trimEndMatches, String.toList_ofList, ← List.reverse_replicate, ← same, ← List.reverse_append,
    cut, List.reverse_reverse]

/-- `char::is_whitespace`. -/
def isWhitespace (c : Char) : Bool :=
  (9 ≤ c.toNat && c.toNat ≤ 13) || (0x2000 ≤ c.toNat && c.toNat ≤ 0x200A) ||
    [0x20, 0x85, 0xA0, 0x1680, 0x2028, 0x2029, 0x202F, 0x205F, 0x3000].contains c.toNat

/-- `str::split` at one character. -/
def split (s : String) (c : Char) : List String := (s.toList.splitOn c).map String.ofList

/-- `str::split_once` at one character. -/
def splitOnce (s : String) (c : Char) : Option (String × String) :=
  if c ∈ s.toList then
    some (String.ofList (s.toList.takeWhile (· ≠ c)),
      String.ofList ((s.toList.dropWhile (· ≠ c)).drop 1))
  else none

/-- `str::is_ascii`. -/
def isAscii (s : String) : Bool := s.toList.all fun c => c.toNat < 128

/-- `str::eq_ignore_ascii_case`. -/
def eqIgnoreAsciiCase (s t : String) : Bool := s.toList.map Char.toLower == t.toList.map Char.toLower

/-- One more digit of a `u64`: `checked_mul`, `to_digit`, `checked_add`. -/
def pushDigit (result : Nat) (c : Char) : Except String Nat :=
  if ¬ c.isDigit then .error "invalid digit found in string"
  else if result * 10 + (c.toNat - '0'.toNat) < 2 ^ 64 then .ok (result * 10 + (c.toNat - '0'.toNat))
  else .error "number too large to fit in target type"

/-- `str::parse::<u64>`, which takes a leading plus sign. -/
def parseU64 (s : String) : Except String Nat :=
  match s.toList with
  | [] => .error "cannot parse integer from empty string"
  | ['+'] => .error "invalid digit found in string"
  | '+' :: digits => digits.foldlM pushDigit 0
  | digits => digits.foldlM pushDigit 0

/-- A number with a fraction of `width` decimal places, without trailing zeros. -/
def decimal (whole fraction width : Nat) : String :=
  if fraction = 0 then toString whole
  else
    let digits := (Nat.toDigits 10 fraction).leftpad width '0'
    toString whole ++ "." ++ trimEndMatches (String.ofList digits) '0'

/-- The `Debug` form of a duration. -/
def Duration.debug (d : Nat) : String :=
  if 10 ^ 9 ≤ d then decimal (d / 10 ^ 9) (d % 10 ^ 9) 9 ++ "s"
  else if 10 ^ 6 ≤ d then decimal (d / 10 ^ 6) (d % 10 ^ 6) 6 ++ "ms"
  else if 10 ^ 3 ≤ d then decimal (d / 10 ^ 3) (d % 10 ^ 3) 3 ++ "µs"
  else toString d ++ "ns"

/-- `0x` and at least so many hexadecimal digits, as `#06x` and `#018x` print. -/
def hexPadded (digits n : Nat) : String :=
  "0x" ++ String.ofList ((Nat.toDigits 16 n).leftpad digits '0')

end PpqTee

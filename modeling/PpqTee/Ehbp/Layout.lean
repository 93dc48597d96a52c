import PpqTee.Ehbp.Keyconfig
import PpqTee.Ehbp.Seal

/-! The `key_config` parser against the layout its documentation gives. -/

namespace PpqTee.Ehbp

structure Suite where
  kdfId : UInt16
  aeadId : UInt16
  deriving DecidableEq, Repr

def u16Bytes (n : UInt16) : Bytes := BigEndian.toBytes 2 n.toNat

/-- `kdf_id(2) ‖ aead_id(2)`. -/
def Suite.encode (suite : Suite) : Bytes := u16Bytes suite.kdfId ++ u16Bytes suite.aeadId

/-- `key_id(1) ‖ kem_id(2) ‖ public_key(Npk) ‖ cipher_suites_len(2)`, whatever length is declared. -/
def KeyConfig.head (c : KeyConfig) (suitesLen : Nat) : Bytes :=
  [c.keyId] ++ u16Bytes c.kemId ++ c.publicKey.toList ++ BigEndian.toBytes 2 suitesLen

/-- The layout `key_id(1) ‖ kem_id(2) ‖ public_key(Npk) ‖ cipher_suites_len(2) ‖
(kdf_id(2) ‖ aead_id(2))*` with these suites. -/
def KeyConfig.encode (c : KeyConfig) (suites : List Suite) : Bytes :=
  c.head (4 * suites.length) ++ suites.flatMap Suite.encode

def KeyConfig.first (c : KeyConfig) : Suite := ⟨c.kdfId, c.aeadId⟩

/-- `raw[start..stop]`, `none` being the panic. -/
def sliceChecked (raw : Bytes) (start stop : Nat) : Option Bytes :=
  if stop ≤ raw.length then some ((raw.drop start).take (stop - start)) else none

/-- `u16::from_be_bytes([raw[i], raw[i + 1]])`. -/
def u16Checked (raw : Bytes) (i : Nat) : Option UInt16 := do
  let high ← raw[i]?
  let low ← raw[i + 1]?
  some (UInt16.ofNat (BigEndian.ofBytes [high, low]))

/-- `parse` with every index checked: `none` where the source would panic. -/
def parseChecked (raw : Bytes) : Option (Result KeyConfig) :=
  if raw.length < 41 then
    some (.error (.ehbp s!"key config is {raw.length} bytes, want at least 41"))
  else do
    let keyId ← raw[0]?
    let kemId ← u16Checked raw 1
    if kemId ≠ KEM_X25519_HKDF_SHA256 then
      some (.error (.ehbp s!"unsupported KEM {hexPadded 4 kemId.toNat}"))
    else do
      let keyBytes ← sliceChecked raw 3 35
      let publicKey ← toArray32 keyBytes
      let suitesLen ← u16Checked raw 35
      if suitesLen.toNat < 4 ∨ raw.length < 37 + suitesLen.toNat then
        some (.error (.ehbp "truncated cipher suite list"))
      else do
        let kdfId ← u16Checked raw 37
        let aeadId ← u16Checked raw 39
        if kdfId ≠ KDF_HKDF_SHA256 ∨ aeadId ≠ AEAD_AES_256_GCM then
          some (.error (.ehbp
            s!"unsupported suite kdf={hexPadded 4 kdfId.toNat} aead={hexPadded 4 aeadId.toNat}"))
        else some (.ok { keyId, kemId, publicKey, kdfId, aeadId })

theorem length_head (c : KeyConfig) (suitesLen : Nat) : (c.head suitesLen).length = 37 := by
  simp only [KeyConfig.head, u16Bytes, List.length_append, List.length_cons, List.length_nil,
    BigEndian.length_toBytes, Vector.length_toList]

theorem length_suite (suite : Suite) : suite.encode.length = 4 := by
  simp only [Suite.encode, u16Bytes, List.length_append, BigEndian.length_toBytes]

theorem length_suites (suites : List Suite) :
    (suites.flatMap Suite.encode).length = 4 * suites.length := by
  induction suites with
  | nil => rfl
  | cons suite suites ih =>
    calc ((suite :: suites).flatMap Suite.encode).length
        = suite.encode.length + (suites.flatMap Suite.encode).length := by
          rw [List.flatMap_cons, List.length_append]
      _ = 4 + 4 * suites.length := by rw [length_suite, ih]
      _ = 4 * (suite :: suites).length := by
          rw [List.length_cons]
          omega

theorem exists_u16 (size : Nat) {bytes : Bytes} (long : size + 2 ≤ bytes.length) :
    ∃ n rest, bytes = u16Bytes n ++ rest ∧ size ≤ rest.length := by
  obtain ⟨x, later, same⟩ := List.exists_cons_of_length_pos (by omega : 0 < bytes.length)
  rw [same, List.length_cons] at long
  obtain ⟨y, rest, same'⟩ := List.exists_cons_of_length_pos (by omega : 0 < later.length)
  rw [same', List.length_cons] at long
  have small := BigEndian.ofBytes_lt [x, y]
  refine ⟨UInt16.ofNat (BigEndian.ofBytes [x, y]), rest, ?_, by omega⟩
  rw [u16Bytes, UInt16.toNat_ofNat', Nat.mod_eq_of_lt (by simpa using small), same, same']
  exact congrArg (· ++ rest) (BigEndian.toBytes_ofBytes [x, y]).symm

/-- Whatever is long enough is some configuration with one suite, of some declared length. -/
theorem exists_head {raw : Bytes} (long : 41 ≤ raw.length) :
    ∃ c n rest, n < 2 ^ 16 ∧ raw = KeyConfig.head c n ++ (c.first.encode ++ rest) := by
  obtain ⟨keyId, later, same⟩ := List.exists_cons_of_length_pos (by omega : 0 < raw.length)
  rw [same, List.length_cons] at long
  obtain ⟨kemId, later₁, same₁, long₁⟩ := exists_u16 38 (by omega : 40 ≤ later.length)
  have split := List.take_append_drop 32 later₁
  have key : (later₁.take 32).length = 32 := by
    rw [List.length_take]
    omega
  have long₂ : 6 ≤ (later₁.drop 32).length := by
    rw [List.length_drop]
    omega
  obtain ⟨n, later₃, same₃, long₃⟩ := exists_u16 4 long₂
  obtain ⟨kdfId, later₄, same₄, long₄⟩ := exists_u16 2 long₃
  obtain ⟨aeadId, rest, same₅, _⟩ := exists_u16 0 long₄
  refine ⟨⟨keyId, kemId, ⟨(later₁.take 32).toArray, by simpa using key⟩, kdfId, aeadId⟩, n.toNat,
    rest, n.toNat_lt, ?_⟩
  calc raw = keyId :: (u16Bytes kemId ++ (later₁.take 32 ++ later₁.drop 32)) := by
        rw [same, same₁, split]
    _ = _ := by
        rw [same₃, same₄, same₅]
        simp [KeyConfig.head, KeyConfig.first, Suite.encode, u16Bytes]

theorem u16At_eq {raw : Bytes} (front back : Bytes) {n i : Nat} (fits : n < 2 ^ 16)
    (shape : raw = front ++ (BigEndian.toBytes 2 n ++ back)) (before : front.length = i)
    (inside : i + 1 < raw.length) : u16At raw i inside = UInt16.ofNat n := by
  subst before
  have pair : [raw.get ⟨front.length, by omega⟩, raw.get ⟨front.length + 1, inside⟩] =
      BigEndian.toBytes 2 n := by
    subst shape
    simp [BigEndian.toBytes]
  rw [u16At, pair, BigEndian.ofBytes_toBytes 2 n fits]

theorem u16At_u16Bytes {raw : Bytes} (front back : Bytes) {n : UInt16} {i : Nat}
    (shape : raw = front ++ (u16Bytes n ++ back)) (before : front.length = i)
    (inside : i + 1 < raw.length) : u16At raw i inside = n := by
  rw [u16At_eq front back n.toNat_lt shape before inside]
  exact UInt16.ofNat_toNat

theorem key_eq {raw : Bytes} (front back : Bytes) {key : Vector UInt8 32}
    (shape : raw = front ++ (key.toList ++ back)) (before : front.length = 3)
    (long : 35 ≤ raw.length) :
    (Vector.ofFn fun i : Fin 32 => raw.get ⟨3 + i, by omega⟩) = key := by
  subst shape
  apply Vector.ext
  intro i inside
  have behind : front.length ≤ 3 + i := by omega
  rw [Vector.getElem_ofFn, List.get_eq_getElem, List.getElem_append_right behind]
  simp only [before, Nat.add_sub_cancel_left]
  rw [List.getElem_append_left (by rw [Vector.length_toList]; exact inside)]
  exact Vector.getElem_toList _

theorem parse_head (c : KeyConfig) {n : Nat} (fits : n < 2 ^ 16) (rest : Bytes) :
    parseKeyConfig (c.head n ++ (c.first.encode ++ rest)) = (do
      ensure (c.kemId = KEM_X25519_HKDF_SHA256)
        (.ehbp s!"unsupported KEM {hexPadded 4 c.kemId.toNat}")
      ensure (¬ (n < 4 ∨ 41 + rest.length < 37 + n)) (.ehbp "truncated cipher suite list")
      ensure (c.kdfId = KDF_HKDF_SHA256 ∧ c.aeadId = AEAD_AES_256_GCM)
        (.ehbp
          s!"unsupported suite kdf={hexPadded 4 c.kdfId.toNat} aead={hexPadded 4 c.aeadId.toNat}")
      .ok c) := by
  generalize whole : c.head n ++ (c.first.encode ++ rest) = raw
  have length : raw.length = 41 + rest.length := by
    rw [← whole, List.length_append, List.length_append, length_head, length_suite]
    omega
  have kem : u16At raw 1 (by omega) = c.kemId := by
    apply u16At_u16Bytes [c.keyId]
      (c.publicKey.toList ++ (BigEndian.toBytes 2 n ++ (c.first.encode ++ rest))) _ rfl
    rw [← whole]
    simp [KeyConfig.head]
  have len : u16At raw 35 (by omega) = UInt16.ofNat n := by
    apply u16At_eq ([c.keyId] ++ u16Bytes c.kemId ++ c.publicKey.toList) (c.first.encode ++ rest) fits
    · rw [← whole]
      simp [KeyConfig.head]
    · simp [u16Bytes]
  have kdf : u16At raw 37 (by omega) = c.kdfId := by
    apply u16At_u16Bytes (c.head n) (u16Bytes c.aeadId ++ rest) _ (length_head c n)
    rw [← whole]
    simp [KeyConfig.first, Suite.encode]
  have aead : u16At raw 39 (by omega) = c.aeadId := by
    apply u16At_u16Bytes (c.head n ++ u16Bytes c.kdfId) rest
    · rw [← whole]
      simp [KeyConfig.first, Suite.encode]
    · rw [List.length_append, length_head, u16Bytes, BigEndian.length_toBytes]
  have keyId : raw.get ⟨0, by omega⟩ = c.keyId := by
    subst whole
    simp [KeyConfig.head]
  have key : (Vector.ofFn fun i : Fin 32 => raw.get ⟨3 + i, by omega⟩) = c.publicKey := by
    apply key_eq ([c.keyId] ++ u16Bytes c.kemId)
      (BigEndian.toBytes 2 n ++ (c.first.encode ++ rest))
    · rw [← whole]
      simp [KeyConfig.head]
    · simp [u16Bytes]
    · omega
  have declared : (UInt16.ofNat n).toNat = n := by
    rw [UInt16.toNat_ofNat', Nat.mod_eq_of_lt fits]
  unfold parseKeyConfig
  rw [dif_neg (by omega)]
  simp only [kem, len, kdf, aead, keyId, key, declared, length]

/-- The KEM and the suite of this implementation. -/
structure Supported (c : KeyConfig) : Prop where
  kem : c.kemId = KEM_X25519_HKDF_SHA256
  suite : c.kdfId = KDF_HKDF_SHA256 ∧ c.aeadId = AEAD_AES_256_GCM

/-- `raw` begins with the documented layout of these fields and suites. -/
structure Layout (raw : Bytes) (c : KeyConfig) (suites : List Suite) : Prop where
  begins : c.encode suites <+: raw
  counted : 4 * suites.length < 2 ^ 16
  first : suites.head? = some c.first
  supported : Supported c

/-- `raw` holds the supported suite at the head of a list that is all there, of `n` bytes. -/
structure Declares (raw : Bytes) (c : KeyConfig) (n : Nat) : Prop where
  begins : ∃ rest, raw = c.head n ++ (c.first.encode ++ rest) ∧ n ≤ 4 + rest.length
  fits : n < 2 ^ 16
  first : 4 ≤ n
  supported : Supported c

/-- A list length that is no whole number of suites. -/
def Ragged (raw : Bytes) : Prop := ∃ c n, Declares raw c n ∧ n % 4 ≠ 0

theorem parse_ok {raw : Bytes} {c : KeyConfig} :
    parseKeyConfig raw = .ok c ↔ ∃ n, Declares raw c n := by
  apply Iff.intro
  · intro parsed
    by_cases short : raw.length < 41
    · rw [parseKeyConfig, dif_pos short] at parsed
      cases parsed
    · obtain ⟨c', n, rest, fits, same⟩ := exists_head (Nat.not_lt.mp short)
      rw [same, parse_head c' fits rest] at parsed
      obtain ⟨_, kem, parsed⟩ := bind_ok.mp parsed
      obtain ⟨_, list, parsed⟩ := bind_ok.mp parsed
      obtain ⟨_, suite, parsed⟩ := bind_ok.mp parsed
      rw [ensure_ok] at kem list suite
      cases parsed
      exact ⟨n, ⟨rest, same, by omega⟩, fits, by omega, kem, suite⟩
  · intro declares
    obtain ⟨n, ⟨rest, same, there⟩, fits, first, supported⟩ := declares
    have list : ¬ (n < 4 ∨ 41 + rest.length < 37 + n) := by omega
    rw [same, parse_head c fits rest, (ensure_ok (u := ())).mpr supported.kem,
      (ensure_ok (u := ())).mpr list, (ensure_ok (u := ())).mpr supported.suite]
    rfl

theorem head_injective {c : KeyConfig} {m n : Nat} (hm : m < 2 ^ 16) (hn : n < 2 ^ 16)
    (same : c.head m = c.head n) : m = n :=
  BigEndian.toBytes_injective 2 hm hn (List.append_cancel_left same)

theorem exists_suites (count : Nat) {bytes : Bytes} (size : bytes.length = 4 * count) :
    ∃ suites : List Suite, suites.length = count ∧ suites.flatMap Suite.encode = bytes := by
  induction count generalizing bytes with
  | zero => exact ⟨[], rfl, (List.length_eq_zero_iff.mp size).symm⟩
  | succ count ih =>
    obtain ⟨kdfId, later, same, long⟩ := exists_u16 2 (by omega : 4 ≤ bytes.length)
    obtain ⟨aeadId, rest, same', _⟩ := exists_u16 0 long
    have whole : bytes = (⟨kdfId, aeadId⟩ : Suite).encode ++ rest := by
      rw [same, same', ← List.append_assoc]
      rfl
    rw [whole, List.length_append, length_suite] at size
    obtain ⟨suites, counted, encoded⟩ := ih (by omega : rest.length = 4 * count)
    refine ⟨⟨kdfId, aeadId⟩ :: suites, by rw [List.length_cons, counted], ?_⟩
    rw [List.flatMap_cons, encoded, whole]

theorem Layout.declares {raw : Bytes} {c : KeyConfig} {suites : List Suite}
    (layout : Layout raw c suites) : Declares raw c (4 * suites.length) := by
  obtain ⟨tail, whole⟩ := layout.begins
  cases suites with
  | nil => cases layout.first
  | cons suite suites =>
    cases layout.first
    rw [KeyConfig.encode, List.flatMap_cons, List.append_assoc, List.append_assoc] at whole
    refine ⟨⟨_, whole.symm, ?_⟩, layout.counted, ?_, layout.supported⟩
    · rw [List.length_append, length_suites, List.length_cons]
      omega
    · rw [List.length_cons]
      omega

theorem Declares.layout {raw : Bytes} {c : KeyConfig} {n : Nat} (declares : Declares raw c n)
    (whole : n % 4 = 0) : ∃ suites, Layout raw c suites := by
  obtain ⟨⟨rest, same, there⟩, fits, first, supported⟩ := declares
  have size : (rest.take (n - 4)).length = 4 * (n / 4 - 1) := by
    rw [List.length_take]
    omega
  obtain ⟨suites, counted, encoded⟩ := exists_suites _ size
  have count : 4 * (c.first :: suites).length = n := by
    rw [List.length_cons, counted]
    omega
  refine ⟨c.first :: suites, ⟨rest.drop (n - 4), ?_⟩, by rw [count]; exact fits, rfl, supported⟩
  rw [KeyConfig.encode, count, List.flatMap_cons, encoded, List.append_assoc, List.append_assoc,
    List.take_append_drop, same]

/-- No index leaves `raw`, and what is accepted is what the layout describes. -/
structure Documented (raw : Bytes) : Prop where
  inBounds : parseChecked raw = some (parseKeyConfig raw)
  exact : ∀ c, parseKeyConfig raw = .ok c ↔ ∃ suites, Layout raw c suites

theorem u16Checked_eq {raw : Bytes} {i : Nat} (inside : i + 1 < raw.length) :
    u16Checked raw i = some (u16At raw i inside) := by
  unfold u16Checked
  rw [List.getElem?_eq_getElem (by omega), List.getElem?_eq_getElem inside]
  rfl

theorem slice_key {raw : Bytes} (long : 35 ≤ raw.length) :
    (sliceChecked raw 3 35).bind toArray32 =
      some (Vector.ofFn fun i : Fin 32 => raw.get ⟨3 + i, by omega⟩) := by
  have size : ((raw.drop 3).take 32).length = 32 := by
    rw [List.length_take, List.length_drop]
    omega
  unfold sliceChecked
  rw [if_pos long]
  show toArray32 ((raw.drop 3).take 32) = _
  unfold toArray32
  rw [dif_pos size]
  apply congrArg some
  apply Vector.ext
  intro i inside
  simp

/-- A check as the source makes it, against the same check by `ensure`. -/
theorem refuse_eq {α : Type} {refused holds : Prop} [Decidable refused] [Decidable holds]
    (opposite : refused ↔ ¬ holds) {e : Error} {next : Option (Result α)} {later : Result α}
    (same : holds → next = some later) :
    (if refused then some (.error e) else next) = some (ensure holds e >>= fun _ => later) := by
  unfold ensure
  by_cases passes : holds
  · rw [if_neg (fun refuses => opposite.mp refuses passes), if_pos passes, same passes]
    rfl
  · rw [if_pos (opposite.mpr passes), if_neg passes]
    rfl

/-- Every index that is reached lies inside. -/
theorem parseChecked_eq (raw : Bytes) : parseChecked raw = some (parseKeyConfig raw) := by
  unfold parseChecked parseKeyConfig
  by_cases short : raw.length < 41
  · rw [if_pos short, dif_pos short]
  · have key := slice_key (by omega : 35 ≤ raw.length)
    obtain ⟨keyBytes, sliced, array⟩ := Option.bind_eq_some_iff.mp key
    rw [if_neg short, dif_neg short, List.getElem?_eq_getElem (by omega), sliced]
    simp only [u16Checked_eq (by omega : 1 + 1 < raw.length),
      u16Checked_eq (by omega : 35 + 1 < raw.length),
      u16Checked_eq (by omega : 37 + 1 < raw.length),
      u16Checked_eq (by omega : 39 + 1 < raw.length), array, Option.bind_eq_bind, Option.bind_some]
    apply refuse_eq Iff.rfl
    intro _
    apply refuse_eq not_not.symm
    intro _
    apply refuse_eq not_and_or.symm
    intro _
    rfl

theorem Ragged.not_documented {raw : Bytes} (ragged : Ragged raw) : ¬ Documented raw := by
  intro documented
  obtain ⟨c, n, declares, broken⟩ := ragged
  obtain ⟨suites, layout⟩ := (documented.exact c).mp (parse_ok.mpr ⟨n, declares⟩)
  obtain ⟨rest, same, _⟩ := declares.begins
  obtain ⟨tail, whole⟩ := layout.begins
  rw [same, KeyConfig.encode, List.append_assoc] at whole
  have heads := List.append_inj_left whole (by rw [length_head, length_head])
  have counted := head_injective layout.counted declares.fits heads
  omega

/-- A list length of 4, 8, 12 and so on is parsed as documented, and any other one is not: the
config is accepted as soon as its first suite is the supported one. -/
theorem documented_iff (raw : Bytes) : Documented raw ↔ ¬ Ragged raw := by
  apply Iff.intro
  · intro documented ragged
    exact ragged.not_documented documented
  · intro whole
    refine ⟨parseChecked_eq raw, ?_⟩
    intro c
    apply Iff.intro
    · intro parsed
      obtain ⟨n, declares⟩ := parse_ok.mp parsed
      apply declares.layout
      by_contra broken
      exact whole ⟨c, n, declares, broken⟩
    · intro layouts
      obtain ⟨suites, layout⟩ := layouts
      exact parse_ok.mpr ⟨_, layout.declares⟩

/-- One suite and a quarter of another, all of it announced as the suite list. -/
def raggedConfig : Bytes :=
  KeyConfig.head ⟨0, 0x0020, Vector.replicate 32 0, 0x0001, 0x0002⟩ 5 ++ [0, 1, 0, 2, 0]

theorem raggedConfig_accepted : ¬ Documented raggedConfig := by
  apply Ragged.not_documented
  exact ⟨⟨0, 0x0020, Vector.replicate 32 0, 0x0001, 0x0002⟩, 5,
    ⟨⟨[0], rfl, by decide⟩, by decide, by decide, rfl, rfl, rfl⟩, by decide⟩

end PpqTee.Ehbp

import PpqTee.Lib.BigEndian
import PpqTee.Text

/-! The `key_config` that advertises the enclave's HPKE key. -/

namespace PpqTee.Ehbp

def KEM_X25519_HKDF_SHA256 : UInt16 := 0x0020
def KDF_HKDF_SHA256 : UInt16 := 0x0001
def AEAD_AES_256_GCM : UInt16 := 0x0002

structure KeyConfig where
  keyId : UInt8
  kemId : UInt16
  publicKey : Vector UInt8 32
  kdfId : UInt16
  aeadId : UInt16
  deriving DecidableEq, Repr

/-- `u16::from_be_bytes` of two bytes next to each other. -/
def u16At (raw : Bytes) (i : Nat) (inside : i + 1 < raw.length) : UInt16 :=
  UInt16.ofNat (BigEndian.ofBytes [raw.get ⟨i, by omega⟩, raw.get ⟨i + 1, inside⟩])

def parseKeyConfig (raw : Bytes) : Result KeyConfig :=
  if short : raw.length < 41 then
    .error (.ehbp s!"key config is {raw.length} bytes, want at least 41")
  else do
    let keyId := raw.get ⟨0, by omega⟩
    let kemId := u16At raw 1 (by omega)
    ensure (kemId = KEM_X25519_HKDF_SHA256) (.ehbp s!"unsupported KEM {hexPadded 4 kemId.toNat}")
    let publicKey := Vector.ofFn fun i : Fin 32 => raw.get ⟨3 + i, by omega⟩
    let suitesLen := (u16At raw 35 (by omega)).toNat
    ensure (¬ (suitesLen < 4 ∨ raw.length < 37 + suitesLen))
      (.ehbp "truncated cipher suite list")
    -- only the first suite is looked at
    let kdfId := u16At raw 37 (by omega)
    let aeadId := u16At raw 39 (by omega)
    ensure (kdfId = KDF_HKDF_SHA256 ∧ aeadId = AEAD_AES_256_GCM)
      (.ehbp s!"unsupported suite kdf={hexPadded 4 kdfId.toNat} aead={hexPadded 4 aeadId.toNat}")
    .ok { keyId, kemId, publicKey, kdfId, aeadId }

theorem parseKeyConfig_fails (raw : Bytes) : Fails NoSuccess (parseKeyConfig raw) := by
  unfold parseKeyConfig
  by_cases short : raw.length < 41
  · rw [dif_pos short]
    exact .error trivial
  · rw [dif_neg short]
    exact .bindEnsure trivial (.bindEnsure trivial (.bindEnsure trivial (.ok _)))

end PpqTee.Ehbp

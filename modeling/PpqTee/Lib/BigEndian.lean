import Mathlib.Data.List.Basic
import Mathlib.Algebra.Group.Nat.Defs
import Mathlib.Tactic.Ring

/-! Fixed-width big-endian byte strings. -/

namespace BigEndian

/-- The low `width` bytes of `n`, most significant first. -/
def toBytes : (width n : Nat) → List UInt8
  | 0, _ => []
  | width + 1, n => UInt8.ofNat (n / 256 ^ width) :: toBytes width n

def ofBytes : List UInt8 → Nat
  | [] => 0
  | b :: rest => b.toNat * 256 ^ rest.length + ofBytes rest

@[simp] theorem length_toBytes (width n : Nat) : (toBytes width n).length = width := by
  induction width with
  | zero => rfl
  | succ width ih => simp [toBytes, ih]

theorem getElem?_toBytes (width n : Nat) {j : Nat} (inside : j < width) :
    (toBytes width n)[j]? = some (UInt8.ofNat (n / 256 ^ (width - 1 - j))) := by
  induction width generalizing j with
  | zero => cases inside
  | succ width ih =>
    cases j with
    | zero => rfl
    | succ j =>
      rw [toBytes, List.getElem?_cons_succ, ih (Nat.lt_of_succ_lt_succ inside)]
      rw [show width + 1 - 1 - (j + 1) = width - 1 - j by omega]

theorem ofBytes_lt (bytes : List UInt8) : ofBytes bytes < 256 ^ bytes.length := by
  induction bytes with
  | nil => simp [ofBytes]
  | cons b rest ih =>
    have top := b.toNat_lt
    calc ofBytes (b :: rest) < b.toNat * 256 ^ rest.length + 256 ^ rest.length :=
          Nat.add_lt_add_left ih _
      _ = (b.toNat + 1) * 256 ^ rest.length := (Nat.succ_mul _ _).symm
      _ ≤ 256 * 256 ^ rest.length := Nat.mul_le_mul_right _ (by omega)
      _ = 256 ^ (b :: rest).length := by rw [List.length_cons, pow_succ']

theorem ofBytes_toBytes_mod (width n : Nat) : ofBytes (toBytes width n) = n % 256 ^ width := by
  induction width with
  | zero => simp [toBytes, ofBytes, Nat.mod_one]
  | succ width ih =>
    have digit : (UInt8.ofNat (n / 256 ^ width)).toNat = n / 256 ^ width % 256 := by
      simp [UInt8.toNat_ofNat']
    calc ofBytes (toBytes (width + 1) n)
        = n / 256 ^ width % 256 * 256 ^ width + n % 256 ^ width := by
          rw [toBytes, ofBytes, ih, length_toBytes, digit]
      _ = n % 256 ^ (width + 1) := by
          rw [pow_succ, Nat.mod_mul, Nat.mul_comm, Nat.add_comm]

theorem ofBytes_toBytes (width n : Nat) (fits : n < 256 ^ width) :
    ofBytes (toBytes width n) = n := by
  rw [ofBytes_toBytes_mod, Nat.mod_eq_of_lt fits]

theorem toBytes_congr_mod (width m n : Nat) (same : m % 256 ^ width = n % 256 ^ width) :
    toBytes width m = toBytes width n := by
  induction width with
  | zero => rfl
  | succ width ih =>
    have low : m % 256 ^ width = n % 256 ^ width := by
      have := congrArg (· % 256 ^ width) same
      simpa [pow_succ, Nat.mod_mul_right_mod] using this
    have high : m / 256 ^ width % 256 = n / 256 ^ width % 256 := by
      have := congrArg (· / 256 ^ width) same
      simpa [pow_succ, Nat.mod_mul_right_div_self] using this
    rw [toBytes, toBytes, ih low]
    congr 1
    apply UInt8.toNat_inj.mp
    simpa [UInt8.toNat_ofNat'] using high

theorem toBytes_ofBytes (bytes : List UInt8) : toBytes bytes.length (ofBytes bytes) = bytes := by
  induction bytes with
  | nil => rfl
  | cons b rest ih =>
    have small := ofBytes_lt rest
    have positive : 0 < 256 ^ rest.length := Nat.pow_pos (by decide)
    rw [List.length_cons, toBytes, ofBytes]
    congr 1
    · rw [Nat.add_comm, Nat.add_mul_div_right _ _ positive, Nat.div_eq_of_lt small, Nat.zero_add]
      simp
    · rw [toBytes_congr_mod rest.length _ (ofBytes rest) (by simp), ih]

theorem toBytes_injective (width : Nat) {m n : Nat} (hm : m < 256 ^ width) (hn : n < 256 ^ width)
    (same : toBytes width m = toBytes width n) : m = n := by
  rw [← ofBytes_toBytes width m hm, ← ofBytes_toBytes width n hn, same]

end BigEndian

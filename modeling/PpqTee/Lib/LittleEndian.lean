import Mathlib.Algebra.Group.Nat.Defs
import Mathlib.Data.List.Basic
import Mathlib.Tactic.Ring

/-! Little-endian numbers and fields at fixed offsets of a byte string. -/

namespace LittleEndian

def ofBytes : List UInt8 → Nat
  | [] => 0
  | b :: rest => b.toNat + 256 * ofBytes rest

theorem ofBytes_lt (bytes : List UInt8) : ofBytes bytes < 256 ^ bytes.length := by
  induction bytes with
  | nil => decide
  | cons b rest ih =>
    have low := b.toNat_lt
    rw [ofBytes, List.length_cons, pow_succ]
    omega

/-- Digit `i` to base 256 is byte `i`. -/
theorem ofBytes_digit (bytes : List UInt8) (i : Nat) :
    ofBytes bytes / 256 ^ i % 256 = (bytes.getD i 0).toNat := by
  induction bytes generalizing i with
  | nil => simp [ofBytes]
  | cons b rest ih =>
    have low := b.toNat_lt
    cases i with
    | zero =>
      rw [ofBytes, pow_zero, Nat.div_one, Nat.add_mul_mod_self_left, List.getD_cons_zero]
      exact Nat.mod_eq_of_lt low
    | succ i =>
      have shifted : ofBytes (b :: rest) / 256 ^ (i + 1) = ofBytes rest / 256 ^ i := by
        calc ofBytes (b :: rest) / 256 ^ (i + 1)
            = (b.toNat + 256 * ofBytes rest) / 256 / 256 ^ i := by
              rw [ofBytes, pow_succ', Nat.div_div_eq_div_mul]
          _ = ofBytes rest / 256 ^ i := by
              rw [Nat.add_mul_div_left _ _ (by decide), Nat.div_eq_of_lt low, Nat.zero_add]
      rw [shifted, ih, List.getD_cons_succ]

/-- The bytes from `first` up to but not including `last`. -/
def slice (raw : List UInt8) (first last : Nat) : List UInt8 := (raw.take last).drop first

theorem length_slice (raw : List UInt8) {first last : Nat} (inside : last ≤ raw.length) :
    (slice raw first last).length = last - first := by
  rw [slice, List.length_drop, List.length_take, Nat.min_eq_left inside]

theorem getD_slice (raw : List UInt8) {first last i : Nat} (inside : first + i < last) :
    (slice raw first last).getD i 0 = raw.getD (first + i) 0 := by
  simp only [slice, List.getD_eq_getElem?_getD, List.getElem?_drop, List.getElem?_take, inside,
    if_true]

theorem slice_slice (raw : List UInt8) {first last a b : Nat} (inside : first + b ≤ last) :
    slice (slice raw first last) a b = slice raw (first + a) (first + b) := by
  apply List.ext_getElem?
  intro i
  simp only [slice, List.getElem?_drop, List.getElem?_take]
  by_cases below : a + i < b
  · rw [if_pos below, if_pos (by omega), if_pos (by omega), Nat.add_assoc]
  · rw [if_neg below, if_neg (by omega)]

def field {n : Nat} (raw : Vector UInt8 n) (off len : Nat) (inside : off + len ≤ n) :
    Vector UInt8 len :=
  Vector.ofFn fun i => raw.get ⟨off + i, by omega⟩

theorem toList_field {n : Nat} (raw : Vector UInt8 n) (off len : Nat) (inside : off + len ≤ n) :
    (field raw off len inside).toList = slice raw.toList off (off + len) := by
  apply List.ext_getElem
  · rw [length_slice _ (by simpa using inside)]
    simp
  · intro i first second
    simp [field, slice, Vector.get]

end LittleEndian

import Mathlib.Data.List.Basic
/-!
# Checksum — sixteen-bit words of a byte string, and their one's complement sum

`u16At` reads and `setU16` writes a big-endian word, and leaves every other byte as it is.  The one's complement sum adds
the words of a byte string with the carry brought round, an odd last byte being the high half of a word; `fill` writes into
a word the value that brings the sum of the first bytes to all ones (`sum_fill`).
-/
namespace Checksum

def u16At (i : Nat) (bytes : List UInt8) : Nat := 256 * (bytes.getD i 0).toNat + (bytes.getD (i + 1) 0).toNat

def setU16 (i : Nat) (v : Nat) (bytes : List UInt8) : List UInt8 :=
  (bytes.set i (UInt8.ofNat (v / 256))).set (i + 1) (UInt8.ofNat v)

/-- Addition with the carry brought round. -/
def add (a b : Nat) : Nat := if a + b < 65536 then a + b else a + b - 65535

def sum : List UInt8 → Nat
  | []                => 0
  | [hi]              => 256 * hi.toNat
  | hi :: lo :: bytes => add (256 * hi.toNat + lo.toNat) (sum bytes)

/-- The word at `i` is set so that the first `n` bytes have a valid sum. -/
def fill (i n : Nat) (bytes : List UInt8) : List UInt8 :=
  let zeroed := setU16 i 0 bytes
  setU16 i (65535 - sum (zeroed.take n)) zeroed

@[simp] theorem length_setU16 (i v : Nat) (bytes : List UInt8) : (setU16 i v bytes).length = bytes.length := by
  simp [setU16]

@[simp] theorem length_fill (i n : Nat) (bytes : List UInt8) : (fill i n bytes).length = bytes.length := by
  simp [fill]

theorem word_lt (hi lo : UInt8) : 256 * hi.toNat + lo.toNat < 65536 := by
  have := hi.toNat_lt
  have := lo.toNat_lt
  omega

theorem word_ofNat {v : Nat} (hv : v < 65536) : 256 * (UInt8.ofNat (v / 256)).toNat + (UInt8.ofNat v).toNat = v := by
  simp only [UInt8.toNat_ofNat']
  omega

/-! ## What a word leaves alone -/

theorem getD_setU16_ne {i j : Nat} (hi : j ≠ i) (hi' : j ≠ i + 1) (v : Nat) (bytes : List UInt8) :
    (setU16 i v bytes).getD j 0 = bytes.getD j 0 := by
  simp only [setU16, List.getD_eq_getElem?_getD, List.getElem?_set_ne (Ne.symm hi), List.getElem?_set_ne (Ne.symm hi')]

theorem u16At_setU16_ne {i j : Nat} (h : j + 2 ≤ i ∨ i + 2 ≤ j) (v : Nat) (bytes : List UInt8) :
    u16At j (setU16 i v bytes) = u16At j bytes := by
  unfold u16At
  rw [getD_setU16_ne (by omega) (by omega), getD_setU16_ne (by omega) (by omega)]

theorem u16At_setU16_self {i v : Nat} {bytes : List UInt8} (hi : i + 1 < bytes.length) (hv : v < 65536) :
    u16At i (setU16 i v bytes) = v := by
  have hhi : (setU16 i v bytes).getD i 0 = UInt8.ofNat (v / 256) := by
    simp [setU16, Nat.lt_of_succ_lt hi]
  have hlo : (setU16 i v bytes).getD (i + 1) 0 = UInt8.ofNat v := by
    simp [setU16, hi]
  rw [u16At, hhi, hlo, word_ofNat hv]

theorem drop_setU16 {i n : Nat} (h : i + 2 ≤ n) (v : Nat) (bytes : List UInt8) :
    (setU16 i v bytes).drop n = bytes.drop n := by
  simp only [setU16, List.drop_set_of_lt (show i < n by omega), List.drop_set_of_lt (show i + 1 < n by omega)]

/-! ## The sum -/

theorem add_lt {a b : Nat} (ha : a < 65536) (hb : b < 65536) : add a b < 65536 := by
  unfold add
  split <;> omega

theorem add_left_comm {a b c : Nat} (ha : a < 65536) (hb : b < 65536) (hc : c < 65536) :
    add a (add b c) = add b (add a c) := by
  unfold add
  split <;> split <;> split <;> split <;> omega

theorem sum_lt : ∀ bytes : List UInt8, sum bytes < 65536
  | []                => by decide
  | [hi]              => by
    have := hi.toNat_lt
    show 256 * hi.toNat < 65536
    omega
  | hi :: lo :: bytes => add_lt (word_lt hi lo) (sum_lt bytes)

theorem setU16_add_two (i v : Nat) (a b : UInt8) (bytes : List UInt8) :
    setU16 (i + 2) v (a :: b :: bytes) = a :: b :: setU16 i v bytes := rfl

/-- A word of the sum can be taken out and added at the end. -/
theorem sum_setU16 {v : Nat} (hv : v < 65536) : ∀ {k : Nat} {bytes : List UInt8}, 2 * k + 1 < bytes.length →
    sum (setU16 (2 * k) v bytes) = add v (sum (setU16 (2 * k) 0 bytes))
  | 0, a :: b :: bytes, _ => by
    show add (256 * (UInt8.ofNat (v / 256)).toNat + (UInt8.ofNat v).toNat) (sum bytes) = add v (add 0 (sum bytes))
    have hzero : add 0 (sum bytes) = sum bytes := by
      unfold add
      rw [Nat.zero_add, if_pos (sum_lt bytes)]
    rw [word_ofNat hv, hzero]
  | k + 1, a :: b :: bytes, h => by
    have hlen : 2 * k + 1 < bytes.length := by
      simp only [List.length_cons] at h
      omega
    rw [Nat.mul_succ, setU16_add_two, setU16_add_two, sum, sum, sum_setU16 hv hlen]
    exact add_left_comm (word_lt a b) hv (sum_lt _)

theorem setU16_setU16 (i v w : Nat) (bytes : List UInt8) : setU16 i v (setU16 i w bytes) = setU16 i v bytes := by
  unfold setU16
  rw [List.set_comm _ _ (show i + 1 ≠ i by omega), List.set_set, List.set_set]

theorem take_setU16 (i v n : Nat) (bytes : List UInt8) : (setU16 i v bytes).take n = setU16 i v (bytes.take n) := by
  simp only [setU16, List.take_set]

/-- **What `fill` writes brings the sum to all ones.** -/
theorem sum_fill {k n : Nat} {bytes : List UInt8} (hn : n ≤ bytes.length) (hk : 2 * k + 2 ≤ n) :
    sum ((fill (2 * k) n bytes).take n) = 65535 := by
  have hlen : 2 * k + 1 < (bytes.take n).length := by
    rw [List.length_take]
    omega
  unfold fill
  simp only [setU16_setU16, take_setU16]
  have hs := sum_lt (setU16 (2 * k) 0 (bytes.take n))
  rw [sum_setU16 (by omega) hlen, add, if_pos (by omega)]
  omega

end Checksum

import Mathlib.Algebra.Group.Nat.Defs
/-!
# Bits — a number as the list of its bits

`bits w n` are the lowest `w` bits of `n`, the highest of them first, as addresses and masks are written.  A number below
`2 ^ w` is determined by them; the first of them are those of a quotient, so that two numbers have the first `p` of `w`
bits in common exactly if they are equal after division by `2 ^ (w - p)` (`take_bits_eq_iff`); and bits put after one
another are those of the sum (`bits_append`), so that `bits_high` are those of a number whose ones all come first.
-/
namespace Bits

def bits (w n : Nat) : List Bool := (List.range w).map (fun i => n.testBit (w - 1 - i))

@[simp]
theorem length_bits (w n : Nat) : (bits w n).length = w := by
  rw [bits, List.length_map, List.length_range]

@[simp]
theorem getElem_bits {w n i : Nat} (h : i < (bits w n).length) : (bits w n)[i] = n.testBit (w - 1 - i) := by
  simp only [bits, List.getElem_map, List.getElem_range]

theorem bits_inj {w n m : Nat} (hn : n < 2 ^ w) (hm : m < 2 ^ w) : bits w n = bits w m ↔ n = m := by
  refine ⟨fun h => Nat.eq_of_testBit_eq (fun j => ?_), fun h => h ▸ rfl⟩
  by_cases hj : j < w
  · have hlt : w - 1 - j < (bits w n).length := by rw [length_bits]; omega
    have hbit := List.getElem_of_eq h hlt
    rw [getElem_bits, getElem_bits] at hbit
    rwa [show w - 1 - (w - 1 - j) = j by omega] at hbit
  · -- both numbers are too small to have this bit
    have hpow : 2 ^ w ≤ 2 ^ j := Nat.pow_le_pow_right (by decide) (Nat.le_of_not_lt hj)
    rw [Nat.testBit_lt_two_pow (Nat.lt_of_lt_of_le hn hpow), Nat.testBit_lt_two_pow (Nat.lt_of_lt_of_le hm hpow)]

theorem take_bits {w p : Nat} (h : p ≤ w) (n : Nat) : (bits w n).take p = bits p (n / 2 ^ (w - p)) := by
  refine List.ext_getElem (by simp [h]) (fun i hi _ => ?_)
  have hip : i < p := by
    rw [List.length_take, length_bits] at hi
    omega
  rw [List.getElem_take, getElem_bits, getElem_bits, Nat.testBit_div_two_pow]
  congr 1
  omega

theorem take_bits_eq_iff {w p n m : Nat} (h : p ≤ w) (hn : n < 2 ^ w) (hm : m < 2 ^ w) :
    (bits w n).take p = (bits w m).take p ↔ n / 2 ^ (w - p) = m / 2 ^ (w - p) := by
  have hpow : 2 ^ w = 2 ^ p * 2 ^ (w - p) := by rw [← Nat.pow_add, Nat.add_sub_cancel' h]
  have hdiv : ∀ k, k < 2 ^ w → k / 2 ^ (w - p) < 2 ^ p := by
    intro k hk
    rw [hpow] at hk
    exact Nat.div_lt_of_lt_mul (by rwa [Nat.mul_comm])
  rw [take_bits h, take_bits h, bits_inj (hdiv n hn) (hdiv m hm)]

theorem bits_append (w n : Nat) {v m : Nat} (hm : m < 2 ^ v) : bits w n ++ bits v m = bits (w + v) (2 ^ v * n + m) := by
  refine List.ext_getElem (by simp) (fun i hi _ => ?_)
  rw [List.length_append, length_bits, length_bits] at hi
  rw [getElem_bits, Nat.testBit_two_pow_mul_add _ hm]
  by_cases hiw : i < w
  · rw [List.getElem_append_left (by simpa using hiw), getElem_bits, if_neg (by omega)]
    congr 1
    omega
  · rw [List.getElem_append_right (by simpa using Nat.le_of_not_lt hiw), getElem_bits, if_pos (by omega), length_bits]
    congr 1
    omega

theorem bits_zero (w : Nat) : bits w 0 = List.replicate w false := by
  refine List.ext_getElem (by simp) (fun i _ _ => ?_)
  rw [getElem_bits, Nat.zero_testBit, List.getElem_replicate]

theorem bits_ones (w : Nat) : bits w (2 ^ w - 1) = List.replicate w true := by
  refine List.ext_getElem (by simp) (fun i hi _ => ?_)
  rw [length_bits] at hi
  rw [getElem_bits, Nat.testBit_two_pow_sub_one, List.getElem_replicate]
  exact decide_eq_true (by omega)

/-- Ones in the first `p` places, zeros in the others. -/
theorem bits_high {w p : Nat} (h : p ≤ w) :
    bits w (2 ^ w - 2 ^ (w - p)) = List.replicate p true ++ List.replicate (w - p) false := by
  have hval : 2 ^ w - 2 ^ (w - p) = 2 ^ (w - p) * (2 ^ p - 1) + 0 := by
    rw [Nat.mul_sub, Nat.mul_one, ← Nat.pow_add, Nat.sub_add_cancel h, Nat.add_zero]
  have happ := bits_append p (2 ^ p - 1) (v := w - p) (m := 0) (Nat.two_pow_pos _)
  rw [Nat.add_sub_cancel' h, bits_ones, bits_zero] at happ
  rw [hval, happ]

/-- How many ones a list begins with. -/
def leadingOnes (l : List Bool) : Nat := (l.takeWhile id).length

theorem leadingOnes_le (l : List Bool) : leadingOnes l ≤ l.length := (List.takeWhile_prefix id).length_le

theorem leadingOnes_high (p q : Nat) : leadingOnes (List.replicate p true ++ List.replicate q false) = p := by
  have hones : ∀ b ∈ List.replicate p true, id b = true := fun b hb => (List.mem_replicate.1 hb).2
  have hzeros : (List.replicate q false).takeWhile id = [] := by cases q <;> rfl
  rw [leadingOnes, List.takeWhile_append_of_pos hones, hzeros, List.append_nil, List.length_replicate]

end Bits

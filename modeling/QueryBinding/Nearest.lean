/-! Rounding to the nearest number, ties to even: of a quotient to an integer,
and of an integer to a double. Integers of up to 53 binary digits stay as they
are. -/

namespace QueryBinding

namespace Nearest

/-- The integer nearest to a quotient. -/
def div (num den : Nat) : Nat :=
  let q := num / den
  let twice := 2 * (num % den)
  if twice < den then q else if den < twice then q + 1 else q + q % 2

/-- The result is within half a unit of the quotient. -/
theorem div_near (num : Nat) {den : Nat} (h : 0 < den) :
    2 * num ≤ (2 * div num den + 1) * den ∧ 2 * div num den * den ≤ 2 * num + den := by
  have hd : num = den * (num / den) + num % den := (Nat.div_add_mod num den).symm
  have hm := Nat.mod_lt num h
  generalize num / den = q at *
  generalize num % den = r at *
  unfold div
  subst hd
  have h1 : (den * q + r) / den = q := by
    rw [Nat.mul_add_div h, Nat.div_eq_of_lt hm, Nat.add_zero]
  have h2 : (den * q + r) % den = r := by
    rw [Nat.mul_add_mod, Nat.mod_eq_of_lt hm]
  simp only [h1, h2]
  have e1 : (2 * q + 1) * den = 2 * (den * q) + den := by
    rw [Nat.add_mul, Nat.one_mul, Nat.mul_assoc, Nat.mul_comm q]
  have e2 : (2 * (q + 1) + 1) * den = 2 * (den * q) + 3 * den := by
    rw [show 2 * (q + 1) + 1 = 2 * q + 3 by omega, Nat.add_mul, Nat.mul_assoc, Nat.mul_comm q]
  have e3 : 2 * (q + 1) * den = 2 * (den * q) + 2 * den := by
    rw [Nat.mul_add, Nat.add_mul, Nat.mul_assoc, Nat.mul_comm q]
  have e4 : 2 * q * den = 2 * (den * q) := by rw [Nat.mul_assoc, Nat.mul_comm q]
  split
  · omega
  · split
    · rw [e2, e3]; omega
    · rcases Nat.mod_two_eq_zero_or_one q with hq | hq
      · simp only [hq, Nat.add_zero]; omega
      · simp only [hq]; rw [e2, e3]; omega

/-- The double nearest to an integer. It has at most 53 binary digits before its
trailing zeros, and its size is not limited. -/
def double (n : Int) : Int :=
  let spare := n.natAbs.log2 - 52
  let unit := Nat.pow 2 spare
  let size : Nat := div n.natAbs unit * unit
  if n < 0 then -size else size

/-- Every integer of at most 53 binary digits is a double. -/
theorem double_eq_self {n : Int} (h : n.natAbs < Nat.pow 2 53) : double n = n := by
  have hlog : n.natAbs.log2 - 52 = 0 := by
    rcases Nat.eq_zero_or_pos n.natAbs with h0 | h0
    · rw [h0]; rfl
    · have := (Nat.log2_lt (Nat.pos_iff_ne_zero.mp h0)).mpr h
      omega
  have hdiv : div n.natAbs 1 = n.natAbs := by
    unfold div
    rw [Nat.div_one, Nat.mod_one]
    rfl
  have hunit : Nat.pow 2 0 = 1 := rfl
  unfold double
  simp only [hlog, hunit, hdiv, Nat.mul_one]
  split <;> omega

end Nearest

end QueryBinding

/-!
Rounding: the whole number nearest to a fraction, and to the even one of two.

`roundHalfEven_le` and `le_roundHalfEven` bound the distance by one half.
-/

namespace WordSpace.Decimal

/-- The whole number nearest to `num / den`; a half goes to the even neighbour. -/
def roundHalfEven (num den : Nat) : Nat :=
  let floor := num / den
  match compare (2 * (num % den)) den with
  | .lt => floor
  | .gt => floor + 1
  | .eq => floor + floor % 2

/-- The rounded number is at most one half above the fraction. -/
theorem roundHalfEven_le {num den : Nat} (h : 0 < den) :
    2 * (den * roundHalfEven num den) ≤ 2 * num + den := by
  have split := Nat.div_add_mod num den
  have parity := Nat.mod_lt (num / den) (by decide : 0 < 2)
  unfold roundHalfEven
  rcases hc : compare (2 * (num % den)) den with _ | _ | _
  · dsimp only
    omega
  · dsimp only
    have half := Nat.compare_eq_eq.1 hc
    rcases Nat.lt_succ_iff_lt_or_eq.1 parity with even | odd
    · rw [Nat.lt_one_iff.1 even, Nat.add_zero]
      omega
    · rw [odd, Nat.mul_add]
      omega
  · dsimp only
    have half := Nat.compare_eq_gt.1 hc
    rw [Nat.mul_add]
    omega

/-- The rounded number is at most one half below the fraction. -/
theorem le_roundHalfEven {num den : Nat} (h : 0 < den) :
    2 * num ≤ 2 * (den * roundHalfEven num den) + den := by
  have split := Nat.div_add_mod num den
  have below := Nat.mod_lt num h
  unfold roundHalfEven
  rcases hc : compare (2 * (num % den)) den with _ | _ | _
  · dsimp only
    have half := Nat.compare_eq_lt.1 hc
    omega
  · simp only [Nat.mul_add]
    have half := Nat.compare_eq_eq.1 hc
    omega
  · simp only [Nat.mul_add]
    omega

end WordSpace.Decimal

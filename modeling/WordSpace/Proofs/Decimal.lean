import Mathlib
import WordSpace.Decimal.Integer

/-!
Short numbers.

The sizes of the numbers that can be written are those below a power of ten (`Decimal.isShort_iff`).
A number that was read can always be written (`Decimal.isShort_of_integer`): one that cannot has not
come in as text.
-/

namespace WordSpace

/-! ## Digits -/

namespace Text

theorem asciiDigitValue_lt {c : Char} (digit : c.isDigit = true) : asciiDigitValue c < 10 := by
  have bounds : 48 ≤ c.toNat ∧ c.toNat ≤ 57 := by
    simpa [Char.isDigit, UInt32.le_iff_toNat_le] using digit
  unfold asciiDigitValue
  omega

/-- Digits stand for a number below the power of ten of their count. -/
theorem ofDigits_lt {ds : List Char} (digits : ∀ c ∈ ds, c.isDigit = true) :
    ofDigits ds < 10 ^ ds.length := by
  -- Each digit leaves less than ten times what it came to, so the induction is for all beginnings.
  have step (n : Nat) :
      ds.foldl (fun n c => 10 * n + asciiDigitValue c) n < (n + 1) * 10 ^ ds.length := by
    induction ds generalizing n with
    | nil => simp
    | cons c rest ih =>
      obtain ⟨first, others⟩ := List.forall_mem_cons.1 digits
      have below := asciiDigitValue_lt first
      calc rest.foldl (fun n c => 10 * n + asciiDigitValue c) (10 * n + asciiDigitValue c)
          < (10 * n + asciiDigitValue c + 1) * 10 ^ rest.length := ih others _
        _ ≤ ((n + 1) * 10) * 10 ^ rest.length := Nat.mul_le_mul_right _ (by omega)
        _ = (n + 1) * 10 ^ (c :: rest).length := by
          rw [List.length_cons, Nat.pow_succ', Nat.mul_assoc]
  rw [ofDigits]
  simpa using step 0

end Text

namespace Decimal

variable {n : Int}

/-- Without underscores a run of digits has digits only. -/
theorem forall_isDigit_of_joinDigits? {run ds : List Char} (joined : joinDigits? run = some ds)
    (digits : ∀ c ∈ run, c.isDigit = true ∨ c = '_') : ∀ c ∈ ds, c.isDigit = true := by
  fun_induction joinDigits? run generalizing ds with
  | case1 =>
    cases joined
    exact List.forall_mem_nil _
  | case2 => cases joined
  | case3 c noUnderscore =>
    cases joined
    have digit := (digits c (List.mem_singleton_self c)).resolve_right noUnderscore
    exact List.forall_mem_singleton.2 digit
  | case4 c d rest _ both ih =>
    obtain ⟨others, tail, rfl⟩ := Option.map_eq_some_iff.1 joined
    refine List.forall_mem_cons.2 ⟨(Bool.and_eq_true_iff.1 both).1, ih tail fun e member => ?_⟩
    exact digits e (List.mem_cons_of_mem c (List.mem_cons_of_mem '_' member))
  | case5 => cases joined
  | case6 c d rest noUnderscore _ ih =>
    obtain ⟨others, tail, rfl⟩ := Option.map_eq_some_iff.1 joined
    refine List.forall_mem_cons.2 ⟨?_, ih tail fun e member => ?_⟩
    · exact (digits c List.mem_cons_self).resolve_right noUnderscore
    · exact digits e (List.mem_cons_of_mem c member)

/-! ## Short numbers -/

theorem isShort_iff : IsShort n ↔ n.natAbs < 10 ^ maxDigits :=
  Nat.length_toDigits_le_iff (by decide) (by decide)

/-- A number that is not negative is short if it is below the limit. -/
theorem isShort_iff_of_nonneg (nonneg : 0 ≤ n) : IsShort n ↔ n < 10 ^ maxDigits := by
  have limit : ((10 ^ maxDigits : Nat) : Int) = 10 ^ maxDigits := Int.natCast_pow 10 maxDigits
  rw [isShort_iff, ← limit]
  omega

/-- A number from the limit on is positive, and not short. -/
theorem not_isShort_of_le (long : 10 ^ maxDigits ≤ n) : 0 < n ∧ ¬IsShort n := by
  have positive : 0 < n := (Int.pow_pos (by decide)).trans_le long
  rw [isShort_iff_of_nonneg positive.le, Int.not_lt]
  exact ⟨positive, long⟩

/-- A number that was read can be written. -/
theorem isShort_of_integer {text : String} (read : integer text = .ok n) : IsShort n := by
  unfold integer at read
  generalize splitSign (spelling text) = signed at read
  obtain ⟨negative, unsigned⟩ := signed
  dsimp only at read
  split at read
  case h_1 => cases read
  case h_2 ds joined =>
    have digits : ∀ c ∈ ds, c.isDigit = true :=
      forall_isDigit_of_joinDigits? joined fun c member => by
        simpa using List.mem_takeWhile_imp member
    have below : Text.ofDigits ds < 10 ^ ds.length := Text.ofDigits_lt digits
    split at read
    case isTrue => cases read
    case isFalse few =>
      have limit : 10 ^ ds.length ≤ 10 ^ maxDigits :=
        Nat.pow_le_pow_right (by decide) (Nat.le_of_not_lt few)
      split at read
      case isTrue => cases read
      case isFalse =>
        have size : n.natAbs = Text.ofDigits ds := by
          cases read
          split <;> simp
        rw [isShort_iff, size]
        exact below.trans_le limit

end Decimal

end WordSpace

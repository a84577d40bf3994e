import BraceScript.Plugins
import Mathlib.Algebra.Order.Field.Power
import Mathlib.Data.Rat.Cast.Order
import Mathlib.Tactic.NormNum

namespace BraceScript

namespace Double

def value (d : Double) : ℚ :=
  (if d.isNegative then -1 else 1) * (d.significand * (2 : ℚ) ^ d.exponent)

theorem ratio_pos (d : Double) : 0 < d.ratio.2 := by
  unfold ratio
  split
  · exact Nat.one_pos
  · exact Nat.pow_pos Nat.two_pos

theorem ratio_eq (d : Double) :
    (d.ratio.1 : ℚ) / d.ratio.2 = d.significand * (2 : ℚ) ^ d.exponent := by
  unfold ratio
  split
  · rename_i hexponent
    obtain ⟨n, hn⟩ := Int.eq_ofNat_of_zero_le hexponent
    rw [hn]
    simp
  · rename_i hexponent
    obtain ⟨n, hn⟩ : ∃ n : ℕ, d.exponent = -n := ⟨(-d.exponent).toNat, by omega⟩
    rw [hn]
    simp [div_eq_mul_inv]

theorem natCast_div_eq_intCast_iff {a b : ℕ} (hb : 0 < b) (k : ℤ) :
    (a : ℚ) / b = k ↔ a % b = 0 ∧ ((a / b : ℕ) : ℤ) = k := by
  have hne : (b : ℚ) ≠ 0 := by exact_mod_cast hb.ne'
  rw [div_eq_iff hne]
  constructor
  · intro h
    have hint : (a : ℤ) = k * b := by exact_mod_cast h
    have hdvd : b ∣ a := Int.natCast_dvd_natCast.mp ⟨k, by rw [hint, mul_comm]⟩
    refine ⟨Nat.mod_eq_zero_of_dvd hdvd, ?_⟩
    rw [Int.natCast_div, hint]
    exact Int.mul_ediv_cancel k (by exact_mod_cast hb.ne')
  · rintro ⟨hmod, rfl⟩
    exact_mod_cast (Nat.div_mul_cancel (Nat.dvd_of_mod_eq_zero hmod)).symm

/-- The value of a double is a whole number just if the division of its quotient leaves nothing, and
then it is the whole part. -/
theorem value_eq_intCast_iff (d : Double) (k : ℤ) :
    d.value = k ↔ d.ratio.1 % d.ratio.2 = 0 ∧ d.whole = k := by
  rw [value, ← ratio_eq, whole]
  cases d.isNegative with
  | false =>
    simpa using natCast_div_eq_intCast_iff d.ratio_pos k
  | true =>
    have hneg := natCast_div_eq_intCast_iff (a := d.ratio.1) d.ratio_pos (-k)
    simp only [if_true, neg_mul, one_mul]
    rw [neg_eq_iff_eq_neg, neg_eq_iff_eq_neg]
    exact_mod_cast hneg

theorem isWhole_iff (d : Double) :
    d.isWhole = true ↔ d.isFinite = true ∧ d.value = d.whole := by
  simp [isWhole, value_eq_intCast_iff]

end Double

namespace Plugins

/-- The text is read as a finite double that is exactly the whole number `k`, and `k` fits a signed
word of 64 bits. -/
def ReadsExactly (p : Plugins) (text : String) (k : ℤ) : Prop :=
  ∃ d, p.number? text = some d ∧ d.isFinite = true ∧ d.value = k ∧ -2 ^ 63 ≤ k ∧ k < 2 ^ 63

/-- Whole doubles of a magnitude up to `2 ^ 63` are read as whole numbers, cut to the word. -/
theorem integer?_eq_some_iff (p : Plugins) (text : String) (k : ℤ) :
    p.integer? text = some k ↔ ∃ d, p.number? text = some d ∧ d.isFinite = true ∧
      ∃ n : ℤ, d.value = n ∧ -2 ^ 63 ≤ n ∧ n ≤ 2 ^ 63 ∧ k = min n (2 ^ 63 - 1) := by
  unfold integer?
  cases p.number? text with
  | none => simp
  | some d =>
    have hbound : Nat.pow 2 63 = 2 ^ 63 := rfl
    simp only [hbound, Option.ite_none_right_eq_some, Bool.and_eq_true, decide_eq_true_eq,
      Option.some.injEq, exists_eq_left', Double.isWhole_iff]
    constructor
    · rintro ⟨⟨⟨hfinite, hvalue⟩, habs⟩, hk⟩
      exact ⟨hfinite, d.whole, hvalue, by omega, by omega, by omega⟩
    · rintro ⟨hfinite, n, hvalue, hlow, hhigh, hk⟩
      obtain rfl := ((d.value_eq_intCast_iff n).mp hvalue).2
      exact ⟨⟨⟨hfinite, hvalue⟩, by omega⟩, by omega⟩

theorem isFinite_of_decimalNumber? {text : String} {d : Double} (h : decimalNumber? text = some d) :
    d.isFinite = true := by
  unfold decimalNumber? at h
  split at h
  · cases h
  · obtain ⟨hfinite, hd⟩ := Option.ite_none_right_eq_some.mp h
    cases hd
    exact hfinite

/-- Text is read as a whole number exactly, but for the double `2 ^ 63`: it passes the test of the
range and is cut to the greatest number of the word. -/
theorem integer_exact_iff (regexSizeLimit : ℕ) (text : String) :
    (∀ k, (standard regexSizeLimit).integer? text = some k ↔
      (standard regexSizeLimit).ReadsExactly text k ∨
        k = 2 ^ 63 - 1 ∧ ∃ d, (standard regexSizeLimit).number? text = some d ∧ d.value = 2 ^ 63) ∧
    ((∀ k, (standard regexSizeLimit).integer? text = some k ↔
      (standard regexSizeLimit).ReadsExactly text k) ↔
        ∀ d, (standard regexSizeLimit).number? text = some d → d.value ≠ 2 ^ 63) := by
  have hfinite {d : Double} (hd : (standard regexSizeLimit).number? text = some d) :
      d.isFinite = true := isFinite_of_decimalNumber? hd
  generalize standard regexSizeLimit = p at hfinite ⊢
  have hcut (k : ℤ) : p.integer? text = some k ↔ p.ReadsExactly text k ∨
      k = 2 ^ 63 - 1 ∧ ∃ d, p.number? text = some d ∧ d.value = 2 ^ 63 := by
    rw [integer?_eq_some_iff]
    constructor
    · rintro ⟨d, hd, -, n, hvalue, hlow, hhigh, hk⟩
      rcases hhigh.lt_or_eq with hlt | rfl
      · obtain rfl : k = n := by omega
        exact Or.inl ⟨d, hd, hfinite hd, hvalue, hlow, hlt⟩
      · exact Or.inr ⟨hk, d, hd, by exact_mod_cast hvalue⟩
    · rintro (⟨d, hd, -, hvalue, hlow, hlt⟩ | ⟨rfl, d, hd, hvalue⟩)
      · exact ⟨d, hd, hfinite hd, k, hvalue, hlow, hlt.le, by omega⟩
      · exact ⟨d, hd, hfinite hd, 2 ^ 63, by exact_mod_cast hvalue, by omega, le_rfl, rfl⟩
  refine ⟨hcut, fun hexact d hd hvalue ↦ ?_, fun hnot k ↦ ?_⟩
  · -- The number of the word that is given for it would have to be its value.
    obtain ⟨d', hd', -, hvalue', -, -⟩ :=
      (hexact (2 ^ 63 - 1)).mp ((hcut _).mpr (Or.inr ⟨rfl, d, hd, hvalue⟩))
    obtain rfl : d = d' := Option.some.inj (hd.symm.trans hd')
    rw [hvalue] at hvalue'
    norm_num at hvalue'
  · rw [hcut, or_iff_left]
    rintro ⟨-, d, hd, hvalue⟩
    exact hnot d hd hvalue

/-- The numeral one beyond the word is read as a double of that value, and as the greatest number of
the word. -/
theorem integer_of_two_pow :
    let p := standard
    p.integer? "9223372036854775808" = some 9223372036854775807 ∧
    (∃ d, p.number? "9223372036854775808" = some d ∧ d.value = 9223372036854775808) ∧
    ¬p.ReadsExactly "9223372036854775808" 9223372036854775807 := by
  intro p
  have hnumber : p.number? "9223372036854775808" = some ⟨0x43E0000000000000⟩ := by decide +kernel
  have hvalue : Double.value ⟨0x43E0000000000000⟩ = 9223372036854775808 := by
    have hwhole : Double.value ⟨0x43E0000000000000⟩ = (9223372036854775808 : ℤ) :=
      (Double.value_eq_intCast_iff _ _).mpr (by decide +kernel)
    exact_mod_cast hwhole
  refine ⟨by decide +kernel, ⟨_, hnumber, hvalue⟩, ?_⟩
  rintro ⟨d, hd, -, hexact, -, -⟩
  obtain rfl := Option.some.inj (hnumber.symm.trans hd)
  rw [hvalue] at hexact
  norm_num at hexact

end Plugins

end BraceScript

import Mathlib.Algebra.Order.Floor.Semifield
import Mathlib.Data.Int.Log
import Mathlib.Data.Rat.Floor
import Mathlib.Tactic.FieldSimp
import Mathlib.Tactic.GCongr
import Mathlib.Tactic.Linarith
import Mathlib.Tactic.NormNum
import Mathlib.Tactic.Positivity
import Mathlib.Tactic.Ring
import PanelClient.Decimal.Binary64

/-!
# Rounding to 53 bits

What an operation on binary numbers makes of the exact result is a function of that result alone
(`Binary64.rounded`), as long as it is far from the largest and the smallest number. Rounding is
monotone (`rounded_mono`), errs by no more than one part in `2 ^ 53` (`abs_rounded_sub_le`), and
leaves the numbers of 53 significant bits alone (`IsNormal.rounded_eq`).
-/

namespace PanelClient.Binary64

/-! ## Whole numbers -/

/-- The natural number nearest to a number that is not negative, a tie going to the even one. -/
def roundEven (q : ℚ) : ℕ :=
  if 1 < 2 * (q - ⌊q⌋₊) ∨ 2 * (q - ⌊q⌋₊) = 1 ∧ ⌊q⌋₊ % 2 = 1 then ⌊q⌋₊ + 1 else ⌊q⌋₊

theorem floor_le_roundEven (q : ℚ) : ⌊q⌋₊ ≤ roundEven q := by
  unfold roundEven
  split <;> omega

theorem roundEven_le_floor_succ (q : ℚ) : roundEven q ≤ ⌊q⌋₊ + 1 := by
  unfold roundEven
  split <;> omega

theorem roundEven_mono {p q : ℚ} (h : p ≤ q) : roundEven p ≤ roundEven q := by
  rcases (Nat.floor_mono h).lt_or_eq with hlt | heq
  · exact (roundEven_le_floor_succ p).trans (hlt.trans_le (floor_le_roundEven q))
  · -- on the same whole number the conditions for the next one are monotone
    unfold roundEven
    rw [heq]
    split
    · next hup =>
      rw [if_pos]
      rcases hup with hmore | ⟨htie, hodd⟩
      · exact .inl (by linarith)
      · rcases h.lt_or_eq with hlt | rfl
        · exact .inl (by linarith)
        · exact .inr ⟨htie, hodd⟩
    · split <;> omega

@[simp] theorem roundEven_natCast (n : ℕ) : roundEven n = n := by
  simp [roundEven]

theorem abs_roundEven_sub_le {q : ℚ} (h : 0 ≤ q) : |(roundEven q : ℚ) - q| ≤ 1 / 2 := by
  have hle := Nat.floor_le h
  have hlt := Nat.lt_floor_add_one q
  unfold roundEven
  rw [abs_le]
  split
  · next hup =>
    rw [Nat.cast_add_one]
    rcases hup with hmore | ⟨htie, -⟩ <;> constructor <;> linarith
  · next hdown =>
    have hhalf : 2 * (q - ⌊q⌋₊) ≤ 1 := not_lt.1 fun hmore => hdown (.inl hmore)
    constructor <;> linarith

/-- The quotient of natural numbers is rounded as the number that it is. -/
theorem roundQuotient_eq (num : ℕ) {den : ℕ} (h : 0 < den) :
    roundQuotient num den = roundEven (num / den) := by
  have hden : (0 : ℚ) < den := Nat.cast_pos.2 h
  have hfraction : 2 * ((num : ℚ) / den - (num / den : ℕ)) = (2 * (num % den) : ℕ) / den := by
    have hsplit : (num : ℚ) = den * (num / den : ℕ) + (num % den : ℕ) := by
      exact_mod_cast (Nat.div_add_mod num den).symm
    rw [eq_div_iff hden.ne', mul_assoc, sub_mul, div_mul_cancel₀ _ hden.ne']
    push_cast
    linarith
  unfold roundQuotient roundEven
  simp only [Nat.floor_div_eq_div, hfraction, one_lt_div hden, div_eq_one_iff_eq hden.ne',
    Nat.cast_lt, Nat.cast_inj, Bool.or_eq_true, Bool.and_eq_true, decide_eq_true_eq, beq_iff_eq]

/-! ## Numbers of 53 significant bits -/

/-- How far the numbers of 53 significant bits are from each other where the number lies. -/
def unit (q : ℚ) : ℚ := 2 ^ (Int.log 2 q - 52)

/-- The number of 53 significant bits that is nearest to a number, a tie going to the even one. -/
def rounded (q : ℚ) : ℚ := roundEven (q / unit q) * unit q

theorem unit_pos (q : ℚ) : 0 < unit q := zpow_pos two_pos _

theorem unit_mul_two_pow (q : ℚ) (n : ℕ) : 2 ^ n * unit q = 2 ^ (Int.log 2 q + (n - 52 : ℤ)) := by
  rw [unit, ← zpow_natCast, ← zpow_add₀ two_ne_zero]
  congr 1
  ring

variable {p q : ℚ}

theorem two_pow_mul_unit_le (h : 0 < q) : 2 ^ 52 * unit q ≤ q := by
  rw [unit_mul_two_pow]
  simpa using Int.zpow_log_le_self one_lt_two h

theorem lt_two_pow_mul_unit (q : ℚ) : q < 2 ^ 53 * unit q := by
  rw [unit_mul_two_pow]
  simpa using Int.lt_zpow_succ_log_self one_lt_two q

theorem two_pow_le_roundEven (h : 0 < q) : 2 ^ 52 ≤ roundEven (q / unit q) := by
  have hle : ((2 ^ 52 : ℕ) : ℚ) ≤ q / unit q := by
    rw [le_div_iff₀ (unit_pos q)]
    exact_mod_cast two_pow_mul_unit_le h
  have hmono := roundEven_mono hle
  rwa [roundEven_natCast] at hmono

theorem roundEven_le_two_pow (q : ℚ) : roundEven (q / unit q) ≤ 2 ^ 53 := by
  have hle : q / unit q ≤ ((2 ^ 53 : ℕ) : ℚ) := by
    rw [div_le_iff₀ (unit_pos q)]
    exact_mod_cast (lt_two_pow_mul_unit q).le
  have hmono := roundEven_mono hle
  rwa [roundEven_natCast] at hmono

theorem abs_rounded_sub_le_unit (h : 0 < q) : |rounded q - q| ≤ unit q / 2 := by
  have hunit := unit_pos q
  have herror := abs_roundEven_sub_le (div_pos h hunit).le
  have hscale : rounded q - q = (roundEven (q / unit q) - q / unit q) * unit q := by
    rw [rounded, sub_mul, div_mul_cancel₀ _ hunit.ne']
  rw [hscale, abs_mul, abs_of_pos hunit]
  calc |(roundEven (q / unit q) : ℚ) - q / unit q| * unit q
    _ ≤ 1 / 2 * unit q := by gcongr
    _ = unit q / 2 := by ring

/-- Rounding errs by no more than one part in `2 ^ 53`. -/
theorem abs_rounded_sub_le (h : 0 < q) : |rounded q - q| ≤ q / 2 ^ 53 := by
  have hunit := two_pow_mul_unit_le h
  refine (abs_rounded_sub_le_unit h).trans ?_
  rw [div_le_div_iff₀ two_pos (by positivity)]
  linarith

theorem rounded_mono (hp : 0 < p) (h : p ≤ q) : rounded p ≤ rounded q := by
  have hq : 0 < q := hp.trans_le h
  rcases (Int.log_mono_right (b := 2) hp h).lt_or_eq with hlt | heq
  · -- a power of two lies between them
    have hbetween : 2 ^ 53 * unit p ≤ 2 ^ 52 * unit q := by
      rw [unit_mul_two_pow, unit_mul_two_pow]
      exact zpow_le_zpow_right₀ one_le_two (by push_cast; omega)
    calc rounded p
      _ ≤ 2 ^ 53 * unit p := by
        have hle := roundEven_le_two_pow p
        have hunit := unit_pos p
        unfold rounded
        gcongr
        exact_mod_cast hle
      _ ≤ 2 ^ 52 * unit q := hbetween
      _ ≤ rounded q := by
        have hle := two_pow_le_roundEven hq
        have hunit := unit_pos q
        unfold rounded
        gcongr
        exact_mod_cast hle
  · have hsame : unit p = unit q := by rw [unit, unit, heq]
    have hunit := unit_pos q
    unfold rounded
    rw [hsame]
    gcongr
    exact roundEven_mono (by gcongr)

/-- A positive number of 53 significant bits. -/
def IsNormal (q : ℚ) : Prop :=
  ∃ (mantissa : ℕ) (exponent : ℤ), 2 ^ 52 ≤ mantissa ∧ mantissa < 2 ^ 53 ∧
    q = mantissa * 2 ^ exponent

theorem isNormal_rounded (h : 0 < q) : IsNormal (rounded q) := by
  have hleast := two_pow_le_roundEven h
  rcases (roundEven_le_two_pow q).lt_or_eq with hlt | heq
  · exact ⟨_, _, hleast, hlt, rfl⟩
  · refine ⟨2 ^ 52, Int.log 2 q - 51, le_rfl, by norm_num, ?_⟩
    have hstep : unit q * 2 = 2 ^ (Int.log 2 q - 51) := by
      rw [unit, ← zpow_add_one₀ two_ne_zero]
      congr 1
      ring
    rw [rounded, heq, ← hstep]
    push_cast
    ring

theorem IsNormal.pos (h : IsNormal q) : 0 < q := by
  obtain ⟨mantissa, exponent, hleast, -, rfl⟩ := h
  exact mul_pos (Nat.cast_pos.2 (by omega)) (zpow_pos two_pos _)

/-- The power of two of a number is told by any bounds. -/
theorem log_eq {exponent : ℤ} (hle : 2 ^ exponent ≤ q) (hlt : q < 2 ^ (exponent + 1)) :
    Int.log 2 q = exponent := by
  have hpos : 0 < q := (zpow_pos two_pos exponent).trans_le hle
  have hlower : exponent ≤ Int.log 2 q :=
    (Int.zpow_le_iff_le_log one_lt_two hpos).1 (by exact_mod_cast hle)
  have hupper : Int.log 2 q < exponent + 1 :=
    (Int.lt_zpow_iff_log_lt one_lt_two hpos).1 (by exact_mod_cast hlt)
  omega

theorem log_mantissa {mantissa : ℕ} {exponent : ℤ} (hleast : 2 ^ 52 ≤ mantissa)
    (hlt : mantissa < 2 ^ 53) : Int.log 2 ((mantissa : ℚ) * 2 ^ exponent) = exponent + 52 := by
  have hpow (n : ℕ) : (2 : ℚ) ^ (exponent + n) = 2 ^ n * 2 ^ exponent := by
    rw [zpow_add₀ two_ne_zero, zpow_natCast, mul_comm]
  have hexponent : (0 : ℚ) < 2 ^ exponent := zpow_pos two_pos _
  apply log_eq
  · rw [show exponent + 52 = exponent + (52 : ℕ) from rfl, hpow]
    gcongr
    exact_mod_cast hleast
  · rw [show exponent + 52 + 1 = exponent + (53 : ℕ) by push_cast; ring, hpow]
    gcongr
    exact_mod_cast hlt

/-- A number of 53 significant bits is rounded to itself. -/
theorem IsNormal.rounded_eq (h : IsNormal q) : rounded q = q := by
  obtain ⟨mantissa, exponent, hleast, hlt, rfl⟩ := h
  have hunit : unit (mantissa * 2 ^ exponent) = 2 ^ exponent := by
    rw [unit, log_mantissa hleast hlt, add_sub_cancel_right]
  rw [rounded, hunit, mul_div_cancel_right₀ _ (zpow_pos two_pos _).ne', roundEven_natCast]

theorem isNormal_natCast {n : ℕ} (hpos : 0 < n) (hle : n ≤ 2 ^ 53) : IsNormal (n : ℚ) := by
  rcases hle.lt_or_eq with hlt | rfl
  · have hlog : n.log2 ≤ 52 := Nat.lt_succ_iff.1 ((Nat.log2_lt hpos.ne').2 hlt)
    have hlower : 2 ^ n.log2 ≤ n := Nat.log2_self_le hpos.ne'
    have hupper : n < 2 ^ (n.log2 + 1) := Nat.lt_log2_self
    refine ⟨n * 2 ^ (52 - n.log2), -(52 - n.log2 : ℕ), ?_, ?_, ?_⟩
    · calc 2 ^ 52
        _ = 2 ^ n.log2 * 2 ^ (52 - n.log2) := by rw [← pow_add]; congr 1; omega
        _ ≤ n * 2 ^ (52 - n.log2) := by gcongr
    · calc n * 2 ^ (52 - n.log2)
        _ < 2 ^ (n.log2 + 1) * 2 ^ (52 - n.log2) := by gcongr
        _ = 2 ^ 53 := by rw [← pow_add]; congr 1; omega
    · push_cast
      rw [mul_assoc, zpow_neg, zpow_natCast, mul_inv_cancel₀ (by positivity), mul_one]
  · exact ⟨2 ^ 52, 1, le_rfl, by norm_num, by norm_num⟩

/-- The numbers of 53 significant bits are apart by more than one part in `2 ^ 53`. -/
theorem IsNormal.le_of_lt (hp : IsNormal p) (hq : IsNormal q) (h : p < q) :
    p ≤ (1 - 1 / 2 ^ 53) * q := by
  have hmono := Int.log_mono_right (b := 2) hp.pos h.le
  obtain ⟨m, e, hmleast, hm, rfl⟩ := hp
  obtain ⟨n, f, hnleast, hn, rfl⟩ := hq
  rw [log_mantissa hmleast hm, log_mantissa hnleast hn] at hmono
  have hpow : (0 : ℚ) < 2 ^ e := zpow_pos two_pos _
  rcases (show e ≤ f by omega).lt_or_eq with hlt | rfl
  · have hm' : (m : ℚ) ≤ 2 ^ 53 - 1 := by
      have : (m : ℚ) + 1 ≤ 2 ^ 53 := by exact_mod_cast hm
      linarith
    have hn' : (2 : ℚ) ^ 52 ≤ n := by exact_mod_cast hnleast
    have hstep : (2 : ℚ) ^ e * 2 ≤ 2 ^ f := by
      rw [← zpow_add_one₀ two_ne_zero]
      exact zpow_le_zpow_right₀ one_le_two hlt
    calc (m : ℚ) * 2 ^ e
      _ ≤ (2 ^ 53 - 1) * 2 ^ e := by gcongr
      _ = (1 - 1 / 2 ^ 53) * (2 ^ 52 * (2 ^ e * 2)) := by ring
      _ ≤ (1 - 1 / 2 ^ 53) * (n * 2 ^ f) := by
        have : (0 : ℚ) ≤ 1 - 1 / 2 ^ 53 := by norm_num
        gcongr
  · have hless : (m : ℚ) + 1 ≤ n := by
      exact_mod_cast lt_of_mul_lt_mul_right h hpow.le
    have hn' : (n : ℚ) / 2 ^ 53 ≤ 1 := by
      rw [div_le_one (by positivity)]
      exact_mod_cast hn.le
    calc (m : ℚ) * 2 ^ e
      _ ≤ (n - n / 2 ^ 53) * 2 ^ e := by gcongr; linarith
      _ = (1 - 1 / 2 ^ 53) * (n * 2 ^ e) := by ring

/-! ## The operations -/

/-- The magnitude of a number. -/
def value (x : Binary64) : ℚ := x.mantissa * 2 ^ x.exponent

/-- Neither a subnormal number nor beyond the largest number. -/
def IsInRange (q : ℚ) : Prop := -1022 ≤ Int.log 2 q ∧ Int.log 2 q < 1023

theorem isInRange_of_le (hlower : 1 / 2 ^ 100 ≤ q) (hupper : q ≤ 2 ^ 100) : IsInRange q := by
  have hpos : 0 < q := lt_of_lt_of_le (by positivity) hlower
  constructor
  · have hlog : -100 ≤ Int.log 2 q :=
      (Int.zpow_le_iff_le_log one_lt_two hpos).1 (by simpa [zpow_neg] using hlower)
    omega
  · have hlog : Int.log 2 q ≤ Int.log 2 ((2 : ℚ) ^ (100 : ℤ)) := Int.log_mono_right hpos hupper
    have hpow : Int.log 2 ((2 : ℚ) ^ (100 : ℤ)) = 100 := Int.log_zpow one_lt_two 100
    omega

section Nearest

variable {num den : ℕ}

theorem scaled_eq (num : ℕ) (hden : 0 < den) (exponent : ℤ) :
    0 < (scaled num den exponent).2 ∧
      ((scaled num den exponent).1 : ℚ) / (scaled num den exponent).2 =
        num / den / 2 ^ exponent := by
  unfold scaled
  split
  · next hle =>
    obtain ⟨k, rfl⟩ := Int.eq_ofNat_of_zero_le hle
    rw [Int.toNat_natCast, Nat.shiftLeft_eq, zpow_natCast]
    refine ⟨by positivity, ?_⟩
    push_cast
    rw [div_div]
  · next hlt =>
    obtain ⟨k, hk⟩ := Int.eq_ofNat_of_zero_le (show 0 ≤ -exponent by omega)
    obtain rfl : exponent = -(k : ℤ) := by omega
    rw [neg_neg, Int.toNat_natCast, Nat.shiftLeft_eq, zpow_neg, zpow_natCast, div_inv_eq_mul]
    refine ⟨hden, ?_⟩
    push_cast
    ring

/-- The exponent is found by the lengths of numerator and denominator and one comparison. -/
theorem exponentOf_eq (hnum : 0 < num) (hden : 0 < den)
    (h : -1022 ≤ Int.log 2 ((num : ℚ) / den)) :
    exponentOf num den = Int.log 2 ((num : ℚ) / den) - 52 := by
  have hq : (0 : ℚ) < num / den := by positivity
  have hlower : ((num.log2 : ℤ) - den.log2) - 1 ≤ Int.log 2 ((num : ℚ) / den) := by
    have hleast : (2 : ℚ) ^ num.log2 ≤ num := by exact_mod_cast Nat.log2_self_le hnum.ne'
    have hmost : (den : ℚ) ≤ 2 ^ (den.log2 + 1) := by exact_mod_cast Nat.lt_log2_self.le
    apply (Int.zpow_le_iff_le_log one_lt_two hq).1
    calc ((2 : ℕ) : ℚ) ^ ((num.log2 : ℤ) - den.log2 - 1)
      _ = 2 ^ num.log2 / 2 ^ (den.log2 + 1) := by
        rw [sub_sub, Nat.cast_ofNat, zpow_sub₀ two_ne_zero]
        norm_cast
      _ ≤ num / den := by gcongr
  have hupper : Int.log 2 ((num : ℚ) / den) < ((num.log2 : ℤ) - den.log2) + 1 := by
    have hmost : (num : ℚ) < 2 ^ (num.log2 + 1) := by exact_mod_cast Nat.lt_log2_self
    have hleast : (2 : ℚ) ^ den.log2 ≤ den := by exact_mod_cast Nat.log2_self_le hden.ne'
    apply (Int.lt_zpow_iff_log_lt one_lt_two hq).1
    calc (num : ℚ) / den
      _ < 2 ^ (num.log2 + 1) / 2 ^ den.log2 := by gcongr
      _ = ((2 : ℕ) : ℚ) ^ ((num.log2 : ℤ) - den.log2 + 1) := by
        rw [sub_add_eq_add_sub, Nat.cast_ofNat, zpow_sub₀ two_ne_zero]
        norm_cast
  obtain ⟨hpos, hscaled⟩ := scaled_eq num hden ((num.log2 : ℤ) - den.log2 - 53)
  -- the comparison tells which of the two possible exponents it is
  have hcompare : (scaled num den ((num.log2 : ℤ) - den.log2 - 53)).1 /
      (scaled num den ((num.log2 : ℤ) - den.log2 - 53)).2 < 1 <<< 53 ↔
      Int.log 2 ((num : ℚ) / den) < (num.log2 : ℤ) - den.log2 := by
    rw [Nat.div_lt_iff_lt_mul hpos, ← Int.lt_zpow_iff_log_lt one_lt_two hq, ← Nat.cast_lt (α := ℚ),
      Nat.cast_mul, ← div_lt_iff₀ (Nat.cast_pos.2 hpos), hscaled,
      div_lt_iff₀ (zpow_pos two_pos _), Nat.shiftLeft_eq, one_mul, Nat.cast_pow, Nat.cast_ofNat,
      ← zpow_natCast, ← zpow_add₀ two_ne_zero]
    norm_num
  simp only [exponentOf, hcompare]
  unfold leastExponent
  split <;> omega

/-- In the range of numbers the quotient is rounded as the number that it is. -/
theorem exists_nearest? (negative : Bool) (hnum : 0 < num) (hden : 0 < den)
    (h : IsInRange ((num : ℚ) / den)) :
    ∃ x, nearest? negative num den = some x ∧ x.value = rounded (num / den) := by
  have hq : (0 : ℚ) < num / den := by positivity
  have hexponent := exponentOf_eq hnum hden h.1
  obtain ⟨hpos, hscaled⟩ := scaled_eq num hden (exponentOf num den)
  have hunit : (2 : ℚ) ^ exponentOf num den = unit (num / den) := by rw [hexponent, unit]
  have hmantissa : roundQuotient (scaled num den (exponentOf num den)).1
      (scaled num den (exponentOf num den)).2 =
        roundEven ((num : ℚ) / den / unit (num / den)) := by
    rw [roundQuotient_eq _ hpos, hscaled, hunit]
  have hrange := h.2
  unfold nearest? greatestExponent
  rw [if_neg hnum.ne']
  dsimp only
  rw [hmantissa]
  split
  · next hcarry =>
    refine ⟨_, if_neg (by omega), ?_⟩
    rw [value, rounded, hcarry, ← hunit, zpow_add_one₀ two_ne_zero, Nat.shiftLeft_eq,
      Nat.shiftLeft_eq]
    push_cast
    ring
  · refine ⟨_, if_neg (by omega), ?_⟩
    rw [value, rounded, ← hunit]

end Nearest

theorem quotient_eq (x : Binary64) :
    0 < x.quotient.2 ∧ (x.quotient.1 : ℚ) / x.quotient.2 = x.value := by
  unfold quotient value
  split
  · next hle =>
    obtain ⟨k, hk⟩ := Int.eq_ofNat_of_zero_le hle
    rw [hk, Int.toNat_natCast, Nat.shiftLeft_eq, zpow_natCast]
    exact ⟨one_pos, by push_cast; ring⟩
  · next hlt =>
    obtain ⟨k, hk⟩ := Int.eq_ofNat_of_zero_le (show 0 ≤ -x.exponent by omega)
    rw [hk, Int.toNat_natCast, Nat.shiftLeft_eq, one_mul,
      show x.exponent = -(k : ℤ) by omega, zpow_neg, zpow_natCast]
    exact ⟨by positivity, by push_cast; ring⟩

theorem quotient_pos {x : Binary64} (h : 0 < x.value) : 0 < x.quotient.1 := by
  obtain ⟨hden, hvalue⟩ := x.quotient_eq
  rw [← hvalue, div_pos_iff_of_pos_right (Nat.cast_pos.2 hden)] at h
  exact_mod_cast h

theorem exists_ofNat? {n : ℕ} (hpos : 0 < n) (hle : n ≤ 2 ^ 64) :
    ∃ x, ofNat? n = some x ∧ x.value = rounded n := by
  have hleast : (1 : ℚ) ≤ n := by exact_mod_cast hpos
  have hmost : (n : ℚ) ≤ 2 ^ 64 := by exact_mod_cast hle
  have hone : (n : ℚ) / (1 : ℕ) = n := by rw [Nat.cast_one, div_one]
  have hrange : IsInRange (n : ℚ) :=
    isInRange_of_le (by norm_num; linarith) (hmost.trans (by norm_num))
  rw [← hone] at hrange ⊢
  exact exists_nearest? false hpos one_pos hrange

section Operations

variable {x y : Binary64}

theorem exists_div? (hx : 0 < x.value) (hy : 0 < y.value) (h : IsInRange (x.value / y.value)) :
    ∃ z, x.div? y = some z ∧ z.value = rounded (x.value / y.value) := by
  obtain ⟨hxden, hxvalue⟩ := x.quotient_eq
  obtain ⟨hyden, hyvalue⟩ := y.quotient_eq
  have hxnum := quotient_pos hx
  have hynum := quotient_pos hy
  have hquotient : ((x.quotient.1 * y.quotient.2 : ℕ) : ℚ) / (x.quotient.2 * y.quotient.1 : ℕ) =
      x.value / y.value := by
    rw [← hxvalue, ← hyvalue, div_div_div_eq, Nat.cast_mul, Nat.cast_mul]
  rw [← hquotient] at h ⊢
  unfold div?
  dsimp only
  rw [if_neg hynum.ne']
  exact exists_nearest? _ (by positivity) (by positivity) h

theorem exists_mul? (hx : 0 < x.value) (hy : 0 < y.value) (h : IsInRange (x.value * y.value)) :
    ∃ z, x.mul? y = some z ∧ z.value = rounded (x.value * y.value) := by
  obtain ⟨hxden, hxvalue⟩ := x.quotient_eq
  obtain ⟨hyden, hyvalue⟩ := y.quotient_eq
  have hxnum := quotient_pos hx
  have hynum := quotient_pos hy
  have hquotient : ((x.quotient.1 * y.quotient.1 : ℕ) : ℚ) / (x.quotient.2 * y.quotient.2 : ℕ) =
      x.value * y.value := by
    rw [← hxvalue, ← hyvalue, div_mul_div_comm, Nat.cast_mul, Nat.cast_mul]
  rw [← hquotient] at h ⊢
  exact exists_nearest? _ (by positivity) (by positivity) h

theorem floor_eq (x : Binary64) : x.floor = ⌊x.value⌋₊ := by
  obtain ⟨-, hvalue⟩ := x.quotient_eq
  rw [← hvalue, Nat.floor_div_eq_div]
  rfl

/-! ## Zero -/

variable {z : Binary64}

theorem quotient_of_zero (h : x.mantissa = 0) : x.quotient.1 = 0 := by
  unfold quotient
  split <;> simp [h]

theorem nearest?_zero (negative : Bool) (den : ℕ) :
    nearest? negative 0 den = some ⟨negative, 0, leastExponent⟩ := if_pos rfl

theorem div?_of_zero (h : x.mantissa = 0) (hz : x.div? y = some z) : z.mantissa = 0 := by
  simp only [div?, quotient_of_zero h, zero_mul, nearest?_zero] at hz
  split at hz <;> cases hz
  rfl

theorem mul?_of_zero (h : x.mantissa = 0) (hz : x.mul? y = some z) : z.mantissa = 0 := by
  simp only [mul?, quotient_of_zero h, zero_mul, nearest?_zero] at hz
  cases hz
  rfl

theorem floor_of_zero (h : x.mantissa = 0) : x.floor = 0 := by
  simp [floor_eq, value, h]

end Operations

end PanelClient.Binary64

import PanelClient.Proofs.Decimal.Rounding
import PanelClient.Screen.Usage

/-!
# The percentage of usage

The percentage is reckoned with four roundings and then cut off (`percentOf_eq`), so it is the
percentage of exact arithmetic except where a hundredfold of the traffic is next to a whole multiple
of the allowance (`percentOf_cases`). Under an allowance of no more than `2 ^ 45` bytes just three
percentages are missed, and only where they are reached exactly (`percentOf_of_le`).
-/

namespace PanelClient.Usage

open Binary64

/-- A hundredfold of the used share, as binary numbers come to it. -/
def hundredfold (used total : ℕ) : ℚ :=
  rounded (rounded (rounded used / rounded total) * 100)

variable {used total : ℕ}

/-! ## What the binary numbers come to -/

theorem rounded_hundred : rounded 100 = 100 := by
  have hnormal := isNormal_natCast (n := 100) (by norm_num) (by norm_num)
  exact_mod_cast hnormal.rounded_eq

theorem rounded_pos {q : ℚ} (h : 0 < q) : 0 < rounded q := (isNormal_rounded h).pos

/-- Powers of two are bounds for a number if they are for what it is rounded to. -/
theorem rounded_mem_of_mem {q : ℚ} {low high : ℤ} (hlow : 2 ^ low ≤ q) (hhigh : q ≤ 2 ^ high) :
    2 ^ low ≤ rounded q ∧ rounded q ≤ 2 ^ high := by
  have hpower (exponent : ℤ) : rounded (2 ^ exponent) = 2 ^ exponent := by
    refine IsNormal.rounded_eq ⟨2 ^ 52, exponent - 52, le_rfl, by norm_num, ?_⟩
    rw [zpow_sub₀ two_ne_zero]
    norm_num
    field_simp
  have hpos : (0 : ℚ) < 2 ^ low := zpow_pos two_pos _
  rw [← hpower low, ← hpower high]
  exact ⟨rounded_mono hpos hlow, rounded_mono (hpos.trans_le hlow) hhigh⟩

theorem rounded_word_mem {n : ℕ} (hpos : 0 < n) (hle : n ≤ 2 ^ 63) :
    1 ≤ rounded n ∧ rounded n ≤ 2 ^ 63 := by
  have hlow : (2 : ℚ) ^ (0 : ℤ) ≤ n := by
    rw [zpow_zero]
    exact_mod_cast hpos
  have hhigh : (n : ℚ) ≤ 2 ^ (63 : ℤ) := by exact_mod_cast hle
  exact_mod_cast rounded_mem_of_mem hlow hhigh

theorem percentOf_eq (hused : 0 < used) (husedle : used ≤ 2 ^ 63) (htotal : 0 < total)
    (htotalle : total ≤ 2 ^ 63) :
    percentOf used total = min 100 ⌊hundredfold used total⌋₊ := by
  obtain ⟨x, hx, hxvalue⟩ := exists_ofNat? hused (husedle.trans (by norm_num))
  obtain ⟨y, hy, hyvalue⟩ := exists_ofNat? htotal (htotalle.trans (by norm_num))
  obtain ⟨c, hc, hcvalue⟩ := exists_ofNat? (n := 100) (by norm_num) (by norm_num)
  obtain ⟨hxlow, hxhigh⟩ := rounded_word_mem hused husedle
  obtain ⟨hylow, hyhigh⟩ := rounded_word_mem htotal htotalle
  have hcvalue : c.value = 100 := hcvalue.trans (by exact_mod_cast rounded_hundred)
  rw [← hxvalue] at hxlow hxhigh
  rw [← hyvalue] at hylow hyhigh
  have hxpos : 0 < x.value := one_pos.trans_le hxlow
  have hypos : 0 < y.value := one_pos.trans_le hylow
  have hlow : (2 : ℚ) ^ (-63 : ℤ) ≤ x.value / y.value := by
    rw [le_div_iff₀ hypos]
    norm_num
    linarith
  have hhigh : x.value / y.value ≤ (2 : ℚ) ^ (63 : ℤ) := by
    rw [div_le_iff₀ hypos]
    norm_num
    linarith
  obtain ⟨hrlow, hrhigh⟩ := rounded_mem_of_mem hlow hhigh
  norm_num at hlow hhigh hrlow hrhigh
  obtain ⟨r, hr, hrvalue⟩ := exists_div? hxpos hypos
    (isInRange_of_le (by norm_num; linarith) (by norm_num; linarith))
  rw [← hrvalue] at hrlow hrhigh
  obtain ⟨h, hh, hhvalue⟩ := exists_mul? (x := r) (y := c) (by linarith) (by linarith)
    (isInRange_of_le (by rw [hcvalue]; norm_num; linarith) (by rw [hcvalue]; norm_num; linarith))
  simp only [percentOf, hx, hy, hc, hr, hh, Option.bind_eq_bind, Option.bind_some, Option.map_some,
    Option.getD_some, floor_eq]
  rw [hhvalue, hrvalue, hxvalue, hyvalue, hcvalue, hundredfold]

/-- Of nothing no share is used. -/
theorem percentOf_zero (total : ℕ) : percentOf 0 total = 0 := by
  unfold percentOf
  dsimp only
  cases hresult : (do
    let ratio ← (← ofNat? 0).div? (← ofNat? total)
    ratio.mul? (← ofNat? 100)) with
  | none => rfl
  | some z =>
    simp only [Option.bind_eq_bind, Option.bind_eq_some_iff] at hresult
    obtain ⟨x, hx, y, -, ratio, hratio, c, -, hz⟩ := hresult
    obtain rfl : _ = x := Option.some.inj ((nearest?_zero false 1).symm.trans hx)
    have hnone : z.mantissa = 0 := mul?_of_zero (div?_of_zero rfl hratio) hz
    rw [Option.map_some, Option.getD_some, floor_of_zero hnone]
    rfl

/-! ## Errors -/

theorem rounded_bounds {q : ℚ} (h : 0 < q) :
    (1 - 1 / 2 ^ 53) * q ≤ rounded q ∧ rounded q ≤ (1 + 1 / 2 ^ 53) * q := by
  have herror := abs_le.1 (abs_rounded_sub_le h)
  constructor <;> linarith [herror.1, herror.2]

/-- The errors of the last two roundings. -/
theorem rounded_mul_bounds {q : ℚ} (h : 0 < q) :
    (1 - 1 / 2 ^ 53) ^ 2 * (100 * q) ≤ rounded (rounded q * 100) ∧
      rounded (rounded q * 100) ≤ (1 + 1 / 2 ^ 53) ^ 2 * (100 * q) := by
  have hpos := rounded_pos h
  obtain ⟨hlow, hhigh⟩ := rounded_bounds h
  obtain ⟨hlow', hhigh'⟩ := rounded_bounds (q := rounded q * 100) (by positivity)
  constructor
  · calc (1 - 1 / 2 ^ 53) ^ 2 * (100 * q)
      _ = (1 - 1 / 2 ^ 53) * ((1 - 1 / 2 ^ 53) * q * 100) := by ring
      _ ≤ (1 - 1 / 2 ^ 53) * (rounded q * 100) := by gcongr
      _ ≤ rounded (rounded q * 100) := hlow'
  · calc rounded (rounded q * 100)
      _ ≤ (1 + 1 / 2 ^ 53) * (rounded q * 100) := hhigh'
      _ ≤ (1 + 1 / 2 ^ 53) * ((1 + 1 / 2 ^ 53) * q * 100) := by gcongr
      _ = (1 + 1 / 2 ^ 53) ^ 2 * (100 * q) := by ring

/-- All four roundings together err by no more than one part in `2 ^ 50`. -/
theorem abs_hundredfold_sub_le (hused : 0 < used) (htotal : 0 < total) :
    |hundredfold used total - 100 * used / total| ≤ 100 * used / total / 2 ^ 50 := by
  have hu : (0 : ℚ) < used := Nat.cast_pos.2 hused
  have ht : (0 : ℚ) < total := Nat.cast_pos.2 htotal
  have hupos := rounded_pos hu
  have htpos := rounded_pos ht
  obtain ⟨hulow, huhigh⟩ := rounded_bounds hu
  obtain ⟨htlow, hthigh⟩ := rounded_bounds ht
  obtain ⟨hlow, hhigh⟩ := rounded_mul_bounds (div_pos hupos htpos)
  have hlow : (1 - 1 / 2 ^ 50) * (100 * used / total : ℚ) ≤ hundredfold used total :=
    calc (1 - 1 / 2 ^ 50) * (100 * used / total : ℚ)
      _ ≤ ((1 - 1 / 2 ^ 53) ^ 3 / (1 + 1 / 2 ^ 53)) * (100 * used / total : ℚ) := by
        gcongr
        norm_num
      _ = (1 - 1 / 2 ^ 53) ^ 2 *
          (100 * ((1 - 1 / 2 ^ 53) * used / ((1 + 1 / 2 ^ 53) * total))) := by
        field_simp
      _ ≤ (1 - 1 / 2 ^ 53) ^ 2 * (100 * (rounded used / rounded total)) := by gcongr
      _ ≤ hundredfold used total := hlow
  have hhigh : hundredfold used total ≤ (1 + 1 / 2 ^ 50) * (100 * used / total : ℚ) :=
    calc hundredfold used total
      _ ≤ (1 + 1 / 2 ^ 53) ^ 2 * (100 * (rounded used / rounded total)) := hhigh
      _ ≤ (1 + 1 / 2 ^ 53) ^ 2 *
          (100 * ((1 + 1 / 2 ^ 53) * used / ((1 - 1 / 2 ^ 53) * total))) := by
        have hfactor : (0 : ℚ) < 1 - 1 / 2 ^ 53 := by norm_num
        gcongr
      _ = ((1 + 1 / 2 ^ 53) ^ 3 / (1 - 1 / 2 ^ 53)) * (100 * used / total : ℚ) := by
        field_simp
      _ ≤ (1 + 1 / 2 ^ 50) * (100 * used / total : ℚ) := by
        gcongr
        norm_num
  rw [abs_le]
  constructor <;> linarith

/-! ## Where the percentage is exact -/

/-- Of two numbers that are close the whole percentages are the same, or next to each other with a
whole number between the two. -/
theorem floor_cases {p q : ℚ} (hp : 0 ≤ p) (hle : p ≤ q) (hclose : p < 100 → q ≤ p + 1) :
    min 100 ⌊q⌋₊ = min 100 ⌊p⌋₊ ∨
      ∃ k : ℕ, k < 100 ∧ p ≤ k + 1 ∧ (k + 1 : ℚ) ≤ q ∧
        min 100 ⌊p⌋₊ = k ∧ min 100 ⌊q⌋₊ = k + 1 := by
  by_cases hcap : p < 100
  · have hfloor : ⌊p⌋₊ < 100 := (Nat.floor_lt hp).2 (by exact_mod_cast hcap)
    have hnext : ⌊q⌋₊ ≤ ⌊p⌋₊ + 1 := by
      rw [← Nat.floor_add_one hp]
      exact Nat.floor_mono (hclose hcap)
    rcases (Nat.floor_mono hle).lt_or_eq with hlt | heq
    · have hsucc : ⌊q⌋₊ = ⌊p⌋₊ + 1 := by omega
      have hq : ((⌊p⌋₊ + 1 : ℕ) : ℚ) ≤ q := hsucc ▸ Nat.floor_le (hp.trans hle)
      exact .inr ⟨⌊p⌋₊, hfloor, (Nat.lt_floor_add_one p).le, by exact_mod_cast hq, by omega,
        by omega⟩
    · exact .inl (by rw [heq])
  · have hmany : 100 ≤ ⌊p⌋₊ := Nat.le_floor (by exact_mod_cast not_lt.1 hcap)
    have hmore := Nat.floor_mono hle
    exact .inl (by omega)

theorem floor_hundredfold (used total : ℕ) : ⌊(100 * used / total : ℚ)⌋₊ = 100 * used / total := by
  exact_mod_cast Nat.floor_div_eq_div (K := ℚ) (100 * used) total

/-- The percentage is that of exact arithmetic, or a hundredfold of what is used lies within one
part in `2 ^ 50` of a whole multiple of the total, and the two are on different sides of it. -/
theorem percentOf_cases (hused : 0 < used) (husedle : used ≤ 2 ^ 63) (htotal : 0 < total)
    (htotalle : total ≤ 2 ^ 63) :
    percentOf used total = min 100 (100 * used / total) ∨
      ∃ k : ℕ, k < 100 ∧ |100 * (used : ℤ) - (k + 1) * total| * 2 ^ 50 ≤ 100 * used ∧
        (percentOf used total = k + 1 ∧ min 100 (100 * used / total) = k ∨
          percentOf used total = k ∧ min 100 (100 * used / total) = k + 1) := by
  have ht : (0 : ℚ) < total := Nat.cast_pos.2 htotal
  have hx : (0 : ℚ) ≤ 100 * used / total := by positivity
  obtain ⟨hbelow, habove⟩ := abs_le.1 (abs_hundredfold_sub_le hused htotal)
  have hh : 0 ≤ hundredfold used total := by linarith
  -- in terms of the counts themselves
  have hnear {k : ℕ} (h : |(100 * used / total : ℚ) - (k + 1)| ≤ 100 * used / total / 2 ^ 50) :
      |100 * (used : ℤ) - (k + 1) * total| * 2 ^ 50 ≤ 100 * used := by
    have hscale : |(100 * used - (k + 1) * total : ℚ)| =
        |(100 * used / total : ℚ) - (k + 1)| * total := by
      rw [← abs_of_pos ht, ← abs_mul, abs_of_pos ht, sub_mul, div_mul_cancel₀ _ ht.ne']
    have hcounts : |(100 * used - (k + 1) * total : ℚ)| * 2 ^ 50 ≤ 100 * used := by
      rw [hscale, ← le_div_iff₀ (by positivity), ← le_div_iff₀ ht]
      calc _ ≤ _ := h
        _ = _ := by ring
    exact_mod_cast hcounts
  rw [percentOf_eq hused husedle htotal htotalle, ← floor_hundredfold]
  rcases le_total (100 * used / total : ℚ) (hundredfold used total) with hle | hle
  · rcases floor_cases hx hle (fun _ => by linarith) with hsame | ⟨k, hk, hlow, hhigh, hx', hh'⟩
    · exact .inl hsame
    · refine .inr ⟨k, hk, hnear (abs_le.2 ⟨by linarith, by linarith⟩), .inl ⟨hh', hx'⟩⟩
  · rcases floor_cases hh hle (fun _ => by linarith) with hsame | ⟨k, hk, hlow, hhigh, hh', hx'⟩
    · exact .inl hsame.symm
    · refine .inr ⟨k, hk, hnear (abs_le.2 ⟨by linarith, by linarith⟩), .inr ⟨hh', hx'⟩⟩

/-! ## The whole allowance -/

/-- Less than a whole never comes to a hundred percent. -/
theorem rounded_mul_lt_hundred {q : ℚ} (hq : 0 < q) (h : q ≤ 1 - 1 / 2 ^ 53) :
    rounded (rounded q * 100) < 100 := by
  have hshare : rounded q ≤ 1 - 1 / 2 ^ 53 := by
    have hnormal : IsNormal (1 - 1 / 2 ^ 53) :=
      ⟨2 ^ 53 - 1, -53, by norm_num, by norm_num, by norm_num⟩
    rw [← hnormal.rounded_eq]
    exact rounded_mono hq h
  have hproduct : rounded q * 100 ≤ 100 - 100 / 2 ^ 53 := by linarith
  have hpos : 0 < rounded q * 100 := mul_pos (rounded_pos hq) (by norm_num)
  have hlog : Int.log 2 (rounded q * 100) < 7 := by
    refine (Int.lt_zpow_iff_log_lt one_lt_two hpos).1 ?_
    norm_num
    linarith
  have hunit : unit (rounded q * 100) ≤ 1 / 2 ^ 46 := by
    have hpow : unit (rounded q * 100) ≤ 2 ^ (-46 : ℤ) :=
      zpow_le_zpow_right₀ one_le_two (by omega)
    norm_num at hpow ⊢
    exact hpow
  have herror := (abs_le.1 (abs_rounded_sub_le_unit hpos)).2
  norm_num at hproduct hunit
  linarith

/-- A hundred percent are reached exactly if the rounded counts say so. -/
theorem percentOf_eq_hundred_iff (hused : 0 < used) (husedle : used ≤ 2 ^ 63) (htotal : 0 < total)
    (htotalle : total ≤ 2 ^ 63) :
    percentOf used total = 100 ↔ rounded total ≤ rounded used := by
  have hu := rounded_pos (q := used) (Nat.cast_pos.2 hused)
  have ht := rounded_pos (q := total) (Nat.cast_pos.2 htotal)
  rw [percentOf_eq hused husedle htotal htotalle]
  constructor
  · intro h
    have hreached : ((100 : ℕ) : ℚ) ≤ hundredfold used total :=
      (Nat.le_floor_iff' (by norm_num)).1 (by omega)
    refine not_lt.1 fun hlt => absurd hreached (not_le.2 ?_)
    have hgap := (isNormal_rounded (Nat.cast_pos.2 hused)).le_of_lt
      (isNormal_rounded (Nat.cast_pos.2 htotal)) hlt
    exact rounded_mul_lt_hundred (div_pos hu ht) ((div_le_iff₀ ht).2 hgap)
  · intro h
    have hshare : 1 ≤ rounded (rounded used / rounded total) := by
      have hone : rounded 1 = 1 := by
        have hnormal := isNormal_natCast (n := 1) (by norm_num) (by norm_num)
        exact_mod_cast hnormal.rounded_eq
      rw [← hone]
      exact rounded_mono one_pos ((one_le_div ht).2 h)
    have hmany : (100 : ℕ) ≤ hundredfold used total := by
      rw [Nat.cast_ofNat, ← rounded_hundred, hundredfold]
      exact rounded_mono (by norm_num) (by linarith)
    have hfloor := Nat.le_floor hmany
    omega

/-- Counts of no more than 53 bits are not rounded. -/
theorem rounded_count {n : ℕ} (hpos : 0 < n) (hle : n ≤ 2 ^ 53) : rounded n = n :=
  (isNormal_natCast hpos hle).rounded_eq

theorem percentOf_of_total_le (hused : 0 < used) (husedle : used ≤ 2 ^ 63) (htotal : 0 < total)
    (htotalle : total ≤ 2 ^ 63) (h : total ≤ used) : percentOf used total = 100 :=
  (percentOf_eq_hundred_iff hused husedle htotal htotalle).2
    (rounded_mono (Nat.cast_pos.2 htotal) (Nat.cast_le.2 h))

/-- A total of no more than 53 bits is reached by nothing less. -/
theorem percentOf_eq_hundred_iff_of_le (hused : 0 < used) (husedle : used ≤ 2 ^ 63)
    (htotal : 0 < total) (htotalle : total ≤ 2 ^ 53) :
    percentOf used total = 100 ↔ total ≤ used := by
  have hword : total ≤ 2 ^ 63 := htotalle.trans (by norm_num)
  refine ⟨fun h => ?_, percentOf_of_total_le hused husedle htotal hword⟩
  rw [percentOf_eq_hundred_iff hused husedle htotal hword, rounded_count htotal htotalle] at h
  refine not_lt.1 fun hlt => ?_
  rw [rounded_count hused (by omega), Nat.cast_le] at h
  omega

/-! ## Allowances of up to `2 ^ 45` bytes -/

/-- The percentages that are missed where they are reached exactly. -/
def missed : List ℕ := [29, 57, 58]

theorem percentOf_hundred : ∀ k < 100, percentOf k 100 = if k ∈ missed then k - 1 else k := by
  decide +kernel

/-- The percentage of a whole number of hundredths depends on that number alone. -/
theorem percentOf_of_hundredths {k : ℕ} (hused : 0 < used) (htotal : 0 < total)
    (htotalle : total ≤ 2 ^ 53) (hk : k < 100) (h : 100 * used = k * total) :
    percentOf used total = if k ∈ missed then k - 1 else k := by
  have husedle : used ≤ total := by nlinarith
  have hkpos : 0 < k := by
    rcases k.eq_zero_or_pos with rfl | hpos
    · omega
    · exact hpos
  have hratio : (used : ℚ) / total = k / 100 := by
    rw [div_eq_div_iff (Nat.cast_ne_zero.2 htotal.ne') (by norm_num), mul_comm (used : ℚ)]
    exact_mod_cast h
  have hsame : hundredfold used total = hundredfold k 100 := by
    rw [hundredfold, hundredfold, rounded_count hused (by omega), rounded_count htotal htotalle,
      rounded_count hkpos (by omega), rounded_count (n := 100) (by norm_num) (by norm_num), hratio]
    norm_num
  rw [← percentOf_hundred k hk, percentOf_eq hused (by omega) htotal (by omega), hsame,
    percentOf_eq hkpos (by omega) (by norm_num) (by norm_num)]

/-- Between two whole numbers of hundredths the percentage is exact. -/
theorem percentOf_of_remainder (hused : 0 < used) (hlt : used < total) (htotalle : total ≤ 2 ^ 45)
    (h : 0 < 100 * used % total) : percentOf used total = 100 * used / total := by
  have htotal : 0 < total := by omega
  have ht : (0 : ℚ) < total := Nat.cast_pos.2 htotal
  have hu : (0 : ℚ) < used := Nat.cast_pos.2 hused
  have hk : 100 * used / total < 100 := (Nat.div_lt_iff_lt_mul htotal).2 (by omega)
  have hsplit := Nat.div_add_mod (100 * used) total
  have hremainder := Nat.mod_lt (100 * used) htotal
  generalize 100 * used / total = k at hk hsplit ⊢
  -- at least one byte lies between and either whole number, more than the roundings err by
  have hlow : (k : ℚ) * total + 1 ≤ 100 * used := by
    have hcounts : k * total + 1 ≤ 100 * used := by rw [mul_comm]; omega
    exact_mod_cast hcounts
  have hhigh : (100 : ℚ) * used + 1 ≤ (k + 1) * total := by
    have hcounts : 100 * used + 1 ≤ (k + 1) * total := by rw [add_mul, one_mul, mul_comm k]; omega
    exact_mod_cast hcounts
  have hbound : (used : ℚ) ≤ 35184372088832 := by exact_mod_cast hlt.le.trans htotalle
  obtain ⟨hbelow, habove⟩ := rounded_mul_bounds (div_pos hu ht)
  have hvalue : hundredfold used total = rounded (rounded (used / total) * 100) := by
    rw [hundredfold, rounded_count hused (by omega), rounded_count htotal (by omega)]
  have hfloor : ⌊hundredfold used total⌋₊ = k := by
    rw [hvalue, Nat.floor_eq_iff ((by positivity : (0 : ℚ) ≤ _).trans hbelow)]
    rw [← mul_div_assoc, ← mul_div_assoc] at hbelow habove
    constructor
    · refine le_trans ?_ hbelow
      rw [le_div_iff₀ ht]
      norm_num
      linarith
    · refine habove.trans_lt ?_
      rw [div_lt_iff₀ ht]
      norm_num
      linarith
  rw [percentOf_eq hused (by omega) htotal (by omega), hfloor]
  omega

/-- Under such an allowance the percentage is exact but for three whole numbers of hundredths. -/
theorem percentOf_of_le (hused : 0 < used) (husedle : used ≤ 2 ^ 63) (htotal : 0 < total)
    (htotalle : total ≤ 2 ^ 45) :
    percentOf used total =
      if ∃ k ∈ missed, 100 * used = k * total then min 100 (100 * used / total) - 1
      else min 100 (100 * used / total) := by
  rcases le_or_gt total used with hle | hlt
  · have hwhole : 100 ≤ 100 * used / total := (Nat.le_div_iff_mul_le htotal).2 (by omega)
    have hnone : ¬ ∃ k ∈ missed, 100 * used = k * total := by
      rintro ⟨k, hk, heq⟩
      have hfew : k < 100 := by
        simp only [missed, List.mem_cons, List.not_mem_nil, or_false] at hk
        omega
      have hless : k * total < 100 * total := by gcongr
      omega
    rw [if_neg hnone, percentOf_of_total_le hused husedle htotal (by omega) hle]
    omega
  · have hk : 100 * used / total < 100 := (Nat.div_lt_iff_lt_mul htotal).2 (by omega)
    rw [min_eq_right hk.le]
    rcases Nat.eq_zero_or_pos (100 * used % total) with hexact | hrest
    · have heq : 100 * used = 100 * used / total * total := by
        rw [Nat.div_mul_cancel (Nat.dvd_of_mod_eq_zero hexact)]
      have hiff : (∃ k ∈ missed, 100 * used = k * total) ↔ 100 * used / total ∈ missed := by
        constructor
        · rintro ⟨k, hmem, hmultiple⟩
          rwa [hmultiple, Nat.mul_div_cancel _ htotal]
        · exact fun hmem => ⟨_, hmem, heq⟩
      rw [percentOf_of_hundredths hused htotal (by omega) hk heq]
      simp only [hiff]
    · have hnone : ¬ ∃ k ∈ missed, 100 * used = k * total := by
        rintro ⟨k, -, hmultiple⟩
        rw [hmultiple, Nat.mul_mod_left] at hrest
        omega
      rw [if_neg hnone, percentOf_of_remainder hused hlt htotalle hrest]

/-! ## All traffic -/

theorem saturatingAdd_le (a b : ℤ) : saturatingAdd a b ≤ 2 ^ 63 := by
  unfold saturatingAdd Json.minSigned Json.maxSigned
  omega

/-- Without an allowance, and without use, the percentage is zero. -/
theorem percent_of_nonpos {upload download total : ℤ}
    (h : total ≤ 0 ∨ saturatingAdd upload download ≤ 0) :
    (ofTraffic upload download total).percent = 0 := by
  simp only [ofTraffic]
  split
  · next hpos =>
    have hnone : (saturatingAdd upload download).toNat = 0 :=
      Int.toNat_of_nonpos (h.resolve_left (by omega))
    rw [hnone, percentOf_zero]
  · rfl

/-- The percentage of traffic is reckoned with what is used and with the total. -/
theorem percent_of_pos {upload download total : ℤ}
    (hused : 0 < saturatingAdd upload download) (htotal : 0 < total) (htotalle : total ≤ 2 ^ 63) :
    ∃ u t : ℕ, 0 < u ∧ u ≤ 2 ^ 63 ∧ 0 < t ∧ t ≤ 2 ^ 63 ∧
      ofTraffic upload download total = ⟨u, t, percentOf u t⟩ := by
  have husedle := saturatingAdd_le upload download
  refine ⟨(saturatingAdd upload download).toNat, total.toNat, by omega, by omega, by omega,
    by omega, ?_⟩
  rw [ofTraffic, if_pos htotal, Int.toNat_of_nonneg hused.le, Int.toNat_of_nonneg htotal.le]

/-- Used is what has gone in both directions, as a word. The percentage is zero without an allowance
or without use. Otherwise it is that of exact arithmetic, cut off at a hundred, or a hundredfold of
what is used lies within one part in `2 ^ 50` of a whole multiple of the total, and the two
percentages are those on either side of it. A hundred percent are reached exactly if the total,
rounded to 53 bits, does not exceed what is used, rounded likewise: always when the total is used
up, and under a total of no more than `2 ^ 53` only then. Under a total of no more than `2 ^ 45` the
percentage is exact unless it is exactly 29, 57 or 58 hundredths; then it is one too low. -/
theorem percent_ofTraffic (upload download total : Int64) :
    (ofTraffic upload.toInt download.toInt total.toInt).used =
        max Json.minSigned (min Json.maxSigned (upload.toInt + download.toInt)) ∧
    (ofTraffic upload.toInt download.toInt total.toInt).total = total.toInt ∧
    let usage := ofTraffic upload.toInt download.toInt total.toInt
    let exact := min 100 (100 * usage.used / usage.total)
    (usage.total ≤ 0 ∨ usage.used ≤ 0 → usage.percent = 0) ∧
    (0 < usage.total → 0 < usage.used →
      (usage.percent = exact ∨ ∃ k : ℕ, k < 100 ∧
        |100 * usage.used - (k + 1) * usage.total| * 2 ^ 50 ≤ 100 * usage.used ∧
        (usage.percent = k + 1 ∧ exact = k ∨ usage.percent = k ∧ exact = k + 1)) ∧
      (usage.percent = 100 ↔ rounded usage.total ≤ rounded usage.used) ∧
      (usage.total ≤ usage.used → usage.percent = 100) ∧
      (usage.total ≤ 2 ^ 53 → usage.percent = 100 → usage.total ≤ usage.used) ∧
      (usage.total ≤ 2 ^ 45 →
        usage.percent =
          if ∃ k ∈ missed, 100 * usage.used = k * usage.total then exact - 1 else exact)) := by
  refine ⟨rfl, rfl, ?_⟩
  intro usage exact
  refine ⟨percent_of_nonpos, fun htotal hused => ?_⟩
  obtain ⟨u, t, hu, huword, ht, htword, husage⟩ :=
    percent_of_pos hused htotal total.toInt_lt.le
  have husage : usage = ⟨u, t, percentOf u t⟩ := husage
  clear_value usage
  subst husage
  have hexact : exact = (min 100 (100 * u / t) : ℕ) := by
    push_cast
    rfl
  rw [hexact]
  clear_value exact
  simp only [Int.cast_natCast]
  refine ⟨?_, percentOf_eq_hundred_iff hu huword ht htword, fun h => ?_, fun hle h => ?_,
    fun hle => ?_⟩
  · rcases percentOf_cases hu huword ht htword with hsame | ⟨k, hk, hnear, hsides⟩
    · exact .inl (by rw [hsame])
    · exact .inr ⟨k, hk, hnear, by exact_mod_cast hsides⟩
  · exact percentOf_of_total_le hu huword ht htword (by exact_mod_cast h)
  · exact_mod_cast (percentOf_eq_hundred_iff_of_le hu huword ht (by exact_mod_cast hle)).1 h
  · have hmissed : (∃ k ∈ missed, 100 * (u : ℤ) = k * t) ↔ ∃ k ∈ missed, 100 * u = k * t := by
      norm_cast
    rw [percentOf_of_le hu huword ht (by exact_mod_cast hle)]
    simp only [hmissed]
    split
    · next hexists =>
      obtain ⟨k, hk, heq⟩ := hexists
      have hquotient : 100 * u / t = k := by rw [heq, Nat.mul_div_cancel _ ht]
      have hpos : 0 < k := Nat.pos_of_ne_zero fun hzero => absurd (hzero ▸ hk) (by decide)
      omega
    · rfl

/-- Of 29 in a hundred bytes 28 percent are shown, and a hundred although not quite everything is
used. -/
theorem percent_missed :
    (ofTraffic 29 0 100).percent = 28 ∧ min 100 (100 * 29 / 100) = 29 ∧
      (ofTraffic (2 ^ 63 - 2) 0 (2 ^ 63 - 1)).percent = 100 ∧
      min 100 (100 * (2 ^ 63 - 2) / (2 ^ 63 - 1)) = 99 := by
  decide +kernel

end PanelClient.Usage

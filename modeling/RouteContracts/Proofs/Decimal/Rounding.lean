import Mathlib.Algebra.Order.Field.Power
import Mathlib.Algebra.Order.Floor.Ring
import Mathlib.Data.Int.Log
import Mathlib.Data.Rat.Floor
import Mathlib.Tactic.NormNum
import Mathlib.Tactic.Ring
import RouteContracts.Decimal

/-! # Rounding decimals
The rank nearest to a quotient depends on the value of the quotient only, and a magnitude is the nearest one to
itself. So a decimal may be written with more or fewer zeros, and the shortest decimal of a magnitude is
rounded back to it.

* `Binary64.binaryExponent_eq_log`: the exponent of a quotient is the logarithm of its value.
* `Binary64.nearestRank_self`: **a magnitude is nearest to itself.**
* `Decimal.toRank_shortest`: **the shortest decimal is rounded back.**
* `Binary64.nearestRank_lt_overflowRank`: **a natural number that is not too large is rounded to a finite double.** -/

namespace RouteContracts

/-! ## Powers with signed exponents -/

/-- `b ^ e = b ^ e.toNat / b ^ (-e).toNat`: a power with a signed exponent as a quotient. -/
theorem zpow_eq_div_toNat {b : ℚ} (hb : b ≠ 0) (e : Int) : b ^ e = b ^ e.toNat / b ^ (-e).toNat := by
  rw [← zpow_natCast, ← zpow_natCast, ← zpow_sub₀ hb]
  congr 1
  omega

namespace Binary64

/-- The exact value of a double with this rank. -/
def magnitude (rank : Nat) : ℚ := significand rank * 2 ^ scale rank

theorem magnitude_eq_div (rank : Nat) : magnitude rank = (numerator rank : ℚ) / denominator rank := by
  simp only [magnitude, numerator, denominator, Nat.pow_eq]
  push_cast
  rw [zpow_eq_div_toNat two_ne_zero, mul_div_assoc]

/-! ## Exponents -/

/-- `num / den < 2 ^ e` by natural numbers. -/
theorem div_lt_zpow_iff {num den : Nat} (hden : 0 < den) (e : Int) :
    (num : ℚ) / den < 2 ^ e ↔ num * 2 ^ (-e).toNat < den * 2 ^ e.toNat := by
  have hden' : (0 : ℚ) < den := by exact_mod_cast hden
  rw [zpow_eq_div_toNat two_ne_zero, div_lt_div_iff₀ hden' (by positivity), mul_comm (2 ^ e.toNat : ℚ)]
  exact_mod_cast Iff.rfl

/-- `num.log2 - den.log2` is the exponent of `num / den` up to one. -/
theorem zpow_log2_bounds {num den : Nat} (hnum : 0 < num) (hden : 0 < den) :
    (2 : ℚ) ^ ((num.log2 : Int) - den.log2 - 1) ≤ (num : ℚ) / den ∧
      (num : ℚ) / den < 2 ^ ((num.log2 : Int) - den.log2 + 1) := by
  have hden' : (0 : ℚ) < den := by exact_mod_cast hden
  have hnlow : (2 : ℚ) ^ num.log2 ≤ num := by exact_mod_cast Nat.log2_self_le hnum.ne'
  have hnhigh : (num : ℚ) < 2 ^ (num.log2 + 1) := by exact_mod_cast Nat.lt_log2_self
  have hdlow : (2 : ℚ) ^ den.log2 ≤ den := by exact_mod_cast Nat.log2_self_le hden.ne'
  have hdhigh : (den : ℚ) < 2 ^ (den.log2 + 1) := by exact_mod_cast Nat.lt_log2_self
  constructor
  · rw [le_div_iff₀ hden']
    calc (2 : ℚ) ^ ((num.log2 : Int) - den.log2 - 1) * den
        ≤ 2 ^ ((num.log2 : Int) - den.log2 - 1) * 2 ^ (den.log2 + 1) := by gcongr
      _ = 2 ^ num.log2 := by
        rw [← zpow_natCast, ← zpow_natCast, ← zpow_add₀ two_ne_zero]
        congr 1
        push_cast
        ring
      _ ≤ num := hnlow
  · rw [div_lt_iff₀ hden']
    calc (num : ℚ) < 2 ^ (num.log2 + 1) := hnhigh
      _ = 2 ^ ((num.log2 : Int) - den.log2 + 1) * 2 ^ den.log2 := by
        rw [← zpow_natCast, ← zpow_natCast, ← zpow_add₀ two_ne_zero]
        congr 1
        push_cast
        ring
      _ ≤ 2 ^ ((num.log2 : Int) - den.log2 + 1) * den := by gcongr

/-- **`binaryExponent num den = Int.log 2 (num / den)`.** -/
theorem binaryExponent_eq_log {num den : Nat} (hnum : 0 < num) (hden : 0 < den) :
    binaryExponent num den = Int.log 2 ((num : ℚ) / den) := by
  have hpos : (0 : ℚ) < (num : ℚ) / den := by positivity
  obtain ⟨hlow, hhigh⟩ := zpow_log2_bounds hnum hden
  have hle : (num.log2 : Int) - den.log2 - 1 ≤ Int.log 2 ((num : ℚ) / den) :=
    (Int.zpow_le_iff_le_log one_lt_two hpos).mp hlow
  have hlt : Int.log 2 ((num : ℚ) / den) < (num.log2 : Int) - den.log2 + 1 :=
    (Int.lt_zpow_iff_log_lt one_lt_two hpos).mp hhigh
  -- the guess from the two lengths is the logarithm or one more, and this tells which
  have hguess : (num : ℚ) / den < 2 ^ ((num.log2 : Int) - den.log2) ↔
      Int.log 2 ((num : ℚ) / den) < (num.log2 : Int) - den.log2 :=
    Int.lt_zpow_iff_log_lt one_lt_two hpos
  rw [div_lt_zpow_iff hden] at hguess
  simp only [binaryExponent, Nat.pow_eq]
  split
  · next h =>
    have := hguess.mp h
    omega
  · next h =>
    have := mt hguess.mpr h
    omega

/-! ## Nearest ranks -/

theorem roundHalfEven_mul {k : Nat} (hk : 0 < k) (num den : Nat) :
    roundHalfEven (k * num) (k * den) = roundHalfEven num den := by
  have hlow : 2 * (k * (num % den)) < k * den ↔ 2 * (num % den) < den := by
    rw [Nat.mul_left_comm, Nat.mul_lt_mul_left hk]
  have hhigh : k * den < 2 * (k * (num % den)) ↔ den < 2 * (num % den) := by
    rw [Nat.mul_left_comm, Nat.mul_lt_mul_left hk]
  simp only [roundHalfEven, Nat.mul_div_mul_left _ _ hk, Nat.mul_mod_mul_left, hlow, hhigh]

/-- `roundHalfEven (k * n) k = n`: an integer is rounded to itself. -/
theorem roundHalfEven_self {k : Nat} (hk : 0 < k) (n : Nat) : roundHalfEven (k * n) k = n := by
  simp [roundHalfEven, Nat.mul_div_cancel_left n hk, hk]

/-- **`nearestRank (k * num) (k * den) = nearestRank num den`**: it depends on the value of a quotient only. -/
theorem nearestRank_mul {k : Nat} (hk : 0 < k) (num den : Nat) :
    nearestRank (k * num) (k * den) = nearestRank num den := by
  have hzero : ∀ n, k * n = 0 ↔ n = 0 := fun n => by rw [Nat.mul_eq_zero]; omega
  simp only [nearestRank, hzero]
  split
  · rfl
  · next h =>
    obtain ⟨hnum, hden⟩ := not_or.mp h
    have hvalue : ((k * num : Nat) : ℚ) / (k * den : Nat) = num / den := by
      push_cast
      exact mul_div_mul_left _ _ (by exact_mod_cast hk.ne')
    have hexp : binaryExponent (k * num) (k * den) = binaryExponent num den := by
      rw [binaryExponent_eq_log (by positivity) (by positivity), binaryExponent_eq_log (by omega) (by omega), hvalue]
    simp only [hexp, Nat.mul_assoc, roundHalfEven_mul hk]

theorem denominator_pos (rank : Nat) : 0 < denominator rank := by
  simp only [denominator, Nat.pow_eq]
  positivity

/-- `binaryExponent` of a magnitude is `bits + scale rank` where its significand has `bits + 1` binary digits. -/
theorem binaryExponent_magnitude {rank bits : Nat} (hlow : 2 ^ bits ≤ significand rank)
    (hhigh : significand rank < 2 ^ (bits + 1)) :
    binaryExponent (numerator rank) (denominator rank) = bits + scale rank := by
  have hsig : 0 < significand rank := Nat.lt_of_lt_of_le (by positivity) hlow
  have hnum : 0 < numerator rank := by
    simp only [numerator, Nat.pow_eq]
    positivity
  have hlow' : (2 : ℚ) ^ bits ≤ significand rank := by exact_mod_cast hlow
  have hhigh' : (significand rank : ℚ) < 2 ^ (bits + 1) := by exact_mod_cast hhigh
  have hpos : (0 : ℚ) < magnitude rank := by
    rw [magnitude_eq_div]
    have := denominator_pos rank
    positivity
  -- between the two powers the logarithm is settled
  have hle : (2 : ℚ) ^ (bits + scale rank) ≤ magnitude rank := by
    rw [zpow_add₀ two_ne_zero, zpow_natCast, magnitude]
    gcongr
  have hlt : magnitude rank < (2 : ℚ) ^ (bits + scale rank + 1) := by
    rw [show (bits : Int) + scale rank + 1 = (bits + 1 : Nat) + scale rank by push_cast; ring,
      zpow_add₀ two_ne_zero, zpow_natCast, magnitude]
    gcongr
  rw [binaryExponent_eq_log hnum (denominator_pos rank), ← magnitude_eq_div]
  have hge := (Int.zpow_le_iff_le_log one_lt_two hpos).mp hle
  have hlog := (Int.lt_zpow_iff_log_lt one_lt_two hpos).mp hlt
  omega

/-- A magnitude in units of `2 ^ scale rank` is its `significand`. -/
theorem roundHalfEven_magnitude (rank : Nat) :
    roundHalfEven (numerator rank * 2 ^ (-scale rank).toNat) (denominator rank * 2 ^ (scale rank).toNat) =
      significand rank := by
  have hshape : numerator rank * 2 ^ (-scale rank).toNat =
      denominator rank * 2 ^ (scale rank).toNat * significand rank := by
    simp only [numerator, denominator, Nat.pow_eq]
    ring
  rw [hshape]
  refine roundHalfEven_self ?_ _
  have := denominator_pos rank
  positivity

/-- **`nearestRank (numerator rank) (denominator rank) = rank`**: a magnitude is nearest to itself. -/
theorem nearestRank_self (rank : Nat) : nearestRank (numerator rank) (denominator rank) = rank := by
  have hden : denominator rank ≠ 0 := (denominator_pos rank).ne'
  have hnum : numerator rank = 0 ↔ significand rank = 0 := by
    simp only [numerator, Nat.pow_eq, Nat.mul_eq_zero]
    have : 2 ^ (scale rank).toNat ≠ 0 := by positivity
    tauto
  simp only [nearestRank, hnum, hden, or_false]
  split
  · next h =>
    -- Only the rank zero has the significand zero.
    simp only [significand, Nat.pow_eq] at h
    split at h <;> omega
  · next h =>
    simp only [Nat.pow_eq]
    by_cases hsmall : rank < 2 ^ 52
    · -- the subnormal ranks are their own significands
      have hsig : significand rank = rank := if_pos hsmall
      have hscale : scale rank = -1074 := if_pos hsmall
      have hbits : binaryExponent (numerator rank) (denominator rank) = rank.log2 + scale rank := by
        rw [hsig] at h
        refine binaryExponent_magnitude ?_ ?_
        · rw [hsig]
          exact Nat.log2_self_le h
        · rw [hsig]
          exact Nat.lt_log2_self
      have hlog : rank.log2 < 52 := (Nat.log2_lt (hsig ▸ h)).mpr hsmall
      have hq : max (binaryExponent (numerator rank) (denominator rank) - 52) (-1074) = scale rank := by
        rw [hbits, hscale]
        omega
      rw [hq, roundHalfEven_magnitude, hsig, hscale]
      omega
    · -- from there on the leading bit is put in front of the fraction
      have hsig : significand rank = 2 ^ 52 + rank % 2 ^ 52 := if_neg hsmall
      have hscale : scale rank = (rank / 2 ^ 52 : Nat) - 1075 := if_neg hsmall
      have hbits : binaryExponent (numerator rank) (denominator rank) = (52 : Nat) + scale rank := by
        refine binaryExponent_magnitude ?_ ?_ <;> rw [hsig] <;> omega
      have hq : max (binaryExponent (numerator rank) (denominator rank) - 52) (-1074) = scale rank := by
        rw [hbits, hscale]
        omega
      rw [hq, roundHalfEven_magnitude, hsig, hscale]
      omega

end Binary64

namespace Decimal

/-! ## Zeros at the end -/

theorem digitCount_le_iff {n k : Nat} (hn : n ≠ 0) (hk : 0 < k) : digitCount n ≤ k ↔ n < 10 ^ k := by
  rw [digitCount, if_neg hn, Nat.length_toDigits_le_iff (by decide) hk]

theorem digitCount_pos {n : Nat} (hn : n ≠ 0) : 0 < digitCount n := by
  rw [digitCount, if_neg hn]
  exact Nat.length_toDigits_pos

/-- `digitCount (10 * n) = digitCount n + 1`. -/
theorem digitCount_mul_ten {n : Nat} (hn : n ≠ 0) : digitCount (10 * n) = digitCount n + 1 := by
  rw [digitCount, digitCount, if_neg hn, if_neg (by omega),
    ← Nat.add_zero (10 * n), ← Nat.toDigits_append_toDigits (by decide) (by omega) (by decide), List.length_append,
    Nat.toDigits_zero]
  rfl

/-- **`toRank ⟨10 * n, e⟩ = toRank ⟨n, e + 1⟩`**: a zero at the end may be moved into the exponent. -/
theorem toRank_mul_ten (n : Nat) (e : Int) : toRank ⟨10 * n, e⟩ = toRank ⟨n, e + 1⟩ := by
  by_cases hn : n = 0
  · simp [toRank, hn]
  · have htop : e + (digitCount (10 * n) : Int) = e + 1 + digitCount n := by
      rw [digitCount_mul_ten hn]
      push_cast
      ring
    have hrank : Binary64.nearestRank (10 * n * 10 ^ e.toNat) (10 ^ (-e).toNat) =
        Binary64.nearestRank (n * 10 ^ (e + 1).toNat) (10 ^ (-(e + 1)).toNat) := by
      -- the factor of ten is in the power above the bar, or it cancels one below
      by_cases he : 0 ≤ e
      · have hup : (e + 1).toNat = e.toNat + 1 := by omega
        have hdown : (-(e + 1)).toNat = (-e).toNat := by omega
        rw [hup, hdown, Nat.pow_succ]
        ring_nf
      · have hup : (e + 1).toNat = 0 := by omega
        have hzero : e.toNat = 0 := by omega
        have hdown : (-e).toNat = (-(e + 1)).toNat + 1 := by omega
        rw [hup, hzero, hdown, Nat.pow_succ, Nat.mul_comm (10 ^ _) 10, Nat.mul_assoc, Binary64.nearestRank_mul (by decide)]
    have hten : 10 * n ≠ 0 := by omega
    simp only [toRank, htop, hn, hten, Nat.pow_eq, hrank, if_false]

/-- `toRank ⟨10 ^ k * n, e⟩ = toRank ⟨n, e + k⟩`. -/
theorem toRank_mul_pow (k n : Nat) (e : Int) : toRank ⟨10 ^ k * n, e⟩ = toRank ⟨n, e + k⟩ := by
  induction k generalizing e with
  | zero => simp
  | succ k ih =>
    rw [show 10 ^ (k + 1) * n = 10 * (10 ^ k * n) by ring, toRank_mul_ten, ih]
    congr 2
    push_cast
    ring

theorem toRank_normalize_go (fuel : Nat) (d : Decimal) : (normalize.go fuel d).toRank = d.toRank := by
  induction fuel generalizing d with
  | zero => rfl
  | succ fuel ih =>
    rw [normalize.go]
    split
    · next h =>
      have hten : 10 * (d.digits / 10) = d.digits := by omega
      rw [ih, ← toRank_mul_ten, hten]
    · rfl

/-- `d.normalize.toRank = d.toRank`: zeros at the end do not matter. -/
theorem toRank_normalize (d : Decimal) : d.normalize.toRank = d.toRank := toRank_normalize_go _ d

/-! ## Exact decimals -/

/-- `nearestRank` of the quotient that `exact rank` denotes is `rank`. -/
theorem nearestRank_exact (rank : Nat) :
    Binary64.nearestRank ((exact rank).digits * 10 ^ (exact rank).exponent.toNat)
      (10 ^ (-(exact rank).exponent).toNat) = rank := by
  have hup : (min (Binary64.scale rank) 0).toNat = 0 := by omega
  have hdown : (-min (Binary64.scale rank) 0).toNat = (-Binary64.scale rank).toNat := by omega
  have hnum : (exact rank).digits * 10 ^ (exact rank).exponent.toNat =
      5 ^ (-Binary64.scale rank).toNat * Binary64.numerator rank := by
    simp only [exact, Binary64.numerator, hup, Nat.pow_eq]
    ring
  have hden : 10 ^ (-(exact rank).exponent).toNat =
      5 ^ (-Binary64.scale rank).toNat * Binary64.denominator rank := by
    simp only [exact, Binary64.denominator, hdown, Nat.pow_eq, ← Nat.mul_pow]
  rw [hnum, hden, Binary64.nearestRank_mul (by positivity), Binary64.nearestRank_self]

/-- The value of a decimal: `d.digits * 10 ^ d.exponent`. -/
def value (d : Decimal) : ℚ := d.digits * 10 ^ d.exponent

/-- `10 ^ (d.exponent + digitCount d.digits - 1) ≤ d.value < 10 ^ (d.exponent + digitCount d.digits)`. -/
theorem value_bounds {d : Decimal} (hd : d.digits ≠ 0) :
    10 ^ (d.exponent + digitCount d.digits - 1) ≤ d.value ∧ d.value < 10 ^ (d.exponent + digitCount d.digits) := by
  have hpos := digitCount_pos hd
  have hlow : 10 ^ (digitCount d.digits - 1) ≤ d.digits := by
    by_cases hone : digitCount d.digits = 1
    · rw [hone]
      exact Nat.one_le_iff_ne_zero.mpr hd
    · have hmore := (digitCount_le_iff hd (k := digitCount d.digits - 1) (by omega)).not.mp (by omega)
      omega
  have hhigh : d.digits < 10 ^ digitCount d.digits := (digitCount_le_iff hd hpos).mp (Nat.le_refl _)
  have hlow' : (10 : ℚ) ^ (digitCount d.digits - 1) ≤ d.digits := by exact_mod_cast hlow
  have hhigh' : (d.digits : ℚ) < 10 ^ digitCount d.digits := by exact_mod_cast hhigh
  have hten : (10 : ℚ) ≠ 0 := by norm_num
  constructor
  · rw [show d.exponent + digitCount d.digits - 1 = (digitCount d.digits - 1 : Nat) + d.exponent by omega,
      zpow_add₀ hten, zpow_natCast, value]
    gcongr
  · rw [Int.add_comm, zpow_add₀ hten, zpow_natCast, value]
    gcongr

theorem value_exact (rank : Nat) : (exact rank).value = Binary64.magnitude rank := by
  have hup : (min (Binary64.scale rank) 0).toNat = 0 := by omega
  have hdown : (-min (Binary64.scale rank) 0).toNat = (-Binary64.scale rank).toNat := by omega
  have hten : (10 : ℚ) ^ (-Binary64.scale rank).toNat =
      2 ^ (-Binary64.scale rank).toNat * 5 ^ (-Binary64.scale rank).toNat := by
    rw [← mul_pow]
    norm_num
  simp only [value, exact, Binary64.magnitude, Nat.pow_eq]
  rw [zpow_eq_div_toNat (by norm_num : (10 : ℚ) ≠ 0), zpow_eq_div_toNat two_ne_zero, hup, hdown, hten]
  push_cast
  field_simp

end Decimal

/-- `2 ^ (-1074) ≤ magnitude rank < 2 ^ 1024` for every finite magnitude above zero. -/
theorem Binary64.magnitude_bounds {rank : Nat} (hfinite : rank < overflowRank) (hpos : significand rank ≠ 0) :
    (2 : ℚ) ^ (-1074 : Int) ≤ magnitude rank ∧ magnitude rank < 2 ^ (1024 : Int) := by
  have hsig : significand rank < 2 ^ 53 := by
    simp only [significand, Nat.pow_eq]
    split <;> omega
  have hscale : -1074 ≤ scale rank ∧ scale rank ≤ 971 := by
    simp only [overflowRank] at hfinite
    simp only [scale, Nat.pow_eq]
    split <;> omega
  have hone : (1 : ℚ) ≤ significand rank := by exact_mod_cast Nat.one_le_iff_ne_zero.mpr hpos
  have hsig' : (significand rank : ℚ) < 2 ^ (53 : Int) := by exact_mod_cast hsig
  constructor
  · calc (2 : ℚ) ^ (-1074 : Int) ≤ 2 ^ scale rank := zpow_le_zpow_right₀ one_le_two hscale.1
      _ = 1 * 2 ^ scale rank := (one_mul _).symm
      _ ≤ magnitude rank := by
        rw [magnitude]
        gcongr
  · calc magnitude rank < 2 ^ (53 : Int) * 2 ^ scale rank := by
          rw [magnitude]
          gcongr
      _ ≤ 2 ^ (53 : Int) * 2 ^ (971 : Int) := by
        gcongr
        · exact one_le_two
        · exact hscale.2
      _ = 2 ^ (1024 : Int) := by rw [← zpow_add₀ two_ne_zero]; norm_num

/-- `2 ^ (3 * n) ≤ 10 ^ n`: three binary digits are less than a decimal one. -/
theorem two_pow_le_ten_pow (n : Nat) : (2 : ℚ) ^ (3 * n) ≤ 10 ^ n := by
  rw [pow_mul]
  gcongr
  norm_num

namespace Decimal

/-- **`(exact rank).toRank = rank`** for every finite rank: its exponents are well within those that `toRank` computes
with. -/
theorem toRank_exact {rank : Nat} (hfinite : rank < Binary64.overflowRank) : (exact rank).toRank = rank := by
  by_cases hdigits : (exact rank).digits = 0
  · have h := nearestRank_exact rank
    rw [hdigits, Nat.zero_mul] at h
    simpa [toRank, hdigits, Binary64.nearestRank] using h
  · have hsig : Binary64.significand rank ≠ 0 := by
      intro h
      simp [exact, h] at hdigits
    obtain ⟨hlow, hhigh⟩ := value_bounds hdigits
    rw [value_exact] at hlow hhigh
    obtain ⟨hsmall, hlarge⟩ := Binary64.magnitude_bounds hfinite hsig
    have hten : (1 : ℚ) < 10 := by norm_num
    have hpow : (2 : ℚ) ^ (1200 : Int) ≤ 10 ^ (400 : Int) := two_pow_le_ten_pow 400
    -- the powers of two around the finite doubles are well within those of ten
    have htop : (exact rank).exponent + digitCount (exact rank).digits - 1 < 400 := by
      rw [← zpow_lt_zpow_iff_right₀ hten]
      calc (10 : ℚ) ^ ((exact rank).exponent + digitCount (exact rank).digits - 1)
          ≤ Binary64.magnitude rank := hlow
        _ < 2 ^ (1024 : Int) := hlarge
        _ ≤ 2 ^ (1200 : Int) := zpow_le_zpow_right₀ one_le_two (by decide)
        _ ≤ 10 ^ (400 : Int) := hpow
    have hbottom : -400 < (exact rank).exponent + digitCount (exact rank).digits := by
      rw [← zpow_lt_zpow_iff_right₀ hten]
      calc (10 : ℚ) ^ (-400 : Int) = (10 ^ (400 : Int))⁻¹ := zpow_neg _ _
        _ ≤ (2 ^ (1200 : Int))⁻¹ := inv_anti₀ (by positivity) hpow
        _ = 2 ^ (-1200 : Int) := (zpow_neg _ _).symm
        _ ≤ 2 ^ (-1074 : Int) := zpow_le_zpow_right₀ one_le_two (by decide)
        _ ≤ Binary64.magnitude rank := hsmall
        _ < 10 ^ ((exact rank).exponent + digitCount (exact rank).digits) := hhigh
    simp only [toRank, if_neg hdigits]
    rw [if_neg (by omega), if_neg (by omega)]
    exact nearestRank_exact rank

/-- `nearestCandidate rank exponent` is one of the `candidates`, which round back to `rank`. -/
theorem mem_candidates_of_nearestCandidate {rank : Nat} {exponent : Int} {d : Decimal}
    (h : nearestCandidate rank exponent = some d) : d ∈ candidates rank exponent := by
  unfold nearestCandidate at h
  split at h
  · cases h
  · next heq =>
    obtain rfl := Option.some.inj h
    rw [heq]
    exact List.mem_cons_self ..
  · next low high rest heq =>
    rw [heq]
    have hpair : d = low ∨ d = high := by
      dsimp only at h
      split at h
      · exact .inl (Option.some.inj h).symm
      · split at h
        · exact .inr (Option.some.inj h).symm
        · split at h
          · exact .inl (Option.some.inj h).symm
          · exact .inr (Option.some.inj h).symm
    rcases hpair with rfl | rfl
    · exact List.mem_cons_self ..
    · exact List.mem_cons_of_mem _ (List.mem_cons_self ..)

/-- **`(shortest rank).toRank = rank`** for every finite rank: the shortest decimal is rounded back. -/
theorem toRank_shortest {rank : Nat} (hfinite : rank < Binary64.overflowRank) : (shortest rank).toRank = rank := by
  simp only [shortest, toRank_normalize]
  cases hfound : (List.range 17).findSome? fun n => nearestCandidate rank (decimalPoint rank - (n + 1 : Nat)) with
  | none => exact toRank_exact hfinite
  | some d =>
    obtain ⟨n, -, hd⟩ := List.exists_of_findSome?_eq_some hfound
    exact toRank_of_mem_candidates (mem_candidates_of_nearestCandidate hd)

end Decimal

/-! ## Natural numbers -/

namespace Binary64

/-- `roundHalfEven num den ≤ num / den + 1`. -/
theorem roundHalfEven_le (num den : Nat) : roundHalfEven num den ≤ num / den + 1 := by
  simp only [roundHalfEven]
  split
  · omega
  · split
    · omega
    · split <;> omega

/-- `binaryExponent n 1 = n.log2`. -/
theorem binaryExponent_one {n : Nat} (hn : n ≠ 0) : binaryExponent n 1 = n.log2 := by
  have hlog : Nat.log2 1 = 0 := by decide
  have hle : ¬n * Nat.pow 2 (-(n.log2 : Int)).toNat < 1 * Nat.pow 2 ((n.log2 : Int)).toNat := by
    have hdown : (-(n.log2 : Int)).toNat = 0 := by omega
    rw [hdown, Int.toNat_natCast, Nat.one_mul, Nat.pow_eq, Nat.pow_zero, Nat.mul_one, Nat.not_lt]
    exact Nat.log2_self_le hn
  simp only [binaryExponent, hlog, Nat.cast_zero, sub_zero]
  exact if_neg hle

/-- **`nearestRank n 1 < overflowRank` where `n.log2 < 1023`**: there is a finite double next to such a number. -/
theorem nearestRank_lt_overflowRank {n : Nat} (hn : n.log2 < 1023) : nearestRank n 1 < overflowRank := by
  by_cases hzero : n = 0
  · rw [hzero]
    decide
  · have hq : max ((n.log2 : Int) - 52) (-1074) = (n.log2 : Int) - 52 := by omega
    -- The significand has 53 binary digits, one more if it is rounded up.
    have hquotient : n * 2 ^ (-((n.log2 : Int) - 52)).toNat / (1 * 2 ^ ((n.log2 : Int) - 52).toNat) < 2 ^ 53 := by
      refine Nat.div_lt_of_lt_mul ?_
      have hup : n < 2 ^ (n.log2 + 1) := Nat.lt_log2_self
      calc n * 2 ^ (-((n.log2 : Int) - 52)).toNat
          < 2 ^ (n.log2 + 1) * 2 ^ (-((n.log2 : Int) - 52)).toNat := by gcongr
        _ = 2 ^ (((n.log2 : Int) - 52).toNat + 53) := by
          rw [← Nat.pow_add]
          congr 1
          omega
        _ = 1 * 2 ^ ((n.log2 : Int) - 52).toNat * 2 ^ 53 := by rw [Nat.one_mul, Nat.pow_add]
    have hround := roundHalfEven_le (n * 2 ^ (-((n.log2 : Int) - 52)).toNat) (1 * 2 ^ ((n.log2 : Int) - 52).toNat)
    have hrank : nearestRank n 1 = ((n.log2 : Int) - 52 + 1074).toNat * 2 ^ 52 +
        roundHalfEven (n * 2 ^ (-((n.log2 : Int) - 52)).toNat) (1 * 2 ^ ((n.log2 : Int) - 52).toNat) := by
      simp only [nearestRank, hzero, Nat.one_ne_zero, or_self, if_false, binaryExponent_one hzero, hq, Nat.pow_eq]
    rw [hrank, overflowRank]
    omega

/-- `ofInt? i` is a double where `i.natAbs.log2 < 1023`. -/
theorem exists_ofInt? {i : Int} (hi : i.natAbs.log2 < 1023) : ∃ x, ofInt? i = some x :=
  ⟨_, dif_pos (nearestRank_lt_overflowRank hi)⟩

end Binary64

/-- `toRank ⟨n, 0⟩ = Binary64.nearestRank n 1`: a natural number is rounded as a decimal without places. -/
theorem Decimal.toRank_natural {n : Nat} (hn : digitCount n ≤ 400) : toRank ⟨n, 0⟩ = Binary64.nearestRank n 1 := by
  by_cases hzero : n = 0
  · simp [toRank, hzero, Binary64.nearestRank]
  · simp only [toRank, if_neg hzero]
    rw [if_neg (by omega), if_neg (by omega)]
    simp

end RouteContracts

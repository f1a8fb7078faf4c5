/-
BrowserScript.Proofs.Number.Nearest — the nearest number of 53 bits.

Arithmetic with numbers of 53 significant bits is exact arithmetic on quotients, followed by one rounding. What
the rounding must do is said here without it: of all numbers that fit the format, the nearest one is taken, and
of two that are equally near, the one whose last bit is zero (`Nearest`). The exponents have no upper end in this.

The argument rests on one fact about the format (`Fits.on_grid`). Around any quotient the numbers that fit are
the multiples of one power of two, but for smaller ones that are farther away. So rounding to a multiple of
that power is rounding to the nearest number (`nearest_of_rounds`).

* `Fits`: the numbers of the format. `Rounds`: a multiple of a step to which a quotient may be rounded.
* `Nearest.le_of_le`: rounding does not pass a number that fits.

Main statements: `nearest_of_rounds` and `Nearest.unique`.
-/
import Mathlib.Algebra.Order.Field.Power
import Mathlib.Tactic.FieldSimp
import Mathlib.Tactic.Linarith
import Mathlib.Tactic.NormNum
import Mathlib.Tactic.Positivity
import Mathlib.Tactic.Ring

namespace BrowserScript.Number

/-! ## §1 The numbers of the format -/

/-- A number of at most `p` significant bits. The least place is that of the format with 53 bits, and one higher
for each bit less. -/
def Fits (p : ℕ) (x : ℚ) : Prop := ∃ (m : ℕ) (e : ℤ), m < 2 ^ p ∧ -1021 - p ≤ e ∧ x = m * 2 ^ e

/-- The number of the format that is nearest to a quotient. One of two that are equally near is taken if it needs
a bit less. -/
structure Nearest (q x : ℚ) : Prop where
  fits : Fits 53 x
  closest : ∀ y, Fits 53 y → |q - x| ≤ |q - y|
  even : ∀ y, Fits 53 y → |q - y| = |q - x| → y = x ∨ Fits 52 x

theorem two_zpow_pos (e : ℤ) : (0 : ℚ) < 2 ^ e := by positivity

theorem two_zpow_le {e f : ℤ} (h : e ≤ f) : (2 : ℚ) ^ e ≤ 2 ^ f := zpow_le_zpow_right₀ (by norm_num) h

theorem two_zpow_add (e f : ℤ) : (2 : ℚ) ^ (e + f) = 2 ^ e * 2 ^ f := zpow_add₀ (by norm_num) e f

theorem zpow_of_neg (b : ℚ) {e : ℤ} (h : e < 0) : b ^ e = (b ^ (-e).toNat)⁻¹ := by
  rw [← zpow_natCast, ← zpow_neg]
  congr 1
  omega

theorem zpow_of_nonneg (b : ℚ) {e : ℤ} (h : 0 ≤ e) : b ^ e = b ^ e.toNat := by
  rw [← zpow_natCast]
  congr 1
  omega

theorem Fits.nonneg {p : ℕ} {x : ℚ} (h : Fits p x) : 0 ≤ x := by
  obtain ⟨m, e, -, -, rfl⟩ := h
  positivity

theorem fits_natCast {p n : ℕ} (h : n < 2 ^ p) : Fits p n := ⟨n, 0, h, by omega, by simp⟩

theorem fits_zero {p : ℕ} : Fits p 0 := by exact_mod_cast fits_natCast (Nat.two_pow_pos p)

theorem fits_two_zpow {p : ℕ} (hp : 0 < p) {e : ℤ} (he : -1021 - p ≤ e) : Fits p (2 ^ e) :=
  ⟨1, e, Nat.one_lt_two_pow hp.ne', he, by simp⟩

/-- A multiple of a power of two is also one of a smaller power. -/
theorem exists_coarser (m : ℕ) {e f : ℤ} (h : e ≤ f) : ∃ n : ℕ, (m : ℚ) * 2 ^ f = n * 2 ^ e := by
  refine ⟨m * 2 ^ (f - e).toNat, ?_⟩
  have hsplit : (2 : ℚ) ^ f = 2 ^ (f - e).toNat * 2 ^ e := by
    rw [← zpow_natCast, ← two_zpow_add]
    congr 1
    omega
  push_cast
  rw [hsplit, mul_assoc]

/-- A number of the format is a multiple of any power of two that is a place of the format, or else it is too
small to have a bit at that place when it has all its bits. -/
theorem Fits.on_grid {p : ℕ} {y : ℚ} (h : Fits p y) (e : ℤ) :
    (∃ n : ℕ, y = n * 2 ^ e) ∨ y < 2 ^ (e + p - 1) ∧ -1021 - p < e := by
  obtain ⟨m, f, hm, hf, rfl⟩ := h
  rcases le_or_gt e f with hle | hlt
  · exact .inl (exists_coarser m hle)
  · refine .inr ⟨?_, by omega⟩
    have hbits : (m : ℚ) < 2 ^ (p : ℤ) := by
      rw [zpow_natCast]
      exact_mod_cast hm
    calc (m : ℚ) * 2 ^ f < 2 ^ (p : ℤ) * 2 ^ f := mul_lt_mul_of_pos_right hbits (two_zpow_pos f)
      _ = 2 ^ (p + f) := (two_zpow_add _ _).symm
      _ ≤ 2 ^ (e + p - 1) := two_zpow_le (by omega)

/-- Two different multiples of a power of two are that far apart. -/
theorem grid_distance {m n : ℕ} (h : m ≠ n) (e : ℤ) : (2 : ℚ) ^ e ≤ |(m : ℚ) * 2 ^ e - n * 2 ^ e| := by
  have hstep : (1 : ℚ) ≤ |(m : ℚ) - n| := by
    have hint : (1 : ℤ) ≤ |(m : ℤ) - n| := Int.one_le_abs (by omega)
    exact_mod_cast hint
  rw [← sub_mul, abs_mul, abs_of_pos (two_zpow_pos e)]
  exact le_mul_of_one_le_left (two_zpow_pos e).le hstep

theorem grid_gap {m n : ℕ} {e : ℤ} (h : (m : ℚ) * 2 ^ e < n * 2 ^ e) : (2 : ℚ) ^ e ≤ n * 2 ^ e - m * 2 ^ e := by
  have hne : m ≠ n := by
    rintro rfl
    exact lt_irrefl _ h
  have hfar := grid_distance hne e
  rwa [abs_of_neg (by linarith), neg_sub] at hfar

/-- A multiple of a step is half a step away at most, and is an even one if it is just half a step away. -/
structure Rounds (q step : ℚ) (m : ℕ) : Prop where
  near : |q - m * step| ≤ step / 2
  even : |q - m * step| = step / 2 → Even m

/-- Rounding to a power of two is rounding to the nearest number, if there are enough bits: the power is the least
place of the format, or the quotient has 53 bits above it. -/
theorem nearest_of_rounds {q : ℚ} {m : ℕ} {e : ℤ} (h : Rounds q (2 ^ e) m) (he : -1074 ≤ e) (hm : m ≤ 2 ^ 53)
    (hleast : e = -1074 ∨ 2 ^ (e + 52) ≤ q) : Nearest q (m * 2 ^ e) := by
  have hround := h.near
  -- what is no multiple lies below a multiple that is already below the quotient
  have hbelow : ∀ y, y < (2 : ℚ) ^ (e + 53 - 1) → -1021 - 53 < e → |q - m * 2 ^ e| < |q - y| := by
    intro y hy hlow
    have hq : (2 : ℚ) ^ (e + 52) ≤ q := hleast.resolve_left (by omega)
    have hy' : y < (2 : ℚ) ^ (e + 52) := by
      rwa [show e + 53 - 1 = e + 52 by ring] at hy
    have hedge : (2 : ℚ) ^ (e + 52) = (2 ^ 52 : ℕ) * 2 ^ e := by
      rw [two_zpow_add, mul_comm]
      norm_num
    have hnear : |q - m * 2 ^ e| ≤ |q - (2 ^ 52 : ℕ) * 2 ^ e| := by
      by_cases hsame : m = 2 ^ 52
      · rw [hsame]
      · have hfar := grid_distance hsame e
        have htriangle := abs_sub_le ((m : ℚ) * 2 ^ e) q ((2 ^ 52 : ℕ) * 2 ^ e)
        rw [abs_sub_comm _ q] at htriangle
        linarith
    calc |q - m * 2 ^ e| ≤ |q - (2 ^ 52 : ℕ) * 2 ^ e| := hnear
      _ = q - 2 ^ (e + 52) := by rw [← hedge, abs_of_nonneg (by linarith)]
      _ < q - y := by linarith
      _ ≤ |q - y| := le_abs_self _
  have hother : ∀ n : ℕ, m ≠ n → (2 : ℚ) ^ e / 2 ≤ |q - n * 2 ^ e| := by
    intro n hne
    have hfar := grid_distance hne e
    have htriangle := abs_sub_le ((m : ℚ) * 2 ^ e) q (n * 2 ^ e)
    rw [abs_sub_comm _ q] at htriangle
    linarith
  refine ⟨?_, ?_, ?_⟩
  · rcases hm.lt_or_eq with hlt | rfl
    · exact ⟨m, e, hlt, by omega, rfl⟩
    · refine ⟨2 ^ 52, e + 1, by norm_num, by omega, ?_⟩
      rw [two_zpow_add]
      push_cast
      ring
  · intro y hy
    rcases hy.on_grid e with ⟨n, rfl⟩ | ⟨hsmall, hlow⟩
    · by_cases hne : m = n
      · rw [hne]
      · exact hround.trans (hother n hne)
    · exact (hbelow y (by exact_mod_cast hsmall) (by exact_mod_cast hlow)).le
  · intro y hy hsame
    rcases hy.on_grid e with ⟨n, rfl⟩ | ⟨hsmall, hlow⟩
    · by_cases hne : m = n
      · exact .inl (by rw [hne])
      · obtain ⟨k, rfl⟩ := h.even (le_antisymm hround (hsame ▸ hother n hne))
        refine .inr ?_
        rcases hm.lt_or_eq with hlt | heq
        · refine ⟨k, e + 1, by omega, by push_cast; omega, ?_⟩
          rw [two_zpow_add]
          push_cast
          ring
        · refine ⟨2 ^ 51, e + 2, by norm_num, by push_cast; omega, ?_⟩
          rw [heq, two_zpow_add]
          push_cast
          ring
    · exact absurd hsame (hbelow y (by exact_mod_cast hsmall) (by exact_mod_cast hlow)).ne'

/-! ## §2 The nearest number -/

/-- A number of the format is nearest to itself. -/
theorem Nearest.self {x : ℚ} (h : Fits 53 x) : Nearest x x := by
  refine ⟨h, fun y _ => by simp, fun y _ hy => .inl ?_⟩
  rw [sub_self, abs_zero, abs_eq_zero] at hy
  linarith

/-- Rounding does not pass a number of the format. -/
theorem Nearest.le_of_le {q x y : ℚ} (h : Nearest q x) (hy : Fits 53 y) (hle : y ≤ q) : y ≤ x := by
  by_contra hlt
  have hnear := h.closest y hy
  rw [abs_of_nonneg (by linarith), abs_of_nonneg (by linarith)] at hnear
  linarith

/-- Between two numbers that need a bit less there is one that needs all bits: half a step from the one with
the smaller place. -/
theorem Fits.exists_between {x y : ℚ} (hx : Fits 52 x) (hy : Fits 52 y) (hlt : x < y) :
    ∃ z, Fits 53 z ∧ x < z ∧ z < y := by
  obtain ⟨m, e, hm, he, rfl⟩ := hx
  obtain ⟨n, f, hn, hf, rfl⟩ := hy
  push_cast at he hf
  have hhalf : ∀ e : ℤ, (2 : ℚ) ^ e = 2 * 2 ^ (e - 1) := fun e => by
    rw [← zpow_one_add₀ (by norm_num)]
    congr 1
    ring
  rcases le_or_gt e f with hle | hgt
  · obtain ⟨k, hk⟩ := exists_coarser n hle
    rw [hk] at hlt ⊢
    have hfar := grid_gap hlt
    have hpos := two_zpow_pos (e - 1)
    have hsplit := hhalf e
    refine ⟨m * 2 ^ e + 2 ^ (e - 1), ⟨2 * m + 1, e - 1, by omega, by push_cast; omega, ?_⟩, ?_, ?_⟩
    · rw [hsplit]
      push_cast
      ring
    · linarith
    · linarith
  · obtain ⟨k, hk⟩ := exists_coarser m hgt.le
    rw [hk] at hlt ⊢
    have hfar := grid_gap hlt
    have hpos := two_zpow_pos (f - 1)
    have hsplit := hhalf f
    have hn0 : 0 < n := by
      rcases Nat.eq_zero_or_pos n with rfl | h
      · have hnonneg : (0 : ℚ) ≤ k * 2 ^ f := by positivity
        rw [Nat.cast_zero, zero_mul] at hlt
        linarith
      · exact h
    refine ⟨n * 2 ^ f - 2 ^ (f - 1), ⟨2 * n - 1, f - 1, by omega, by push_cast; omega, ?_⟩, ?_, ?_⟩
    · rw [hsplit, Nat.cast_sub (by omega)]
      push_cast
      ring
    · linarith
    · linarith

/-- There is one nearest number only. -/
theorem Nearest.unique {q x y : ℚ} (hx : Nearest q x) (hy : Nearest q y) : x = y := by
  have hsame : |q - x| = |q - y| := le_antisymm (hx.closest y hy.fits) (hy.closest x hx.fits)
  wlog hlt : x < y generalizing x y
  · rcases lt_trichotomy x y with h | h | h
    · exact absurd h hlt
    · exact h
    · exact (this hy hx hsame.symm h).symm
  have hx52 : Fits 52 x := (hx.even y hy.fits hsame.symm).resolve_left hlt.ne'
  have hy52 : Fits 52 y := (hy.even x hx.fits hsame).resolve_left hlt.ne
  obtain ⟨z, hz, hxz, hzy⟩ := hx52.exists_between hy52 hlt
  have hmiddle : q - x = y - q := by
    rcases abs_eq_abs.mp hsame with h | h
    · linarith
    · linarith
  have hcloser : |q - z| < |q - x| := by
    rw [abs_of_pos (by linarith : 0 < q - x), abs_lt]
    constructor <;> linarith
  exact absurd (hx.closest z hz) (not_le.mpr hcloser)

end BrowserScript.Number

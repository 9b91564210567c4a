import PurchaseStatus.Decimal.Binary
import Mathlib.Algebra.Order.Field.Power
import Mathlib.Algebra.Order.Ring.Rat
import Mathlib.Order.Monotone.Basic
import Mathlib.Tactic.Positivity

namespace PurchaseStatus.Decimal

namespace Binary

/-- The number that a finite one stands for, exactly. -/
def number? : Binary → Option ℚ
  | .nan | .infinite _ => none
  | .finite negative mantissa exponent =>
    some ((if negative then -1 else 1) * mantissa * 2 ^ exponent)

/-- Whether a number does not exceed a bound, as exact numbers. A NaN compares with nothing. -/
def AtMost (bound : ℚ) : Binary → Prop
  | .nan => False
  | .infinite negative => negative = true
  | .finite negative mantissa exponent => (if negative then -1 else 1) * mantissa * 2 ^ exponent ≤ bound

instance (bound : ℚ) : DecidablePred (AtMost bound)
  | .nan => .isFalse id
  | .infinite negative => inferInstanceAs (Decidable (negative = true))
  | .finite negative mantissa exponent =>
    inferInstanceAs (Decidable ((if negative then -1 else 1) * mantissa * 2 ^ exponent ≤ bound))

/-- What does not exceed a bound exceeds no greater one. -/
theorem AtMost.mono {bound later : ℚ} (hle : bound ≤ later) {x : Binary} (h : x.AtMost bound) :
    x.AtMost later := by
  cases x with
  | nan => exact h
  | infinite negative => exact h
  | finite negative mantissa exponent => exact le_trans h hle

end Binary

/-- The number that a binary64 one stands for; zero for those that are not finite. -/
def exact (x : Float) : ℚ := (Binary.ofFloat x).number?.getD 0

section Finite

variable {x : Float} (hfinite : (Binary.ofFloat x).number?.isSome = true)
include hfinite

/-- A finite float stands for its exact value. -/
theorem number?_eq_exact : (Binary.ofFloat x).number? = some (exact x) := by
  obtain ⟨number, hnumber⟩ := Option.isSome_iff_exists.1 hfinite
  rw [exact, hnumber]
  rfl

end Finite

/-- A finite number without its sign, given by its bit pattern, in multiples of the least one. -/
def units (size : Nat) : Nat :=
  match size / 0x10000000000000 with
  | 0 => size % 0x10000000000000
  | biased + 1 => (0x10000000000000 + size % 0x10000000000000) * 2 ^ biased

/-- The next pattern stands for a greater number, also where the fraction is full and the exponent
rises. -/
theorem units_lt_succ (size : Nat) : units size < units (size + 1) := by
  rcases Nat.lt_or_ge (size % 0x10000000000000 + 1) 0x10000000000000 with hroom | hfull
  · have hsame : (size + 1) / 0x10000000000000 = size / 0x10000000000000 := by omega
    have hnext : (size + 1) % 0x10000000000000 = size % 0x10000000000000 + 1 := by omega
    rw [units, units, hsame, hnext]
    split
    · exact Nat.lt_succ_self _
    · exact Nat.mul_lt_mul_of_pos_right (Nat.lt_succ_self _) (Nat.two_pow_pos _)
  · have hrise : (size + 1) / 0x10000000000000 = size / 0x10000000000000 + 1 := by omega
    have hnext : (size + 1) % 0x10000000000000 = 0 := by omega
    have hlast : size % 0x10000000000000 = 0xFFFFFFFFFFFFF := by omega
    rw [units, units, hrise, hnext, hlast]
    cases size / 0x10000000000000 with
    | zero => decide
    | succ biased =>
      dsimp only
      rw [Nat.pow_succ]
      have hpos := Nat.two_pow_pos biased
      omega

theorem strictMono_units : StrictMono units := strictMono_nat_of_lt_succ units_lt_succ

/-- The multiple of the least number for which a key stands. -/
def signedUnits (key : Int) : Int := if 0 ≤ key then units key.toNat else -units (-key).toNat

/-- A greater key stands for a greater number. -/
theorem signedUnits_lt {a b : Int} (hlt : a < b) : signedUnits a < signedUnits b := by
  have hzero : units 0 = 0 := rfl
  unfold signedUnits
  split
  · rw [if_pos (by omega)]
    exact Int.ofNat_lt.2 (strictMono_units (by omega))
  · have ha : units 0 < units (-a).toNat := strictMono_units (by omega)
    split
    · omega
    · have hba : units (-b).toNat < units (-a).toNat := strictMono_units (by omega)
      omega

/-- The order of keys is that of the numbers for which they stand. -/
theorem signedUnits_le_iff {a b : Int} : signedUnits a ≤ signedUnits b ↔ a ≤ b := by
  constructor
  · intro hle
    exact Int.not_lt.1 fun hlt => absurd hle (Int.not_le.2 (signedUnits_lt hlt))
  · intro hle
    rcases Int.lt_or_eq_of_le hle with hlt | rfl
    · exact Int.le_of_lt (signedUnits_lt hlt)
    · exact Int.le_refl _

/-- The least number above zero. -/
def leastNumber : ℚ := 2 ^ (-1074 : Int)

theorem signedUnits_natCast (size : Nat) : signedUnits size = units size := by
  rw [signedUnits, if_pos (Int.natCast_nonneg size), Int.toNat_natCast]

theorem signedUnits_neg_natCast (size : Nat) : signedUnits (-size) = -units size := by
  cases size with
  | zero => rfl
  | succ size =>
    rw [signedUnits, if_neg (by omega), Int.neg_neg, Int.toNat_natCast]

/-- The pattern of the infinities without the sign. Behind it there are only those of NaNs. -/
def infiniteSize : Nat := 0x7FF0000000000000

/-- What a bit pattern stands for, and the key that it has in the order of the numbers. -/
inductive Keyed (x : Float) : Prop where
  | nan (hkey : orderKey? x = none) (hbinary : Binary.ofFloat x = .nan)
  | infinite (negative : Bool)
      (hkey : orderKey? x = some (if negative then -(infiniteSize : Int) else infiniteSize))
      (hbinary : Binary.ofFloat x = .infinite negative)
  | finite (negative : Bool) (size mantissa : Nat) (exponent : Int)
      (hkey : orderKey? x = some (if negative then -(size : Int) else size)) (hsize : size < infiniteSize)
      (hbinary : Binary.ofFloat x = .finite negative mantissa exponent)
      (hunits : (mantissa * 2 ^ exponent : ℚ) = units size * leastNumber)

/-- Every float is of one of these kinds, by the bits of its word. -/
theorem keyed (x : Float) : Keyed x := by
  have hbits : x.toBits.toNat < 2 ^ 64 := x.toBits.toNat_lt
  generalize hpattern : x.toBits.toNat = bits at hbits
  let size := bits % 0x8000000000000000
  have hbiased : bits / 0x10000000000000 % 0x800 = size / 0x10000000000000 := by omega
  have hfraction : bits % 0x10000000000000 = size % 0x10000000000000 := by omega
  have hbinary : Binary.ofFloat x = Binary.ofBits bits := by rw [Binary.ofFloat, hpattern]
  have hkey : orderKey? x = if infiniteSize < size then none
      else some (if 0x8000000000000000 ≤ bits then -(size : Int) else size) := by
    rw [orderKey?, hpattern]
    rfl
  rw [Binary.ofBits, hbiased, hfraction] at hbinary
  -- by its word without the sign, a float is a number below infinity, infinity itself, or no number beyond
  rcases Nat.lt_trichotomy size infiniteSize with hfinite | hinfinite | hnan
  · rw [if_neg (by omega)] at hkey
    rw [infiniteSize] at hfinite
    rw [if_neg (by omega)] at hbinary
    cases hexponent : size / 0x10000000000000 with
    | zero =>
      rw [hexponent, if_pos rfl] at hbinary
      refine .finite _ size _ _ (hkey.trans ?_) hfinite hbinary ?_
      · simp
      · rw [units, hexponent, leastNumber]
    | succ biased =>
      rw [hexponent, if_neg (Nat.succ_ne_zero biased)] at hbinary
      refine .finite _ size _ _ (hkey.trans ?_) hfinite hbinary ?_
      · simp
      · have hshift : ((biased + 1 : Nat) : Int) - 1075 = biased + -1074 := by omega
        rw [units, hexponent, leastNumber, hshift, zpow_add₀ two_ne_zero, zpow_natCast, ← mul_assoc,
          Nat.cast_mul, Nat.cast_pow, Nat.cast_ofNat]
  · have hfraction : size % 0x10000000000000 = 0 := by rw [hinfinite]; rfl
    have hexponent : size / 0x10000000000000 = 2047 := by rw [hinfinite]; rfl
    rw [if_pos hexponent, if_pos hfraction] at hbinary
    rw [if_neg (by omega), hinfinite] at hkey
    exact .infinite _ (hkey.trans (by simp)) hbinary
  · rw [if_pos hnan] at hkey
    rw [infiniteSize] at hnan
    rw [if_pos (by omega), if_neg (by omega)] at hbinary
    exact .nan hkey hbinary

/-- A number with a sign is the multiple of the least number for which its key stands. -/
theorem signed_eq {negative : Bool} {size mantissa : Nat} {exponent : Int}
    (hunits : (mantissa * 2 ^ exponent : ℚ) = units size * leastNumber) :
    (if negative then -1 else 1) * mantissa * 2 ^ exponent =
      (signedUnits (if negative then -(size : Int) else size) : ℚ) * leastNumber := by
  rw [mul_assoc, hunits]
  cases negative with
  | true => simp [signedUnits_neg_natCast]
  | false => simp [signedUnits_natCast]

/-- Floats that have keys are compared by them. -/
theorem leNumber_iff {x y : Float} {a b : Int} (hx : orderKey? x = some a) (hy : orderKey? y = some b) :
    leNumber x y = true ↔ a ≤ b := by
  simp [leNumber, hx, hy]

theorem leastNumber_pos : 0 < leastNumber := by
  unfold leastNumber
  positivity

/-- The keys compare as the exact numbers do. -/
theorem leNumber_iff_atMost {x y : Float} (hfinite : (Binary.ofFloat y).number?.isSome = true) :
    leNumber x y = true ↔ (Binary.ofFloat x).AtMost (exact y) := by
  have hbound := number?_eq_exact hfinite
  cases keyed y with
  | nan _ hbinary => simp [hbinary, Binary.number?] at hbound
  | infinite _ _ hbinary => simp [hbinary, Binary.number?] at hbound
  | finite negative size mantissa exponent hy hsize hbinary hunits =>
    rw [hbinary, Binary.number?, signed_eq hunits, Option.some_inj] at hbound
    cases keyed x with
    | nan hx hbinary =>
      rw [hbinary]
      exact iff_of_false (by simp [leNumber, hx]) id
    | infinite below hx hbinary =>
      rw [hbinary, leNumber_iff hx hy, Binary.AtMost]
      cases below <;> cases negative <;> simp <;> omega
    | finite negative' size' mantissa' exponent' hx _ hbinary hunits' =>
      rw [hbinary, leNumber_iff hx hy, Binary.AtMost, signed_eq hunits', ← hbound,
        mul_le_mul_iff_of_pos_right leastNumber_pos, Int.cast_le, signedUnits_le_iff]

end PurchaseStatus.Decimal

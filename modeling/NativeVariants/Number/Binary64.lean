/-!
# Binary64 numbers

Floating-point numbers as exact data: a sign, a whole significand and a power of two. Rounding a
fraction to the nearest of them is done in whole numbers, ties going to the even significand.
-/

namespace NativeVariants

/-- A whole number multiplied with itself `n` times. -/
def power (base n : Nat) : Nat :=
  Nat.pow base n

/-- A number `± significand · 2 ^ exponent`, an infinity, or no number at all. -/
inductive Binary64 where
  | finite (negative : Bool) (significand : Nat) (exponent : Int)
  | infinity (negative : Bool)
  | notANumber
  deriving DecidableEq, Repr, Inhabited

namespace Binary64

/-- The exponent of the smallest positive number. -/
def minExponent : Int := -1074

/-- The largest exponent of a significand of 53 digits. -/
def maxExponent : Int := 971

/-- The quotient rounded to the nearest whole number, a half to the even one. -/
def divNearest (num den : Nat) : Nat :=
  let q := num / den
  let r := num % den
  if den < 2 * r || (den = 2 * r && q % 2 = 1) then q + 1 else q

/-- `num / den` against `2 ^ e`: whether the fraction is at least the power. -/
def powLe (e : Int) (num den : Nat) : Bool :=
  den * power 2 e.toNat ≤ num * power 2 (-e).toNat

/-- The exponent at which the fraction `num / den` has a significand of 53 binary digits, or the
smallest exponent for fractions below the normal numbers. -/
def exponentOf (num den : Nat) : Int :=
  let k : Int := Nat.log2 num - Nat.log2 den
  max minExponent (if powLe k num den then k - 52 else k - 53)

/-- The number nearest to `num / den`. -/
def ofFraction (negative : Bool) (num den : Nat) : Binary64 :=
  if num = 0 then .finite negative 0 0
  else
    let e := exponentOf num den
    let m := divNearest (num * power 2 (-e).toNat) (den * power 2 e.toNat)
    let (m, e) := if m = power 2 53 then (power 2 52, e + 1) else (m, e)
    if maxExponent < e then .infinity negative else .finite negative m e

/-- The number nearest to `digits · 10 ^ exponent`. Fractions beyond the range of all numbers are
settled by their size alone. -/
def ofDecimal (negative : Bool) (digits : Nat) (exponent : Int) : Binary64 :=
  let magnitude := exponent + (Nat.toDigits 10 digits).length
  if digits = 0 || magnitude < -400 then .finite negative 0 0
  else if 400 < magnitude then .infinity negative
  else ofFraction negative (digits * power 10 exponent.toNat) (power 10 (-exponent).toNat)

/-- Every finite number is a whole multiple of the smallest positive one: this is the multiple. -/
def units : Binary64 → Option Int
  | .finite negative m e =>
    let n : Int := m * power 2 (e - minExponent).toNat
    some (if negative then -n else n)
  | _ => none

/-- The multiple of the smallest positive number that a whole number is. -/
def unitsOfInt (n : Int) : Int :=
  n * power 2 (-minExponent).toNat

def isZero (x : Binary64) : Bool :=
  x.units == some 0

/-- Whether `x < y`; nothing is less or greater than what is no number. -/
def lt : Binary64 → Binary64 → Bool
  | .notANumber, _ => false
  | _, .notANumber => false
  | .infinity s, .infinity t => s && !t
  | .infinity s, .finite .. => s
  | .finite .., .infinity t => !t
  | x@(.finite ..), y@(.finite ..) =>
    match x.units, y.units with
    | some a, some b => a < b
    | _, _ => false

/-- A whole number among the numbers of this format, without rounding. -/
def ofInt (n : Int) : Binary64 :=
  .finite (n < 0) n.natAbs 0

example : ofDecimal false 1 (-1) = .finite false 7205759403792794 (-56) := by decide +kernel
example : ofDecimal true 25 (-1) = .finite true 5629499534213120 (-51) := by decide +kernel
example : ofDecimal false 5 (-324) = .finite false 1 (-1074) := by decide +kernel
example : ofDecimal false 1 309 = .infinity false := by decide +kernel

end Binary64

end NativeVariants

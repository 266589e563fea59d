import NativeVariants.Number.Binary64

/-!
# Shortest decimals

The decimal with the fewest digits that reads back as a given binary64 number, nearest to it among
those of its length, and its spelling: positional for moderate sizes, with an exponent otherwise.
-/

namespace NativeVariants.Binary64

/-- A positive decimal: the digits after a leading point, and the power of ten they are times. -/
structure Decimal where
  digits : Nat
  point : Int
  deriving DecidableEq, Repr

/-- `x · 2 ^ q` and `d · 10 ^ k` over a common denominator. -/
def onGrid (q k : Int) (d x : Nat) : Nat × Nat :=
  (d * power 10 k.toNat * power 2 (-q).toNat, x * power 2 q.toNat * power 10 (-k).toNat)

/-- How many decimal digits the whole part of `m · 2 ^ e` has, or how many zeros follow its point,
counted down from zero. -/
def pointOf (m : Nat) (e : Int) : Int :=
  let scaled := m * power 10 400 * power 2 e.toNat / power 2 (-e).toNat
  (Nat.toDigits 10 scaled).length - 400

/-- Whether the decimal `d · 10 ^ k` reads back as `m · 2 ^ e`: it lies between the middles of the
gaps to the neighbours, or on one of them when the significand is even. All in quarters of the
last binary place; the gap below a power of two is half as wide. -/
def readsBack (m : Nat) (e : Int) (k : Int) (d : Nat) : Bool :=
  let below := if m = power 2 52 && minExponent < e then 4 * m - 1 else 4 * m - 2
  let above := 4 * m + 2
  let lo := onGrid (e - 2) k d below
  let hi := onGrid (e - 2) k d above
  if m % 2 = 0 then lo.2 ≤ lo.1 && hi.1 ≤ hi.2 else lo.2 < lo.1 && hi.1 < hi.2

/-- The multiple of `10 ^ k` that reads back as `m · 2 ^ e`, the nearer of two, the even one of two
equally near. -/
def hit? (m : Nat) (e : Int) (k : Int) : Option Nat :=
  let (unit, value) := onGrid e k 1 m
  let d := value / unit
  let r := value % unit
  let upFirst := unit < 2 * r || (unit = 2 * r && d % 2 = 1)
  let (near, far) := if upFirst then (d + 1, d) else (d, d + 1)
  if readsBack m e k near then some near
  else if readsBack m e k far then some far
  else none

/-- Tries grids of `n`, `n + 1`, … digits, `fuel` of them. -/
def shortestFrom (m : Nat) (e point : Int) : Nat → Nat → Decimal
  | n, 0 => ⟨m, n⟩
  | n, fuel + 1 =>
    match hit? m e (point - n) with
    | some d => ⟨d, point - n⟩
    | none => shortestFrom m e point (n + 1) fuel

/-- Digits without trailing zeros, the power of ten raised to match. -/
def dropZeros : Nat → Nat → Int → Nat × Int
  | 0, d, k => (d, k)
  | fuel + 1, d, k => if d ≠ 0 && d % 10 = 0 then dropZeros fuel (d / 10) (k + 1) else (d, k)

/-- The digits of the shortest decimal of `m · 2 ^ e`, as text, and the place of the point in
front of which as many of them stand. Seventeen digits always read back. -/
def shortest (m : Nat) (e : Int) : List Char × Int :=
  let found := shortestFrom m e (pointOf m e) 1 17
  let (d, k) := dropZeros 20 found.digits found.point
  let ds := Nat.toDigits 10 d
  (ds, k + ds.length)

/-- How numbers are spelt. -/
structure Style where
  /-- Least and greatest place of the first digit that is written without an exponent. -/
  positionalFrom : Int
  positionalTo : Int
  /-- The least number of digits of an exponent. -/
  exponentDigits : Nat
  infinity : String
  notANumber : String

/-- Whole numbers keep one zero after the point; exponents have a sign and two digits. -/
def Style.plain : Style := ⟨-4, 15, 2, "inf", "nan"⟩

/-- The spelling in JSON texts. -/
def Style.json : Style := { Style.plain with infinity := "Infinity", notANumber := "NaN" }

/-- The spelling in settings files, whose exponents have no leading zero. -/
def Style.settings : Style := { Style.plain with exponentDigits := 1 }

/-- Digits with the point in front of which `place` of them stand. -/
def positional (ds : List Char) (place : Int) : List Char :=
  if place ≤ 0 then '0' :: '.' :: List.replicate (-place).toNat '0' ++ ds
  else
    let n := place.toNat
    if ds.length ≤ n then ds ++ List.replicate (n - ds.length) '0' ++ ['.', '0']
    else ds.take n ++ '.' :: ds.drop n

/-- Digits with the point behind the first one, and an exponent. -/
def scientific (width : Nat) (ds : List Char) (exponent : Int) : List Char :=
  let es := Nat.toDigits 10 exponent.natAbs
  let tail := if ds.length ≤ 1 then ds else ds.take 1 ++ '.' :: ds.drop 1
  tail ++ 'e' :: (if exponent < 0 then '-' else '+') ::
    (List.replicate (width - es.length) '0' ++ es)

def render (style : Style) : Binary64 → String
  | .notANumber => style.notANumber
  | .infinity negative => if negative then "-" ++ style.infinity else style.infinity
  | .finite negative m e =>
    let unsigned :=
      if m = 0 then ['0', '.', '0']
      else
        let (ds, place) := shortest m e
        let exponent := place - 1
        if style.positionalFrom ≤ exponent && exponent ≤ style.positionalTo then positional ds place
        else scientific style.exponentDigits ds exponent
    String.ofList (if negative then '-' :: unsigned else unsigned)

end NativeVariants.Binary64

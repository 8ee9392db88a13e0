namespace CodeAtlas

structure Binary64 where
  bits : UInt64
  deriving DecidableEq, Repr

namespace Binary64

/-- Powers are spelled by base, so that they unfold to the one operation
that is computed on large numbers. -/
abbrev twoTo (k : Nat) : Nat := Nat.pow 2 k

abbrev tenTo (k : Nat) : Nat := Nat.pow 10 k

def isNegative (x : Binary64) : Bool := decide (twoTo 63 ≤ x.bits.toNat)

def exponentField (x : Binary64) : Nat := x.bits.toNat / twoTo 52 % twoTo 11

def fractionField (x : Binary64) : Nat := x.bits.toNat % twoTo 52

def isNaN (x : Binary64) : Bool := x.exponentField == 2047 && x.fractionField != 0

def isInfinite (x : Binary64) : Bool := x.exponentField == 2047 && x.fractionField == 0

def isZero (x : Binary64) : Bool := x.exponentField == 0 && x.fractionField == 0

def significand (x : Binary64) : Nat :=
  if x.exponentField = 0 then x.fractionField else twoTo 52 + x.fractionField

def scale (x : Binary64) : Int :=
  if x.exponentField = 0 then -1074 else (x.exponentField : Int) - 1075

def ofMagnitude (negative : Bool) (magnitude : Nat) : Binary64 :=
  ⟨UInt64.ofNat ((if negative then twoTo 63 else 0) + min magnitude (2047 * twoTo 52))⟩

def zero (negative : Bool) : Binary64 := ofMagnitude negative 0

def infinity (negative : Bool) : Binary64 := ofMagnitude negative (2047 * twoTo 52)

def nan : Binary64 := ⟨UInt64.ofNat (2047 * twoTo 52 + twoTo 51)⟩

/-- The quotient rounded to the nearest natural number, a half to the even
neighbour. -/
def roundDiv (num den : Nat) : Nat :=
  let q := num / den
  let r := num % den
  if 2 * r < den then q else if den < 2 * r then q + 1 else q + q % 2

def scaled (num den : Nat) (k : Int) : Nat × Nat :=
  if 0 ≤ k then (num, den * twoTo k.toNat) else (num * twoTo (-k).toNat, den)

/-- The exponent that leaves 53 binary digits, or fewer below the normal
range. -/
def exponentFor (num den : Nat) : Int :=
  let k : Int := (num.log2 : Int) - den.log2 - 52
  let (a, b) := scaled num den k
  max (-1074) (if a / b < twoTo 52 then k - 1 else k)

def ofRatio (negative : Bool) (num den : Nat) : Binary64 :=
  if num = 0 then zero negative
  else
    let k := exponentFor num den
    let (a, b) := scaled num den k
    ofMagnitude negative ((k + 1074).toNat * twoTo 52 + roundDiv a b)

def digitCount (n : Nat) : Nat := (Nat.toDigits 10 n).length

def ofDecimal (negative : Bool) (digits : Nat) (exponent : Int) : Binary64 :=
  let top := exponent + digitCount digits
  if digits = 0 ∨ top < -330 then zero negative
  else if 310 < top then infinity negative
  else if 0 ≤ exponent then ofRatio negative (digits * tenTo exponent.toNat) 1
  else ofRatio negative digits (tenTo (-exponent).toNat)

def truncate? (x : Binary64) : Option Int :=
  if x.exponentField = 2047 then none
  else
    let n : Nat := if 0 ≤ x.scale then x.significand * twoTo x.scale.toNat
      else x.significand / twoTo (-x.scale).toNat
    some (if x.isNegative then -(n : Int) else n)

def integer? (x : Binary64) : Option Int :=
  if 0 ≤ x.scale ∨ x.significand % twoTo (-x.scale).toNat = 0 then x.truncate? else none

def ceiling? (x : Binary64) : Option Int :=
  x.truncate?.map fun n => if x.isNegative ∨ x.integer? = some n then n else n + 1

def magnitude (x : Binary64) : Nat := x.bits.toNat % twoTo 63

def isNonPositive (x : Binary64) : Bool := !x.isNaN && (x.isNegative || x.isZero)

/-- The interval of reals that round to a word, in units of `2 ^ (scale - 2)`;
its ends belong to it when the significand is even. -/
structure Interval where
  low : Nat
  value : Nat
  high : Nat
  ends : Bool

def interval (x : Binary64) : Interval :=
  let m := x.significand
  let low := if m = twoTo 52 ∧ 1 < x.exponentField then 4 * m - 1 else 4 * m - 2
  ⟨low, 4 * m, 4 * m + 2, m % 2 == 0⟩

/-- The count of digits before the point, or minus the count of zeros after
it. -/
def decimalExponent (num den : Nat) : Int :=
  if den ≤ num then digitCount (num / den)
  else
    match (List.range 400).find? fun k => decide (den ≤ num * tenTo (k + 1)) with
    | some k => -(k : Int)
    | none => 0

/-- A grid point lies in the interval: `point * 10 ^ step` against units of
`unitNum / unitDen`. -/
def Interval.admits (i : Interval) (unitNum unitDen : Nat) (point : Nat) (step : Int) : Bool :=
  let p := if 0 ≤ step then point * tenTo step.toNat * unitDen else point * unitDen
  let u := if 0 ≤ step then unitNum else unitNum * tenTo (-step).toNat
  if i.ends then decide (i.low * u ≤ p ∧ p ≤ i.high * u)
  else decide (i.low * u < p ∧ p < i.high * u)

/-- The nearer of the two grid neighbours that lie in the interval. -/
def onGrid (i : Interval) (unitNum unitDen : Nat) (step : Int) : Option Nat :=
  let (num, den) := if 0 ≤ step then (i.value * unitNum, unitDen * tenTo step.toNat)
    else (i.value * unitNum * tenTo (-step).toNat, unitDen)
  let below := num / den
  let nearest := roundDiv num den
  let other := if nearest = below then below + 1 else below
  if i.admits unitNum unitDen nearest step then some nearest
  else if i.admits unitNum unitDen other step then some other
  else none

def shortest (x : Binary64) : Nat × Int :=
  let i := x.interval
  let e := x.scale - 2
  let unitNum := if 0 ≤ e then twoTo e.toNat else 1
  let unitDen := if 0 ≤ e then 1 else twoTo (-e).toNat
  let top := decimalExponent (i.value * unitNum) unitDen
  let found := (List.range 17).findSome? fun (n : Nat) =>
    let step := top - ((n : Int) + 1)
    (onGrid i unitNum unitDen step).map fun d => (d, step)
  found.getD (0, 0)

def stripZeros : List Char → List Char
  | [] => []
  | c :: rest =>
    match stripZeros rest with
    | [] => if c = '0' then [] else [c]
    | kept => c :: kept

def exponentText (e : Int) : String :=
  let digits := toString e.natAbs
  (if e < 0 then "e-" else "e+") ++ (if digits.length < 2 then "0" ++ digits else digits)

/-- Positional from `0.0001` up to sixteen digits before the point, with at
least one digit after it; scientific beyond. -/
def magnitudeText (digits : Nat) (exponent : Int) : String :=
  let all := Nat.toDigits 10 digits
  let point : Int := all.length + exponent
  let kept := stripZeros all
  if -4 < point ∧ point ≤ 16 then
    if point ≤ 0 then
      "0." ++ String.ofList (List.replicate (-point).toNat '0' ++ kept)
    else
      let p := point.toNat
      let whole := kept.take p ++ List.replicate (p - kept.length) '0'
      let fraction := kept.drop p
      String.ofList whole ++ "." ++ (if fraction.isEmpty then "0" else String.ofList fraction)
  else
    let tail := kept.drop 1
    String.ofList (kept.take 1) ++ (if tail.isEmpty then "" else "." ++ String.ofList tail)
      ++ exponentText (point - 1)

structure Spelling where
  infinity : String
  nan : String

def render (spelling : Spelling) (x : Binary64) : String :=
  let sign := if x.isNegative then "-" else ""
  if x.isNaN then spelling.nan
  else if x.isInfinite then sign ++ spelling.infinity
  else if x.isZero then sign ++ "0.0"
  else
    let (digits, exponent) := x.shortest
    sign ++ magnitudeText digits exponent

def toText : Binary64 → String := render ⟨"inf", "nan"⟩

end Binary64

end CodeAtlas

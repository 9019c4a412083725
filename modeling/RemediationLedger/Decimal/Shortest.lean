/-
The shortest decimal that reads back as a given double.

A double stands for every real number that rounds to it, an interval around its
exact value. Among the decimals in that interval those with the fewest digits
are the short ones, and of these the one nearest to the exact value is chosen.
On the grid of decimals with a given number of digits it is enough to look at
the two neighbours of the exact value: if any point of the grid lies in the
interval, one of these does. All arithmetic is exact.

* `Fraction` holds a positive number as two natural numbers and is never
  reduced; comparisons multiply crosswise.
* `Rounding` is the interval with the exact value in it. Its two ends belong to
  it if the fraction bits are even, because a number halfway between two doubles
  rounds to the even one. Below a power of two the doubles lie twice as close,
  so the interval is not symmetric there.
* `Rounding.onGrid?` chooses on one grid, and `shortest` takes the coarsest grid
  on which there is a choice.

The grids are tried from the place of the leading digit (`Fraction.magnitude`)
downwards. The function serves reports alone: a report about a number in a JSON
text shows it as the reader understood it.
-/

namespace RemediationLedger.Decimal

/-- The positive number `coefficient * 10 ^ exponent`. -/
structure Scientific where
  coefficient : Nat
  exponent : Int
  deriving DecidableEq, Repr

structure Fraction where
  num : Nat
  den : Nat

namespace Fraction

def binary (n : Nat) (e : Int) : Fraction :=
  if 0 ≤ e then ⟨n * Nat.pow 2 e.toNat, 1⟩ else ⟨n, Nat.pow 2 (-e).toNat⟩

def decimal (n : Nat) (e : Int) : Fraction :=
  if 0 ≤ e then ⟨n * Nat.pow 10 e.toNat, 1⟩ else ⟨n, Nat.pow 10 (-e).toNat⟩

def le (a b : Fraction) : Bool := a.num * b.den ≤ b.num * a.den

def lt (a b : Fraction) : Bool := a.num * b.den < b.num * a.den

def distance (a b : Fraction) : Fraction :=
  let x := a.num * b.den
  let y := b.num * a.den
  ⟨(x - y) + (y - x), a.den * b.den⟩

/-- The greatest `p` with `10 ^ p` at most the fraction. -/
def magnitude (a : Fraction) : Int :=
  if a.den ≤ a.num then (Nat.toDigits 10 (a.num / a.den)).length - 1
  else
    let k := (Nat.toDigits 10 (a.den / a.num)).length - 1
    if a.den ≤ a.num * Nat.pow 10 k then -k else -(k + 1)

/-- The greatest `d` with `d * 10 ^ e` at most the fraction. -/
def floorOnGrid (a : Fraction) (e : Int) : Nat :=
  if 0 ≤ e then a.num / (a.den * Nat.pow 10 e.toNat)
  else a.num * Nat.pow 10 (-e).toNat / a.den

end Fraction

/-- The exact value of a positive double and the interval of numbers that round to it. -/
structure Rounding where
  value : Fraction
  low : Fraction
  high : Fraction
  /-- Whether the ends of the interval round to the double as well. -/
  closed : Bool

namespace Rounding

/-- The interval of the double with the given fraction and exponent bits. The gap below a power of
two is half the gap above it. -/
def ofBits (fractionBits exponentBits : Nat) : Rounding :=
  let m := if exponentBits = 0 then fractionBits else fractionBits + 0x10000000000000
  let q : Int := (if exponentBits = 0 then 1 else exponentBits) - 1075 - 2
  let below := if fractionBits = 0 ∧ 1 < exponentBits then 1 else 2
  ⟨.binary (4 * m) q, .binary (4 * m - below) q, .binary (4 * m + 2) q, m % 2 == 0⟩

def contains (r : Rounding) (a : Fraction) : Bool :=
  if r.closed then r.low.le a && a.le r.high else r.low.lt a && a.lt r.high

/-- The neighbour of the value on a decimal grid that lies in the interval; of two the nearer, and
of two as near the even one. -/
def onGrid? (r : Rounding) (e : Int) : Option Nat :=
  let d := r.value.floorOnGrid e
  let lower := Fraction.decimal d e
  let upper := Fraction.decimal (d + 1) e
  if r.contains lower then
    if r.contains upper then
      let toLower := r.value.distance lower
      let toUpper := r.value.distance upper
      if toLower.lt toUpper then some d
      else if toUpper.lt toLower then some (d + 1)
      else if d % 2 = 0 then some d else some (d + 1)
    else some d
  else if r.contains upper then some (d + 1)
  else none

end Rounding

/-- Drops the zeros at the end of a coefficient; `limit` bounds their number. -/
def Scientific.normalize (limit : Nat) (s : Scientific) : Scientific :=
  match limit with
  | 0 => s
  | limit + 1 =>
    if s.coefficient ≠ 0 ∧ s.coefficient % 10 = 0 then
      normalize limit ⟨s.coefficient / 10, s.exponent + 1⟩
    else s

/-- The shortest decimal that reads back as the positive double with the given bits. Seventeen
digits always suffice. -/
def shortest (fractionBits exponentBits : Nat) : Scientific :=
  let r := Rounding.ofBits fractionBits exponentBits
  let p := r.value.magnitude
  let candidates := (List.range 17).filterMap fun (n : Nat) =>
    (r.onGrid? (p - n)).map fun d => Scientific.mk d (p - n)
  ((candidates.head?).getD ⟨0, 0⟩).normalize 17

end RemediationLedger.Decimal

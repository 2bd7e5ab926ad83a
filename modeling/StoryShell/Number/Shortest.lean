/-
The shortest decimal of a floating-point number: the fewest digits that read back to it, and of
those the nearest to it.

A number stands for an interval of reals, those that round to it. On the grid of decimals with a
given count of digits only the two neighbours of the number can be the nearest point inside, so
each count from one to seventeen asks for two comparisons.
-/
import StoryShell.Number.Binary64

set_option autoImplicit false

namespace StoryShell.Binary64

/-- A decimal, `digits * 10 ^ exponent`. -/
structure Decimal where
  digits : Nat
  exponent : Int
deriving DecidableEq, Repr

/-- The count of decimal digits of a natural number. -/
def digitCount (n : Nat) : Nat :=
  (Nat.toDigits 10 n).length

/-- The power of ten at or below a positive quotient. -/
def decimalPlace (num den : Nat) : Int :=
  if den ≤ num then (digitCount (num / den) : Int) - 1 else -(digitCount ((den - 1) / num) : Int)

/-- **The interval of a number**, in quarters of its last binary place: its two ends, its value, and
whether the ends belong to it. Below a power of two the next number is only half as far. -/
structure Interval where
  low : Nat
  value : Nat
  high : Nat
  closed : Bool

/-- The interval of `m * 2 ^ q`. -/
def intervalOf (m : Nat) (q : Int) : Interval where
  low := if m = mantissaBound / 2 && leastExponent < q then 4 * m - 1 else 4 * m - 2
  value := 4 * m
  high := 4 * m + 2
  closed := m % 2 == 0

/-- Two to the power `q`, as a quotient. -/
def powerOfTwo : Int → Nat × Nat
  | .ofNat q => (Nat.pow 2 q, 1)
  | .negSucc q => (1, Nat.pow 2 (q + 1))

/-- Ten to the power `q`, as a quotient. -/
def powerOfTen : Int → Nat × Nat
  | .ofNat q => (Nat.pow 10 q, 1)
  | .negSucc q => (1, Nat.pow 10 (q + 1))

/-- The best decimal on the grid of multiples of `10 ^ place`, if one lies in the interval. -/
def onGrid? (range : Interval) (q place : Int) : Option Decimal :=
  let (twoNum, twoDen) := powerOfTwo (q - 2)
  let (tenNum, tenDen) := powerOfTen place
  -- Both sides of a comparison are brought to one denominator: `binary n` stands for `n` quarters
  -- of the last binary place, `decimal c` for `c` multiples of the grid.
  let binary (n : Nat) : Nat := n * twoNum * tenDen
  let decimal (c : Nat) : Nat := c * tenNum * twoDen
  let inside (c : Nat) : Bool :=
    if range.closed then binary range.low ≤ decimal c && decimal c ≤ binary range.high
    else binary range.low < decimal c && decimal c < binary range.high
  let below := binary range.value / decimal 1
  let above := below + 1
  match inside below, inside above with
  | false, false => none
  | true, false => some ⟨below, place⟩
  | false, true => some ⟨above, place⟩
  | true, true =>
    let down := binary range.value - decimal below
    let up := decimal above - binary range.value
    if down < up || (down = up && below % 2 = 0) then some ⟨below, place⟩ else some ⟨above, place⟩

/-- The first hit on ever finer grids, of which there are `grids`. -/
def firstOnGrids (range : Interval) (q : Int) : Nat → Int → Decimal
  | 0, place => ⟨0, place⟩
  | grids + 1, place => (onGrid? range q place).getD (firstOnGrids range q grids (place - 1))

/-- Moves the zeros at the end of a decimal into its exponent; `count` bounds their number. -/
def dropZeros : Nat → Decimal → Decimal
  | 0, d => d
  | count + 1, d =>
    if d.digits ≠ 0 && d.digits % 10 = 0 then dropZeros count ⟨d.digits / 10, d.exponent + 1⟩ else d

/-- **The shortest decimal** of the positive number `m * 2 ^ q`: seventeen digits always suffice. -/
def shortest (m : Nat) (q : Int) : Decimal :=
  let (twoNum, twoDen) := powerOfTwo q
  dropZeros 17 (firstOnGrids (intervalOf m q) q 17 (decimalPlace (m * twoNum) twoDen))

/-- **How a decimal is laid out**: positional while the power of ten of its first digit lies from
`lowest` up to and not including `ceiling`, and with an exponent of at least `exponentWidth` digits
otherwise. -/
structure Layout where
  lowest : Int
  ceiling : Int
  exponentWidth : Nat

/-- The digits of a number, with zeros in front up to a width. -/
def padded (width n : Nat) : List Char :=
  let digits := Nat.toDigits 10 n
  List.replicate (width - digits.length) '0' ++ digits

/-- The digits of a decimal around its point, without an exponent; a whole number keeps one zero
after the point. -/
def positional (digits : List Char) (point : Int) : List Char :=
  match point with
  | .negSucc n => '0' :: '.' :: (List.replicate (n + 1) '0' ++ digits)
  | .ofNat 0 => '0' :: '.' :: digits
  | .ofNat n =>
    if digits.length ≤ n then digits ++ List.replicate (n - digits.length) '0' ++ ['.', '0']
    else digits.take n ++ '.' :: digits.drop n

/-- The digits of a decimal with one before the point, and the exponent after them. -/
def scientific (width : Nat) (digits : List Char) (exponent : Int) : List Char :=
  let fraction := if digits.length ≤ 1 then [] else '.' :: digits.drop 1
  let sign := if exponent < 0 then '-' else '+'
  digits.take 1 ++ fraction ++ 'e' :: sign :: padded width exponent.natAbs

/-- The text of a positive decimal in a layout. -/
def Decimal.layOut (layout : Layout) (d : Decimal) : List Char :=
  let digits := Nat.toDigits 10 d.digits
  let first : Int := d.exponent + digits.length - 1
  if layout.lowest ≤ first && first < layout.ceiling then positional digits (first + 1)
  else scientific layout.exponentWidth digits first

/-- The text of a number in a layout. -/
def text (layout : Layout) : Binary64 → String
  | .notANumber => "nan"
  | .infinite negative => if negative then "-inf" else "inf"
  | .finite negative m q =>
    let digits := if m = 0 then "0.0".toList else (shortest m q).layOut layout
    String.ofList (if negative then '-' :: digits else digits)

end StoryShell.Binary64

/-
Binary floating-point numbers of 64 bits, as exact values.

A finite number is a sign and a natural number times a power of two. Reading a decimal takes the
number nearest to it, and of two equally near the one with the even mantissa; what is too large to
be finite becomes an infinity. All of it is arithmetic on natural numbers.
-/

set_option autoImplicit false

namespace StoryShell

/-- **A floating-point number.** `finite negative m q` stands for `m * 2 ^ q` with its sign; zero
keeps its sign too. -/
inductive Binary64 where
  | finite (negative : Bool) (mantissa : Nat) (exponent : Int)
  | infinite (negative : Bool)
  | notANumber
deriving DecidableEq, Repr

namespace Binary64

/-- The exponent of the smallest positive number. -/
def leastExponent : Int := -1074

/-- Mantissas lie below this bound. -/
def mantissaBound : Nat := Nat.pow 2 53

/-- Finite numbers lie below two to this power. -/
def rangeExponent : Int := 1024

/-- The natural number nearest to a quotient; a tie goes to the even one. -/
def roundQuotient (num den : Nat) : Nat :=
  let low := num / den
  let twice := 2 * (num % den)
  if twice < den then low
  else if den < twice then low + 1
  else low + low % 2

/-- A quotient scaled by a power of two, as a new quotient. -/
def scaleDown (num den : Nat) : Int → Nat × Nat
  | .ofNat q => (num, den * Nat.pow 2 q)
  | .negSucc q => (num * Nat.pow 2 (q + 1), den)

/-- The exponent at which a positive quotient has a mantissa of full length, or the least one. -/
def exponentFor (num den : Nat) : Int :=
  let guess : Int := (Nat.log2 num : Int) - (Nat.log2 den : Int) - 53
  let (n, d) := scaleDown num den guess
  max leastExponent (if n / d < mantissaBound then guess else guess + 1)

/-- The number nearest to a positive quotient. -/
def ofQuotient (negative : Bool) (num den : Nat) : Binary64 :=
  let q := exponentFor num den
  let (n, d) := scaleDown num den q
  let m := roundQuotient n d
  let (m, q) := if m < mantissaBound then (m, q) else (m / 2, q + 1)
  if (Nat.log2 m : Int) + q < rangeExponent then .finite negative m q else .infinite negative

/-- **Reads a decimal**, `digits * 10 ^ exponent`. Decimals of an absurd size are told by the place
of their first digit, so no huge power is ever computed for them. -/
def ofDecimal (negative : Bool) (digits : Nat) (exponent : Int) : Binary64 :=
  let place := ((Nat.toDigits 10 digits).length : Int) + exponent
  if digits = 0 || place < -330 then .finite negative 0 leastExponent
  else if 310 < place then .infinite negative
  else match exponent with
    | .ofNat e => ofQuotient negative (digits * Nat.pow 10 e) 1
    | .negSucc e => ofQuotient negative digits (Nat.pow 10 (e + 1))

/-- Whether a number is one of the two zeros. -/
def isZero : Binary64 → Bool
  | .finite _ m _ => m == 0
  | _ => false

end Binary64

end StoryShell

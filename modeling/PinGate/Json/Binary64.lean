-- Binary floating-point numbers of 64 bits, as far as a document needs them: the number nearest
-- to a decimal, a tie going to the even neighbour, and the whole number toward zero from it.
-- Everything is done in whole numbers, so nothing is lost on the way.
namespace PinGate.Json

/-- A number of the format: a mantissa below 2^53 times a power of two, or none. -/
inductive Binary64 where
  | nan
  | infinite (negative : Bool)
  | finite (negative : Bool) (mantissa : Nat) (exponent : Int)
  deriving Repr, DecidableEq

namespace Binary64

/-- The whole number nearest to a quotient; of two that are equally near, the even one. -/
def roundedQuotient (num den : Nat) : Nat :=
  let q := num / den
  let r := num % den
  if 2 * r > den || (2 * r == den && q % 2 == 1) then q + 1 else q

/-- The exponent at which the quotient of two positive numbers has a mantissa of 53 bits, but
not below the least of the format. -/
def exponentFor (num den : Nat) : Int :=
  let guess : Int := (num.log2 : Int) - den.log2
  let top := if den <<< guess.toNat ≤ num <<< (-guess).toNat then guess else guess - 1
  max (top - 52) (-1074)

/-- The number nearest to the quotient of two positive numbers. -/
def nearest (negative : Bool) (num den : Nat) : Binary64 :=
  let e := exponentFor num den
  let m := roundedQuotient (num <<< (-e).toNat) (den <<< e.toNat)
  if 1024 ≤ m.log2 + e then .infinite negative else .finite negative m e

/-- The number nearest to `digits` times a power of ten. Decimals that are out of all bounds are
told by the place of their first digit, without writing them out. -/
def ofDecimal (negative : Bool) (digits : Nat) (exponent : Int) : Binary64 :=
  let places : Int := (Nat.toDigits 10 digits).length + exponent
  if digits == 0 || places < -330 then .finite negative 0 0
  else if 310 < places then .infinite negative
  else nearest negative (digits * Nat.pow 10 exponent.toNat) (Nat.pow 10 (-exponent).toNat)

/-- Whether the number is zero, with either sign. -/
def isZero : Binary64 → Bool
  | finite _ m _ => m == 0
  | _ => false

/-- A mantissa times a power of two, what is behind the point cut off. -/
def scaled (mantissa : Nat) (exponent : Int) : Nat :=
  mantissa <<< exponent.toNat >>> (-exponent).toNat

end Binary64

end PinGate.Json

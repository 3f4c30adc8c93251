/-!
Double-precision numbers. A finite one is the fraction it stands for; every operation is the
exact one on fractions followed by `nearest`, which rounds to 53 significant bits.
-/
namespace Pageflow

/-- `num / den` to the nearest natural number; a tie goes to the even neighbour. -/
def roundHalfEven (num den : Nat) : Nat :=
  let quotient := num / den
  let twice := 2 * (num % den)
  if twice < den then quotient
  else if den < twice then quotient + 1
  else quotient + quotient % 2

/-- `base ^ exponent` for a whole exponent of either sign. -/
def wholePow (base : Nat) (exponent : Int) : Rat :=
  if 0 ≤ exponent then ((Nat.pow base exponent.toNat : Nat) : Rat)
  else 1 / ((Nat.pow base (-exponent).toNat : Nat) : Rat)

/-- A fraction to the nearest integer; a tie goes to the even neighbour. -/
def nearestInt (q : Rat) : Int :=
  let rounded := Pageflow.roundHalfEven q.num.natAbs q.den
  if q.num < 0 then -rounded else rounded

/-! ## Doubles -/

/-- A double-precision number. The sign of a zero result is not followed through arithmetic:
a negative zero only comes from reading one. -/
inductive Double where
  | finite (value : Rat)
  | negativeZero
  | infinite (negative : Bool)
  | nan
deriving DecidableEq

namespace Double

/-- The exponent of the last of 53 significant bits of `num / den`, not below the smallest one. -/
def lastPlace (num den : Nat) : Int :=
  let guess : Int := (num.log2 : Int) - den.log2 - 52
  let small : Bool :=
    if 0 ≤ guess then decide (num < den * Nat.pow 2 (guess.toNat + 52))
    else decide (num * Nat.pow 2 (-guess).toNat < den * Nat.pow 2 52)
  max (if small then guess - 1 else guess) (-1074)

/-- The number of last places in `num / den`, to the nearest one. -/
def significand (num den : Nat) (place : Int) : Nat :=
  if 0 ≤ place then roundHalfEven num (den * Nat.pow 2 place.toNat)
  else roundHalfEven (num * Nat.pow 2 (-place).toNat) den

/-- The magnitude from which on a fraction is too large for a finite number. -/
def limit : Rat := (Nat.pow 2 1024 : Nat)

/-- The double nearest to a fraction; ties go to the even significand, and what is too large
becomes infinite. -/
def nearest (q : Rat) : Double :=
  if q.num = 0 then .finite 0
  else
    let place := lastPlace q.num.natAbs q.den
    let magnitude := (significand q.num.natAbs q.den place : Rat) * wholePow 2 place
    if limit ≤ magnitude then .infinite (q.num < 0)
    else .finite (if q.num < 0 then -magnitude else magnitude)

/-- The double nearest to an integer. -/
def ofInt (n : Int) : Double := nearest n

instance : OfNat Double n := ⟨ofInt n⟩
instance : Coe Int Double := ⟨ofInt⟩
instance : Inhabited Double := ⟨.finite 0⟩

/-- The fraction a finite number stands for. -/
def value? : Double → Option Rat
  | .finite q => some q
  | .negativeZero => some 0
  | _ => none

/-- The sign of a number other than `nan`, as a factor. -/
def sign : Double → Int
  | .finite q => if q.num < 0 then -1 else if q.num = 0 then 0 else 1
  | .infinite true => -1
  | .infinite false => 1
  | _ => 0

def neg : Double → Double
  | .finite q => if q.num = 0 then .negativeZero else .finite (-q)
  | .negativeZero => .finite 0
  | .infinite s => .infinite !s
  | .nan => .nan

def add (x y : Double) : Double :=
  match x, y with
  | .nan, _ | _, .nan => .nan
  | .infinite s, .infinite t => if s = t then .infinite s else .nan
  | .infinite s, _ | _, .infinite s => .infinite s
  | x, y => nearest (x.value?.getD 0 + y.value?.getD 0)

def sub (x y : Double) : Double := x.add y.neg

def mul (x y : Double) : Double :=
  match x, y with
  | .nan, _ | _, .nan => .nan
  | .infinite _, y | y, .infinite _ =>
    if y.sign = 0 then .nan else .infinite (x.sign * y.sign < 0)
  | x, y => nearest (x.value?.getD 0 * y.value?.getD 0)

/-- Division by a finite number other than zero. -/
def div (x : Double) (y : Rat) : Double :=
  match x with
  | .nan => .nan
  | .infinite s => .infinite (s != (y.num < 0))
  | x => nearest (x.value?.getD 0 / y)

instance : Add Double := ⟨add⟩
instance : Sub Double := ⟨sub⟩
instance : Mul Double := ⟨mul⟩

/-- The order of two numbers; nothing is ordered with `nan`. -/
def le (x y : Double) : Bool :=
  match x, y with
  | .nan, _ | _, .nan => false
  | .infinite true, _ | _, .infinite false => true
  | .infinite false, _ | _, .infinite true => false
  | x, y => decide (x.value?.getD 0 ≤ y.value?.getD 0)

/-- Whether a number is at least an integer. The two are compared exactly: the integer is not
rounded to a double first. -/
def atLeast (x : Double) (n : Int) : Bool :=
  match x with
  | .nan => false
  | .infinite negative => !negative
  | x => decide ((n : Rat) ≤ x.value?.getD 0)

/-- Equality of numbers: the zeros are equal and `nan` differs from itself. -/
def eq (x y : Double) : Bool := x.le y && y.le x

def lt (x y : Double) : Bool := x.le y && !y.le x

/-- Whether a number is one of the two zeros. -/
def isZero : Double → Bool
  | .finite q => q.num = 0
  | .negativeZero => true
  | _ => false

/-- The whole number a double equals, if it is whole. -/
def whole? (x : Double) : Option Int :=
  match x.value? with
  | some q => if q.den = 1 then some q.num else none
  | none => none

/-- Rounds half up to an integer; infinity and `nan` have none. -/
def roundHalfUp? (x : Double) : Option Int := (x + nearest (1 / 2)).value?.map Rat.floor

/-- Rounds to the nearest integer, ties to even. -/
def roundHalfEven? (x : Double) : Option Int := x.value?.map nearestInt

/-- The integer part, toward zero. -/
def truncate? (x : Double) : Option Int :=
  x.value?.map fun q => if q.num < 0 then -((-q).floor) else q.floor

end Double
end Pageflow

import Pageflow.Number.Double
import Pageflow.Text.Parts
/-!
Decimal notation of doubles: the fewest digits that read back, a fixed number of places, and a
fixed number of significant digits; and the reading of decimal numerals.
-/
namespace Pageflow.Decimal

/-- A positive decimal `0.d₁d₂… · 10^point`, without trailing zeros. -/
structure Digits where
  digits : List Char
  point : Int

/-- The exponent of the leading digit of a positive fraction: `10^k ≤ q < 10^(k+1)`. -/
def leadingExponent (q : Rat) : Int :=
  let guess : Int := ((Nat.toDigits 10 q.num.natAbs).length : Int) - (Nat.toDigits 10 q.den).length
  if wholePow 10 guess ≤ q then guess else guess - 1

/-- The decimal `count · 10^scale`. -/
def Digits.ofCount (count : Nat) (scale : Int) : Digits :=
  let all := Nat.toDigits 10 count
  { digits := (all.reverse.dropWhile (· == '0')).reverse, point := all.length + scale }

/-- The multiples of `10^scale` next to `q` that lie between `low` and `high`, nearest first. -/
def candidate? (q low high : Rat) (closed : Bool) (scale : Int) : Option Nat :=
  let grid := wholePow 10 scale
  let below := (q / grid).floor
  let inside (n : Int) : Bool :=
    let x := (n : Rat) * grid
    0 < n && (if closed then decide (low ≤ x ∧ x ≤ high) else decide (low < x ∧ x < high))
  let under := q - (below : Rat) * grid
  let above := ((below + 1 : Int) : Rat) * grid - q
  let upperFirst := above < under || (above = under && below % 2 != 0)
  let order := if upperFirst then [below + 1, below] else [below, below + 1]
  (order.find? inside).map Int.toNat

/-- The digits of the shortest decimal that reads back as the positive double `q`. -/
def shortest (q : Rat) : Digits :=
  let place := Double.lastPlace q.num.natAbs q.den
  let unit := wholePow 2 place
  let steps := (q / unit).floor.toNat
  let low := q - (if steps == Nat.pow 2 52 && -1074 < place then unit / 4 else unit / 2)
  let high := q + unit / 2
  let lead := leadingExponent q
  let tries := (List.range 17).filterMap fun (n : Nat) =>
    let scale := lead - n
    (candidate? q low high (steps % 2 == 0) scale).map (Digits.ofCount · scale)
  tries.headD (Digits.ofCount steps place)

/-- A whole exponent with a sign and at least two digits. -/
def exponentText (e : Int) : String :=
  (if e < 0 then "-" else "+") ++ Text.padLeft 2 (toString e.natAbs) '0'

/-- Digits with a point after the first and an exponent. -/
def scientific (d : List Char) (exponent : Int) (mark : String := "e") : String :=
  match d with
  | [] => "0"
  | [c] => c.toString ++ mark ++ exponentText exponent
  | c :: rest => c.toString ++ "." ++ String.ofList rest ++ mark ++ exponentText exponent

/-- Digits with the point at its place and no exponent; no point where nothing follows it. -/
def positional (d : Digits) : String :=
  if d.point ≤ 0 then
    "0." ++ String.ofList (List.replicate (-d.point).toNat '0' ++ d.digits)
  else
    let whole := d.digits.take d.point.toNat
    let whole := whole ++ List.replicate (d.point.toNat - whole.length) '0'
    let rest := d.digits.drop d.point.toNat
    String.ofList whole ++ (if rest.isEmpty then "" else "." ++ String.ofList rest)

/-- The sign of a double as text and its magnitude; `none` for what is not finite. -/
def parts (x : Double) : String × Option Rat :=
  match x with
  | .finite q => if q.num < 0 then ("-", some (-q)) else ("", some q)
  | .negativeZero => ("-", some 0)
  | .infinite s => (if s then "-" else "", none)
  | .nan => ("", none)

/-- How a double is written that has no digits. -/
def special (x : Double) : String :=
  match x with
  | .nan => "nan"
  | _ => "inf"

/-- The shortest text that reads back: positional from `10^-4` up to below `10^16` and always
with a point, otherwise with an exponent. -/
def shortText (x : Double) : String :=
  match parts x with
  | (sign, none) => sign ++ special x
  | (sign, some q) =>
    if q.num = 0 then sign ++ "0.0"
    else
      let d := shortest q
      if -4 < d.point && d.point ≤ 16 then
        let text := positional d
        sign ++ text ++ (if d.digits.length ≤ d.point.toNat then ".0" else "")
      else sign ++ scientific d.digits (d.point - 1)

/-- The magnitude `q` with `places` digits after the point, the exact value rounded, ties to even. -/
def fixedMagnitude (places : Nat) (q : Rat) : String :=
  let scaled := (nearestInt (q * wholePow 10 places)).toNat
  let all := Text.padLeft (places + 1) (toString scaled) '0'
  let cs := all.toList
  let whole := cs.take (cs.length - places)
  String.ofList whole ++
    (if places == 0 then "" else "." ++ String.ofList (cs.drop (cs.length - places)))

/-- A fixed number of digits after the point. -/
def fixed (places : Nat) (x : Double) : String :=
  match parts x with
  | (sign, none) => sign ++ special x
  | (sign, some q) => sign ++ fixedMagnitude places q

/-- The positive fraction `q` rounded to `n` significant digits: all `n` digits and the exponent of
the first. -/
def significant (n : Nat) (q : Rat) : List Char × Int :=
  let lead := leadingExponent q
  let count := (nearestInt (q * wholePow 10 (n - 1 - lead))).toNat
  let all := Nat.toDigits 10 count
  if n < all.length then (all.take n, lead + 1) else (all, lead)

/-- A number with `places + 1` significant digits and an exponent. -/
def exponential (places : Nat) (mark : String) (x : Double) : String :=
  match parts x with
  | (sign, none) => sign ++ special x
  | (sign, some q) =>
    let (digits, lead) :=
      if q.num = 0 then (List.replicate (places + 1) '0', 0) else significant (places + 1) q
    sign ++ scientific digits lead mark

/-- At most `n` significant digits, without trailing zeros unless these are to be kept: positional
while the exponent is from -4 to below `n`, otherwise with an exponent. -/
def general (n : Nat) (x : Double) (keepZeros : Bool := false) : String :=
  match parts x with
  | (sign, none) => sign ++ special x
  | (sign, some q) =>
    let n := max n 1
    let (all, lead) := if q.num = 0 then (List.replicate n '0', 0) else significant n q
    let trimmed := (all.reverse.dropWhile (· == '0')).reverse
    let digits := if keepZeros then all else if q.num = 0 then ['0'] else trimmed
    if -4 ≤ lead && lead < n then sign ++ positional ⟨digits, lead + 1⟩
    else sign ++ scientific digits lead

/-- The number written by a run of decimal digits. -/
def natOfDigits (cs : List Char) : Nat := cs.foldl (fun n c => 10 * n + (c.toNat - 48)) 0

/-- The double nearest to `count · 10^scale`, negated if asked. Scales far outside the range of
doubles are decided without computing the power. -/
def ofScaled (negative : Bool) (count : Nat) (scale : Int) : Double :=
  if count = 0 then (if negative then .negativeZero else .finite 0)
  else
    let size : Int := (Nat.toDigits 10 count).length
    if 400 < size + scale then .infinite negative
    else if size + scale < -400 then (if negative then .negativeZero else .finite 0)
    else
      let q := (count : Rat) * wholePow 10 scale
      match Double.nearest (if negative then -q else q) with
      | .finite r => if r.num = 0 && negative then .negativeZero else .finite r
      | x => x

/-- Reads `digits [. digits] [e [sign] digits]` after an optional sign; a digit is needed before
or after the point. -/
def read? (cs : List Char) : Option Double :=
  let (negative, cs) :=
    match cs with
    | '-' :: rest => (true, rest)
    | '+' :: rest => (false, rest)
    | _ => (false, cs)
  let whole := cs.takeWhile Char.isDigit
  let rest := cs.dropWhile Char.isDigit
  let (places, rest) :=
    match rest with
    | '.' :: more => (more.takeWhile Char.isDigit, more.dropWhile Char.isDigit)
    | _ => ([], rest)
  if whole.isEmpty && places.isEmpty then none
  else
    let count := natOfDigits (whole ++ places)
    let finish (exponent : Int) := some (ofScaled negative count (exponent - places.length))
    match rest with
    | [] => finish 0
    | e :: rest =>
      if e != 'e' && e != 'E' then none
      else
        let (down, digits) :=
          match rest with
          | '-' :: more => (true, more)
          | '+' :: more => (false, more)
          | _ => (false, rest)
        if digits.isEmpty || !digits.all Char.isDigit then none
        else
          let size : Int := natOfDigits digits
          finish (if down then -size else size)

/-- The number that the longest numeral at the start stands for. -/
def leading? (cs : List Char) : Option Double :=
  (List.range (cs.length + 1)).reverse.findSome? fun n => read? (cs.take n)

end Pageflow.Decimal

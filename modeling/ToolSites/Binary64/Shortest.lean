import ToolSites.Binary64.Basic
/-!
# The fewest digits that read back

A floating-point number is shown with the fewest decimal digits from which
reading gives the same number again. The reals that round to a number form an
interval, from halfway to the neighbour below to halfway to the neighbour above,
with its ends exactly if the mantissa is even. `shortest` tries grids of 1, 2, …
17 digits; on each only the two neighbours of the value can lie in the interval.
-/

namespace ToolSites

/-- The number `digits · 10^exponent`. -/
structure Decimal where
  digits : Nat
  exponent : Int
  deriving DecidableEq, Repr

namespace Binary64

/-! ## Digits -/

/-- Whether `c · 10^s` rounds to `m · 2^e`. -/
def readsBack (m : Nat) (e : Int) (c : Nat) (s : Int) : Bool :=
  let below := if m = twoTo 52 ∧ leastExponent < e then 1 else 2
  let point := c * tenTo s.toNat * twoTo (2 - e).toNat
  let bound := fun quarters : Nat => quarters * twoTo (e - 2).toNat * tenTo (-s).toNat
  let lower := bound (4 * m - below)
  let upper := bound (4 * m + 2)
  if m % 2 = 0 then lower ≤ point && point ≤ upper else lower < point && point < upper

/-- The power of ten just above `num / den`: the number lies in
`[10^(k-1), 10^k)`. No number is smaller than `10^(-400)`. -/
def leadingPlace (num den : Nat) : Int :=
  (decimalLength (num * tenTo 400 / den) : Int) - 400

/-- The neighbour of `m · 2^e` on the grid of multiples of `10^s` that reads
back; of two the nearer, and of two equally near ones the even one. -/
def onGrid? (m : Nat) (e : Int) (s : Int) : Option Decimal :=
  let num := m * twoTo e.toNat * tenTo (-s).toNat
  let den := twoTo (-e).toNat * tenTo s.toNat
  let a := num / den
  let nearest := roundHalfEven num den
  let other := if nearest = a then a + 1 else a
  if readsBack m e nearest s then some ⟨nearest, s⟩
  else if readsBack m e other s then some ⟨other, s⟩
  else none

/-- The decimal with the fewest digits that rounds to `m · 2^e`. -/
def shortest (m : Nat) (e : Int) : Decimal :=
  let k := leadingPlace (m * twoTo e.toNat) (twoTo (-e).toNat)
  match (List.range 17).findSome? fun n => onGrid? m e (k - ((n + 1 : Nat) : Int)) with
  | some d => d
  | none => ⟨m, 0⟩

/-! ## Text -/

/-- The digits without the zeros at their end, and the place of the point
counted from their start. -/
def Decimal.layout (d : Decimal) : List Char × Int :=
  let digits := Nat.toDigits 10 d.digits
  ((digits.reverse.dropWhile (· == '0')).reverse, digits.length + d.exponent)

/-- The exponent of the scientific form: a sign and two digits or more. -/
def exponentText (n : Int) : List Char :=
  let digits := Nat.toDigits 10 n.natAbs
  (if n < 0 then '-' else '+') :: (if digits.length < 2 then '0' :: digits else digits)

/-- The digits with the point at `place`: written out from `10^(-4)` up to below
`10^16`, and in scientific form otherwise. -/
def decimalText (digits : List Char) (place : Int) : List Char :=
  if -4 < place ∧ place ≤ 16 then
    if place ≤ 0 then '0' :: '.' :: List.replicate (-place).toNat '0' ++ digits
    else if digits.length ≤ place then
      digits ++ List.replicate (place.toNat - digits.length) '0' ++ ['.', '0']
    else digits.take place.toNat ++ '.' :: digits.drop place.toNat
  else
    let fraction := digits.drop 1
    digits.take 1 ++ (if fraction.isEmpty then [] else '.' :: fraction) ++
      'e' :: exponentText (place - 1)

/-- The number as it is shown: the fewest digits that read back. -/
def text : Binary64 → String
  | .nan => "nan"
  | .infinite negative => if negative then "-inf" else "inf"
  | .finite negative m e =>
    let body :=
      if m = 0 then ['0', '.', '0']
      else
        let (digits, place) := Decimal.layout (shortest m e)
        decimalText digits place
    .ofList (if negative then '-' :: body else body)

end Binary64

end ToolSites

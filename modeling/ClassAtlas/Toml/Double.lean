/-!
# Numbers with a point

A number that is written with a point or an exponent is the nearest binary floating point number of
double precision. Finite ones are counted in the least step between two of them, so rounding is
exact arithmetic. They are spelled with the fewest digits that are rounded back to them.
-/
namespace ClassAtlas.Toml

/-- A binary floating point number of double precision. -/
inductive Double where
  /-- What is no number. -/
  | nan
  /-- A number out of range. -/
  | infinite (negative : Bool)
  /-- So many least steps from zero. -/
  | finite (negative : Bool) (steps : Nat)
deriving DecidableEq, Inhabited, Repr

namespace Double

/-- The least steps between zero and one. -/
def stepsInOne : Nat := 1 <<< 1074

/-- The least number of steps that is out of range. -/
def outOfRange : Nat := 1 <<< 2098

/-- The integer that is nearest to a quotient, and of two such the even one. -/
def roundedQuotient (above below : Nat) : Nat :=
  let whole := above / below
  let rest := 2 * (above % below)
  if rest < below ∨ rest = below ∧ whole % 2 = 0 then whole else whole + 1

/-- The steps of the number that is nearest to a quotient: its first 53 binary digits count. -/
def nearestSteps (above below : Nat) : Nat :=
  let unit := 1 <<< ((above * stepsInOne / below).log2 - 52)
  roundedQuotient (above * stepsInOne) (below * unit) * unit

/-- The power of ten that has so many zeros. -/
def powerOfTen (zeros : Nat) : Nat := Nat.pow 10 zeros

/-- A decimal as a quotient: digits with so many zeros behind them, or so many places that stand
behind the point. -/
def quotient (digits : Nat) (zeros : Int) : Nat × Nat :=
  (digits * powerOfTen zeros.toNat, powerOfTen (-zeros).toNat)

/-- The digits of a natural number. -/
def digitsOf (number : Nat) : List Char := Nat.toDigits 10 number

/-- The number that is nearest to a decimal. One that is far out of range is not computed. -/
def ofDecimal (digits : Nat) (zeros : Int) : Double :=
  let size := (digitsOf digits).length + zeros
  if digits = 0 ∨ size < -400 then .finite false 0
  else if 400 < size then .infinite false
  else
    let (above, below) := quotient digits zeros
    let steps := nearestSteps above below
    if steps < outOfRange then .finite false steps else .infinite false

/-- A number taken from zero, which leaves zero as it is. -/
def opposite : Double → Double
  | .nan => .nan
  | .infinite negative => .infinite !negative
  | .finite negative steps => .finite (!negative && steps != 0) steps

/-- Whether a number is zero. -/
def isZero : Double → Bool
  | .finite _ steps => steps == 0
  | _ => false

/-! ## Spelling -/

/-- How many digits of a number that is not zero stand before its point; below one tenth, the zeros
behind its point count against it. -/
def pointAt (steps : Nat) : Int :=
  let whole := steps / stepsInOne
  if 0 < whole then (digitsOf whole).length
  else
    let places := (List.range 325).find? fun places => stepsInOne ≤ steps * powerOfTen places
    1 - (places.getD 0 : Nat)

/-- The nearest decimal with so many digits that is rounded to a number, if one is. -/
def decimalWith? (steps : Nat) (count : Nat) : Option (Nat × Int) :=
  let zeros := pointAt steps - count
  let above := steps * powerOfTen (-zeros).toNat
  let below := stepsInOne * powerOfTen zeros.toNat
  let down := above / below
  let candidates := if roundedQuotient above below = down then [down, down + 1]
    else [down + 1, down]
  let found := candidates.find? fun digits =>
    let (above, below) := quotient digits zeros
    nearestSteps above below == steps
  found.map (·, zeros)

/-- The decimal with the fewest digits that is rounded to a number. Seventeen are enough. -/
def shortest (steps : Nat) : Nat × Int :=
  ((List.range 17).findSome? fun shorter => decimalWith? steps (shorter + 1)).getD (0, 0)

/-- A decimal with digits, the point standing behind so many of them. -/
def plainSpelling (digits : List Char) (point : Int) : List Char :=
  if point ≤ 0 then '0' :: '.' :: (List.replicate (-point).toNat '0' ++ digits)
  else
    let whole := digits ++ List.replicate (point.toNat - digits.length) '0'
    let behind := digits.drop point.toNat
    whole.take point.toNat ++ '.' :: (if behind.isEmpty then ['0'] else behind)

/-- A decimal with digits and an exponent of at least two digits. -/
def scaledSpelling (digits : List Char) (point : Int) : List Char :=
  let exponent := point - 1
  let power := digitsOf exponent.natAbs
  let mantissa :=
    match digits with
    | first :: second :: rest => first :: '.' :: second :: rest
    | short => short
  mantissa ++ 'e' :: (if exponent < 0 then '-' else '+')
    :: (List.replicate (2 - power.length) '0' ++ power)

/-- The spelling of a positive number: with an exponent where it is very small or large. -/
def spellPositive (steps : Nat) : List Char :=
  let (number, zeros) := shortest steps
  let digits := digitsOf number
  let point := digits.length + zeros
  let digits := (digits.reverse.dropWhile (· == '0')).reverse
  if -4 < point ∧ point ≤ 16 then plainSpelling digits point else scaledSpelling digits point

/-- The spelling of a number. -/
def spelled (number : Double) : String :=
  match number with
  | .nan => "nan"
  | .infinite negative => signed negative "inf"
  | .finite negative steps =>
    signed negative (if steps = 0 then "0.0" else String.ofList (spellPositive steps))
where
  /-- A spelling behind its sign. -/
  signed (negative : Bool) (spelling : String) : String :=
    if negative then "-" ++ spelling else spelling

end Double

end ClassAtlas.Toml

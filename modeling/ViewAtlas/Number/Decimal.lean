import ViewAtlas.Number.Binary64
import ViewAtlas.Text.Basic
/-!
# Decimal texts of binary fractions

The text of a value has the fewest digits that read back as the value, and of those the nearest.  The values that read
back form an interval around the value; for one digit, two digits and so on, the two neighbours of the value on the
grid of such decimals are tested against it.
-/
namespace ViewAtlas
namespace Binary64

/-- **The interval of what reads back as a value**, with the value itself, all in units of a quarter of the last bit:
`low / den` to `high / den`, ends included when `closed`. -/
structure Surroundings where
  low : Nat
  value : Nat
  high : Nat
  den : Nat
  closed : Bool

def surroundings (mantissa : Nat) (exponent : Int) : Surroundings :=
  let below := if mantissa = Nat.pow 2 (precision - 1) ∧ leastExponent < exponent then 1 else 2
  let power := exponent - 2
  let scale := Nat.pow 2 power.toNat
  { low := (4 * mantissa - below) * scale
    value := 4 * mantissa * scale
    high := (4 * mantissa + 2) * scale
    den := Nat.pow 2 (-power).toNat
    closed := mantissa % 2 = 0 }

/-- Whether the decimal `n * 10 ^ power` lies in the interval. -/
def Surroundings.holds (s : Surroundings) (n : Nat) (power : Int) : Bool :=
  let x := n * Nat.pow 10 power.toNat * s.den
  let unit := Nat.pow 10 (-power).toNat
  if s.closed then s.low * unit ≤ x && x ≤ s.high * unit else s.low * unit < x && x < s.high * unit

/-- The decimal with this power that reads back and is nearest to the value; the even one of two equally near. -/
def Surroundings.nearest? (s : Surroundings) (power : Int) : Option Nat :=
  let num := s.value * Nat.pow 10 (-power).toNat
  let den := s.den * Nat.pow 10 power.toNat
  let below := num / den
  let twice := 2 * (num % den)
  let downFirst := twice < den || (twice == den && below % 2 == 0)
  let order := if downFirst then [below, below + 1] else [below + 1, below]
  order.find? fun n => 0 < n && s.holds n power

/-- The number `p` with `10 ^ (p - 1) ≤ value < 10 ^ p`, found from an estimate that is too small by at most `steps`.
-/
def Surroundings.magnitude (s : Surroundings) : (steps : Nat) → Int → Int
  | 0, p => p
  | n + 1, p =>
    if s.value * Nat.pow 10 (-p).toNat < s.den * Nat.pow 10 p.toNat then p else s.magnitude n (p + 1)

/-- The first grid with a hit, from `n` digits on. -/
def Surroundings.fewest (s : Surroundings) (magnitude : Int) : (grids n : Nat) → Nat × Int
  | 0, _ => (0, 0)
  | grids + 1, n =>
    match s.nearest? (magnitude - n) with
    | some d => (d, magnitude - n)
    | none => s.fewest magnitude grids (n + 1)

def mostDigits : Nat := 17

/-- The shortest decimal of a positive value: its digits without zeros at the end, and where its point stands. -/
def shortest (mantissa : Nat) (exponent : Int) : Text × Int :=
  let s := surroundings mantissa exponent
  let estimate : Int := ((Nat.log2 mantissa : Int) + exponent) * 30103 / 100000 - 1
  let (n, power) := s.fewest (s.magnitude 4 estimate) mostDigits 1
  let digits := Text.ofNat n
  ((digits.reverse.dropWhile (· = '0')).reverse, digits.length + power)

/-- Where positional notation ends: the point of such a text stands between these places. -/
def positionalPlaces : Int × Int := (-3, 16)

def positional (digits : Text) (point : Int) : Text :=
  if point ≤ 0 then "0.".toList ++ List.replicate (-point).toNat '0' ++ digits
  else
    let n := point.toNat
    let whole := digits.take n ++ List.replicate (n - digits.length) '0'
    let fraction := digits.drop n
    whole ++ '.' :: (if fraction = [] then ['0'] else fraction)

def scientific (digits : Text) (point : Int) : Text :=
  let fraction := digits.drop 1
  let e := point - 1
  let size := Text.ofNat e.natAbs
  digits.take 1 ++ (if fraction = [] then [] else '.' :: fraction) ++
    'e' :: (if e < 0 then '-' else '+') :: (List.replicate (2 - size.length) '0' ++ size)

def text : Binary64 → Text
  | .undefined => "nan".toList
  | .infinite negative => if negative then "-inf".toList else "inf".toList
  | .finite negative mantissa exponent =>
    let sign := if negative then ['-'] else []
    if mantissa = 0 then sign ++ "0.0".toList
    else
      let (digits, point) := shortest mantissa exponent
      sign ++
        if positionalPlaces.1 ≤ point ∧ point ≤ positionalPlaces.2 then positional digits point
        else scientific digits point

end Binary64
end ViewAtlas

import LintRunner.Text.Integer

/-!
# Shortest decimals

A binary floating-point number of 64 bits is written with the fewest digits that determine it: of all
decimals that are nearer to it than to its neighbours, one of the shortest, and of these the nearest.
The search compares exact numbers; it looks at one count of digits after the other and tests the two
decimals of that count around the number.
-/

set_option autoImplicit false

namespace LintRunner.Decimal

/-- What 64 bits stand for. A finite number is `mantissa * 2 ^ exponent` with a sign. -/
inductive Parts where
  | infinite (negative : Bool)
  | undefined
  | finite (negative : Bool) (mantissa : Nat) (exponent : Int)
  deriving DecidableEq, Repr

def leastExponent : Int := -1074

/-- The weight of the leading bit of a normal number, which is not stored. -/
def hiddenBit : Nat := Nat.pow 2 52

def Parts.ofBits (bits : UInt64) : Parts :=
  let n := bits.toNat
  let negative := n ≥ Nat.pow 2 63
  let field : Nat := n / hiddenBit % Nat.pow 2 11
  let fraction := n % hiddenBit
  if field = 2047 then (if fraction = 0 then .infinite negative else .undefined)
  else if field = 0 then .finite negative fraction leastExponent
  else .finite negative (hiddenBit + fraction) ((field : Int) - 1075)

def powNum (base : Nat) (e : Int) : Nat := Nat.pow base e.toNat

def powDen (base : Nat) (e : Int) : Nat := Nat.pow base (-e).toNat

/-- Whether `a * 2 ^ e ≤ b * 10 ^ f`. -/
def binaryLe (a : Nat) (e : Int) (b : Nat) (f : Int) : Bool :=
  a * powNum 2 e * powDen 10 f ≤ b * powNum 10 f * powDen 2 e

/-- Whether `b * 10 ^ f ≤ a * 2 ^ e`. -/
def decimalLe (b : Nat) (f : Int) (a : Nat) (e : Int) : Bool :=
  b * powNum 10 f * powDen 2 e ≤ a * powNum 2 e * powDen 10 f

/-- Whether the decimal `d * 10 ^ f` reads back as `mantissa * 2 ^ exponent`. The interval is counted
in quarters of the last place; below a power of two the neighbour is nearer. -/
def readsBack (mantissa : Nat) (exponent : Int) (d : Nat) (f : Int) : Bool :=
  let e := exponent - 2
  let below := if mantissa = hiddenBit && exponent != leastExponent then 1 else 2
  let lo := 4 * mantissa - below
  let hi := 4 * mantissa + 2
  binaryLe lo e d f && decimalLe d f hi e &&
    (mantissa % 2 = 0 || !(decimalLe d f lo e) && !(binaryLe hi e d f))

/-- The place of the first digit of `mantissa * 2 ^ exponent`, from the greatest place downwards. -/
def firstPlace (mantissa : Nat) (exponent : Int) : Int :=
  match (List.range 640).find? fun (i : Nat) => decimalLe 1 (310 - i) mantissa exponent with
  | some i => 310 - i
  | none => -330

/-- The shortest decimal of a positive number, as a whole number and a power of ten. The first
argument bounds the digits that are still to be tried, the second counts those in use. -/
def shortestFrom (mantissa : Nat) (exponent : Int) (place : Int) : Nat → Nat → Nat × Int
  | 0, count =>
      let f := place - count + 1
      (mantissa * powNum 2 exponent * powDen 10 f / (powNum 10 f * powDen 2 exponent), f)
  | fuel + 1, count =>
      let f := place - count + 1
      let num := mantissa * powNum 2 exponent * powDen 10 f
      let den := powNum 10 f * powDen 2 exponent
      let d := num / den
      let rest := num % den
      let low := readsBack mantissa exponent d f
      let high := readsBack mantissa exponent (d + 1) f
      if low && (!high || 2 * rest < den || (2 * rest = den && d % 2 = 0)) then (d, f)
      else if high then (d + 1, f)
      else shortestFrom mantissa exponent place fuel (count + 1)

def shortest (mantissa : Nat) (exponent : Int) : Nat × Int :=
  shortestFrom mantissa exponent (firstPlace mantissa exponent) 17 1

/-! ## Text -/

def dropZeros : Nat → Nat → Int → Nat × Int
  | 0, d, f => (d, f)
  | fuel + 1, d, f => if d % 10 = 0 && d != 0 then dropZeros fuel (d / 10) (f + 1) else (d, f)

/-- An exponent with a sign and two digits at least. -/
def exponentText (e : Int) : List Char :=
  let ds := Text.digits e.natAbs
  'e' :: (if e < 0 then '-' else '+') :: (if ds.length < 2 then '0' :: ds else ds)

/-- Writes `d * 10 ^ f`: positional if the first digit stands between the fourth place behind the
point and the sixteenth before it, with a power of ten otherwise. -/
def decimalText (d : Nat) (f : Int) : List Char :=
  let (d', f') := dropZeros 20 d f
  let ds := Text.digits d'
  let point : Int := ds.length + f'
  if 0 < point && point ≤ 16 then
    let whole := ds.take point.toNat ++ List.replicate (point.toNat - ds.length) '0'
    let fraction := ds.drop point.toNat
    whole ++ '.' :: (if fraction.isEmpty then ['0'] else fraction)
  else if -4 < point && point ≤ 0 then
    '0' :: '.' :: List.replicate (-point).toNat '0' ++ ds
  else
    match ds with
    | [] => []
    | first :: more =>
        first :: (if more.isEmpty then [] else '.' :: more) ++ exponentText (point - 1)

def floatText (bits : UInt64) : List Char :=
  match Parts.ofBits bits with
  | .undefined => "nan".toList
  | .infinite negative => (if negative then "-inf" else "inf").toList
  | .finite negative mantissa exponent =>
      let text :=
        if mantissa = 0 then "0.0".toList
        else
          let (d, f) := shortest mantissa exponent
          decimalText d f
      if negative then '-' :: text else text

/-- The bits of the floating-point number nearest to `mantissa * 10 ^ exponent`. -/
def bitsOfDecimal (negative : Bool) (mantissa : Nat) (exponent : Int) : UInt64 :=
  let magnitude := (Float.ofScientific mantissa (exponent < 0) exponent.natAbs).toBits
  if negative then magnitude ||| 0x8000000000000000 else magnitude

end LintRunner.Decimal

import VectorScene.Decimal.Shortest

/-!
# Decimal text of floats

A layout says how the shortest digits of a float are written: which magnitudes are written
positionally, whether a whole number keeps a fraction, and how an exponent is spelled.

## Main definitions

* `Layout`: the decisions of one kind of float text
* `Layout.plain`: positional, whole numbers without a fraction
* `Layout.document`: the numbers of JSON text
* `Layout.scientific`: always with an exponent
* `Layout.render`: the text of a float
* `fixed`: the text with a given number of places
-/

namespace VectorScene.Decimal

/-- The decisions of one kind of float text. The exponent of a number is the power of ten of its
first digit. -/
structure Layout where
  /-- Which exponents are written positionally. -/
  positional : Int → Bool
  /-- Whether a whole number in positional text ends in a zero place. -/
  wholePlace : Bool
  /-- Whether a positive exponent carries its sign. -/
  exponentSign : Bool

namespace Layout

/-- Positional at every magnitude; a whole number has no places. -/
def plain : Layout := ⟨fun _ => true, false, false⟩

/-- Numbers of JSON text: positional from `1e-5` up to `1e16`, always with a place or a signed
exponent. -/
def document : Layout := ⟨fun e => -5 ≤ e && e < 16, true, true⟩

/-- Always with an exponent, which is signed only below zero. -/
def scientific : Layout := ⟨fun _ => false, false, false⟩

/-- Positional text of digits whose first one has the power `leading` of ten. -/
def positionalChars (wholePlace : Bool) (digits : List Char) (leading : Int) : List Char :=
  if leading < 0 then
    '0' :: '.' :: List.replicate (-leading - 1).toNat '0' ++ digits
  else
    let whole := leading.toNat + 1
    let front := digits.take whole ++ List.replicate (whole - digits.length) '0'
    let back := digits.drop whole
    if back.isEmpty then
      if wholePlace then front ++ ['.', '0'] else front
    else front ++ '.' :: back

/-- Text with an exponent. -/
def exponentChars (sign : Bool) (digits : List Char) (leading : Int) : List Char :=
  let front := match digits with
    | first :: [] => [first]
    | first :: rest => first :: '.' :: rest
    | [] => ['0']
  let mark := if leading < 0 then ['e', '-'] else if sign then ['e', '+'] else ['e']
  front ++ mark ++ Nat.toDigits 10 leading.natAbs

/-- The text of a nonnegative magnitude. -/
def magnitudeChars (layout : Layout) (mantissa : Nat) (exponent : Int) : List Char :=
  let d := if mantissa = 0 then ⟨0, 0⟩ else shortest mantissa exponent
  if layout.positional d.leading then
    positionalChars layout.wholePlace d.chars d.leading
  else exponentChars layout.exponentSign d.chars d.leading

/-- The text of a float. Zero keeps its sign, and what is not finite has a name. -/
def render (layout : Layout) (x : Float) : String :=
  match Binary.ofFloat x with
  | .notANumber => "NaN"
  | .infinite negative => if negative then "-inf" else "inf"
  | .finite negative mantissa exponent =>
    let chars := layout.magnitudeChars mantissa exponent
    String.ofList (if negative then '-' :: chars else chars)

end Layout

/-- The nonnegative number `n / 10 ^ places` with exactly that many places. -/
def fixedChars (n places : Nat) : List Char :=
  let digits := Nat.toDigits 10 n
  let padded := List.replicate (places + 1 - digits.length) '0' ++ digits
  let whole := padded.take (padded.length - places)
  if places = 0 then whole else whole ++ '.' :: padded.drop (padded.length - places)

/-- The text of a float with exactly `places` places. The binary value is rounded exactly, a tie
goes to the even digit, and a number that rounds to zero keeps its sign. -/
def fixed (places : Nat) (x : Float) : String :=
  match Binary.ofFloat x with
  | .notANumber => "NaN"
  | .infinite negative => if negative then "-inf" else "inf"
  | .finite negative mantissa exponent =>
    let n := ((Fraction.ofBinary mantissa exponent).shift places).round
    let chars := fixedChars n places
    String.ofList (if negative then '-' :: chars else chars)

end VectorScene.Decimal

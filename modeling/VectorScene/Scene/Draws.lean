/-!
# Random draws

Default colors and random vectors take numbers from one stream. A draw gives the next number and
moves on, so equal streams give equal scenes.

## Main definitions

* `Draws`: a stream of numbers from zero to one and the place in it
* `Draws.next`: a draw
* `Draws.ofSeed`: a stream that is made from one number
-/

namespace VectorScene

/-- A stream of numbers, each at least zero and below one, and how many have been drawn. -/
structure Draws where
  stream : Nat → Float
  position : Nat

namespace Draws

/-- The next number, and the stream behind it. -/
def next (d : Draws) : Float × Draws := (d.stream d.position, { d with position := d.position + 1 })

/-- The bits of a number spread over all places, so that numbers close to each other get bits that
have nothing to do with each other. -/
def scramble (n : UInt64) : UInt64 :=
  let n := (n ^^^ (n >>> 30)) * 0xbf58476d1ce4e5b9
  let n := (n ^^^ (n >>> 27)) * 0x94d049bb133111eb
  n ^^^ (n >>> 31)

/-- A stream that is made from one number. Each of its numbers is a whole multiple of `2 ^ -53`. -/
def ofSeed (seed : UInt64) : Draws where
  stream n := (scramble (seed + UInt64.ofNat n * 0x9e3779b97f4a7c15) >>> 11).toFloat / 2.0 ^ 53
  position := 0

end Draws

end VectorScene

import OperationForge.Bytes
import OperationForge.Group.Residue

/-!
# The twisted Edwards curve of Ed25519

The points of `-x² + y² = 1 + d x² y²` over the field of `2 ^ 255 - 19` elements.  They are kept in
extended coordinates, so that one formula adds any two points and none of its steps divides.

A compressed point is the number `y` in 32 bytes, least significant first, with the parity of `x` in
the top bit.
-/

namespace OperationForge.Edwards25519

/-- The number of field elements. -/
def fieldSize : Nat := Nat.pow 2 255 - 19

/-- The number of points that the base point generates. -/
def groupOrder : Nat := Nat.pow 2 252 + 27742317777372353535851937790883648493

instance : Residue.IsModulus fieldSize := ⟨by decide⟩

/-- A field element. -/
abbrev Element := Fin fieldSize

/-- The curve constant `d = -121665 / 121666`. -/
def d : Element :=
  37095705934669439343138083508754565189542113879843219016388785533085940283555

/-- A square root of `-1`. -/
def rootOfMinusOne : Element :=
  19681161376707505956807079304988542015446066515923890162744021073123829784752

/-- The point `(x / z, y / z)`, with `t = x y / z`. -/
structure Point where
  x : Element
  y : Element
  z : Element
  t : Element

namespace Point

/-- The neutral element. -/
def zero : Point := ⟨0, 1, 1, 0⟩

/-- The point with the given coordinates. -/
def ofAffine (x y : Element) : Point := ⟨x, y, 1, x * y⟩

/-- The base point, the one with `y = 4 / 5` and even `x`. -/
def base : Point :=
  ofAffine 15112221349535400772501151409588531511454012693041857206046113283949847762202
    46316835694926478169428394003475163141307993866256225615783033603165251855960

/-- The sum of any two points. -/
protected def add (p q : Point) : Point :=
  let a := (p.y - p.x) * (q.y - q.x)
  let b := (p.y + p.x) * (q.y + q.x)
  let c := 2 * d * p.t * q.t
  let e := 2 * p.z * q.z
  ⟨(b - a) * (e - c), (e + c) * (b + a), (e - c) * (e + c), (b - a) * (b + a)⟩

/-- The point with the opposite `x`. -/
protected def neg (p : Point) : Point := ⟨-p.x, p.y, p.z, -p.t⟩

instance : Zero Point := ⟨zero⟩
instance : Add Point := ⟨Point.add⟩
instance : Neg Point := ⟨Point.neg⟩
instance : Sub Point := ⟨fun p q => p + -q⟩

/-- The sum of `count` copies of a point, by repeated doubling. -/
def times (p : Point) (count : Nat) : Point :=
  if count = 0 then
    0
  else
    let half := times p (count / 2)
    if count % 2 = 1 then half + half + p else half + half
termination_by count

/-- A point in 32 bytes. -/
def compress (p : Point) : FixedBytes 32 :=
  let scale := Residue.inverse p.z
  let x := p.x * scale
  let y := p.y * scale
  LittleEndian.fixed 32 (y.val + if Residue.isOdd x then Nat.pow 2 255 else 0)

/-- A square root of `u / v` whose least number is even, if there is one. -/
def rootOfRatio? (u v : Element) : Option Element :=
  let cube := v * v * v
  let root := u * cube * Residue.power (u * cube * cube * v) ((fieldSize - 5) / 8)
  let square := v * root * root
  let found :=
    if square = u then some root
    else if square = -u then some (root * rootOfMinusOne)
    else none
  found.map fun root => if Residue.isOdd root then -root else root

/-- The point of 32 bytes, if `y` is the height of a point.  A `y` of `fieldSize` or more stands for
its residue, and the sign of `x = 0` is ignored. -/
def decompress? (bytes : FixedBytes 32) : Option Point :=
  let number := LittleEndian.decode bytes.toList
  let y : Element := Fin.ofNat fieldSize (number % Nat.pow 2 255)
  (rootOfRatio? (y * y - 1) (d * y * y + 1)).map fun x =>
    ofAffine (if number / Nat.pow 2 255 % 2 = 1 then -x else x) y

end Point

end OperationForge.Edwards25519

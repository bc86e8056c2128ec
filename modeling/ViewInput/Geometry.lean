import ViewInput.Binary32

/-!
# Points, sizes and rectangles

All coordinates are logical pixels.  What the device reports and what the page receives carry both
a position in the view and a position on the screen, each of them a `Point`.
-/

namespace ViewInput

/-! ## Points -/

structure Point where
  x : Float32
  y : Float32
deriving DecidableEq

namespace Point

def zero : Point := ⟨0, 0⟩

instance : Inhabited Point := ⟨zero⟩

/-- The vector that leads from `q` to `p`. -/
def deltaFrom (p q : Point) : Point := ⟨p.x - q.x, p.y - q.y⟩

/-- The distance from `q` to `p` along the axes. -/
def manhattanDistance (p q : Point) : Float32 := (p.x - q.x).abs + (p.y - q.y).abs

/-- Both coordinates go to the nearest whole number. -/
def rounded (p : Point) : Point := ⟨Binary32.nearest p.x, Binary32.nearest p.y⟩

/-- A point given in double precision. -/
def ofDouble (x y : Float) : Point := ⟨x.toFloat32, y.toFloat32⟩

end Point

/-! ## Sizes -/

structure Size where
  width : Float32
  height : Float32
deriving DecidableEq

namespace Size

def zero : Size := ⟨0, 0⟩

instance : Inhabited Size := ⟨zero⟩

/-- A size is empty when one of its sides is not positive. -/
def isEmpty (s : Size) : Bool := s.width ≤ 0 || s.height ≤ 0

/-- The least size that covers both. -/
def max (s t : Size) : Size :=
  ⟨Binary32.larger s.width t.width, Binary32.larger s.height t.height⟩

/-- Both sides go to the nearest whole number. -/
def rounded (s : Size) : Size := ⟨Binary32.nearest s.width, Binary32.nearest s.height⟩

end Size

/-! ## Rectangles -/

/-- A rectangle, given by its top left corner and its size. -/
structure Rect where
  origin : Point
  size : Size
deriving DecidableEq

namespace Rect

def zero : Rect := ⟨.zero, .zero⟩

instance : Inhabited Rect := ⟨zero⟩

/-- The rectangle between its least and its greatest corner. -/
def ofCorners (least greatest : Point) : Rect :=
  ⟨least, ⟨greatest.x - least.x, greatest.y - least.y⟩⟩

def left (r : Rect) : Float32 := r.origin.x

def top (r : Rect) : Float32 := r.origin.y

def right (r : Rect) : Float32 := r.origin.x + r.size.width

def bottom (r : Rect) : Float32 := r.origin.y + r.size.height

def center (r : Rect) : Point :=
  ⟨r.origin.x + r.size.width / 2, r.origin.y + r.size.height / 2⟩

def offset (r : Rect) (dx dy : Float32) : Rect :=
  ⟨⟨r.origin.x + dx, r.origin.y + dy⟩, r.size⟩

/-- The rectangle with each edge moved inwards.  A side that would become negative is zero. -/
def inset (r : Rect) (left top right bottom : Float32) : Rect :=
  ⟨⟨r.origin.x + left, r.origin.y + top⟩,
   ⟨Binary32.nonNegative (r.size.width - left - right),
    Binary32.nonNegative (r.size.height - top - bottom)⟩⟩

/-- The smallest rectangle with whole edges that contains this one. -/
def enclosing (r : Rect) : Rect :=
  ofCorners ⟨Binary32.floor r.left, Binary32.floor r.top⟩
    ⟨Binary32.ceil r.right, Binary32.ceil r.bottom⟩

end Rect

end ViewInput

import ViewInput.Geometry

/-!
# Selection handles

A handle hangs below one end of the selection.  The host draws it, if it can; **without a host
drawable a handle keeps its first state**, whatever it is told.
-/

namespace ViewInput

/-- Which image of a handle is shown. -/
inductive HandleOrientation where
  | left
  | center
  | right
  | undefined
deriving DecidableEq

/-- The sizes of the images. -/
structure HandleImages where
  left : Size
  center : Size
  right : Size
deriving DecidableEq

/-- The size of an image. -/
def HandleImages.size (images : HandleImages) : HandleOrientation → Size
  | .left => images.left
  | .center => images.center
  | .right => images.right
  | .undefined => .zero

/-- What the drawable of the host is told. -/
inductive HandleAction where
  | setBounds (bounds : Rect)
  | setVisible (visible : Bool)
  | setOpacity (alpha : Float32)
  | setImage (orientation : HandleOrientation)
deriving DecidableEq

/-- A handle. -/
structure SelectionHandle where
  /-- Whether the host has a drawable for the handle. -/
  hasHost : Bool
  images : HandleImages
  enabled : Bool := false
  alpha : Float32 := 0
  orientation : HandleOrientation := .undefined
  origin : Point := .zero
  /-- The image, as seen from the origin. -/
  relativeBounds : Rect := .zero
deriving DecidableEq

namespace SelectionHandle

/-- How far below the selection an image hangs. -/
def verticalOffset : Float32 := 2

/-- The blank margin of an image. -/
def padding : Float32 := 0

/-- An opacity below this is none. -/
def negligibleAlpha : Float32 := 1e-8

/-- Whether the handle is to be seen. -/
def isVisible (h : SelectionHandle) : Bool :=
  h.enabled && decide (negligibleAlpha ≤ h.alpha.abs)

/-- The image on the screen. -/
def bounds (h : SelectionHandle) : Rect := h.relativeBounds.offset h.origin.x h.origin.y

/-- The part of the image that is to be seen, without its margins. -/
def visibleBounds (h : SelectionHandle) : Rect :=
  h.bounds.inset padding (padding + verticalOffset) padding padding

/-- The share of an image that is blank on its sides. -/
def horizontalPaddingRatio : Float32 := 0

/-- The host is told the bounds, in whole pixels. -/
def boundsAction (h : SelectionHandle) : HandleAction := .setBounds h.bounds.enclosing

/-- The handle is switched on or off. -/
def setEnabled (h : SelectionHandle) (enabled : Bool) : SelectionHandle × List HandleAction :=
  if h.hasHost = false ∨ enabled = h.enabled then (h, [])
  else ({ h with enabled := enabled }, [.setVisible enabled])

/-- The image changes. -/
def setOrientation (h : SelectionHandle) (orientation : HandleOrientation) :
    SelectionHandle × List HandleAction :=
  if h.hasHost = false ∨ orientation = h.orientation then (h, [])
  else
    let image := h.images.size orientation
    let h :=
      { h with
        orientation := orientation
        relativeBounds :=
          ⟨⟨-padding, verticalOffset - padding⟩,
           ⟨image.width + 2 * padding, image.height + 2 * padding⟩⟩ }
    (h, [.setImage orientation, h.boundsAction])

/-- The handle moves. -/
def setOrigin (h : SelectionHandle) (origin : Point) : SelectionHandle × List HandleAction :=
  if h.hasHost = false then (h, [])
  else
    let h := { h with origin := origin }
    (h, [h.boundsAction])

/-- The opacity changes. -/
def setAlpha (h : SelectionHandle) (alpha : Float32) : SelectionHandle × List HandleAction :=
  if h.hasHost = false ∨ alpha == h.alpha then (h, [])
  else
    let h := { h with alpha := alpha }
    (h, [.setOpacity alpha, .setVisible h.isVisible])

end SelectionHandle

end ViewInput

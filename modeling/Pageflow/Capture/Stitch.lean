import Pageflow.Fault
/-!
Stitching: which rows of each tile of a long capture enter the composed image, and the crops
stacked. Heights are given in CSS pixels and scaled to image pixels by the device pixel ratio,
rounding half up.
-/
namespace Pageflow.Capture

/-- The rows `[top, top + height)` of tile `tile`. -/
structure Crop where
  tile : Nat
  top : Int
  height : Int
deriving DecidableEq

/-- The heights that a plan works with, in image pixels. -/
structure Heights where
  total : Int
  viewport : Int
  overlap : Int
deriving DecidableEq

/-- How far one tile advances beyond the one before it. -/
def Heights.advance (h : Heights) : Int := max 1 (h.viewport - h.overlap)

/-- The top and the height that are wanted of a tile: of the last one the rows that are still
missing, of the first one the first `advance` rows, and of the others the `advance` rows after
the overlap. -/
def Heights.wanted (h : Heights) (index : Nat) (isLast : Bool) (composed : Int) : Int × Int :=
  if isLast then (h.viewport - (h.total - composed), h.total - composed)
  else if index = 0 then (0, h.advance)
  else (h.overlap, h.advance)

/-- The rows of a tile that is `tileHeight` high; none if nothing is left of what is wanted. -/
def fit (index : Nat) (tileHeight : Int) (wanted : Int × Int) : Option Crop :=
  let top := max 0 wanted.1
  let height := if top + wanted.2 > tileHeight then tileHeight - top else wanted.2
  if height ≤ 0 then none else some ⟨index, top, height⟩

/-- The crops of the tiles from `index` on, after `composed` rows. -/
def planFrom (h : Heights) (index : Nat) (composed : Int) : List Int → List Crop
  | [] => []
  | tileHeight :: rest =>
    match fit index tileHeight (h.wanted index rest.isEmpty composed) with
    | none => planFrom h (index + 1) composed rest
    | some crop => crop :: planFrom h (index + 1) (composed + crop.height) rest

/-- The crops of all tiles, in order; their heights sum to the height of the composed image. -/
def plan (h : Heights) (tiles : List Int) : List Crop := planFrom h 0 0 tiles

/-- The sizes of a scrolled element in CSS pixels and the scale from these to image pixels. -/
structure Scale where
  content : Double
  viewport : Double
  overlap : Double
  ratio : Double

/-- A size in image pixels. -/
def toPixels (size ratio : Double) : Result Int :=
  let scaled := size * ratio
  match scaled.roundHalfUp? with
  | some n => .ok n
  | none =>
    if scaled = .nan then .error (.foreign "ValueError" "cannot convert float NaN to integer")
    else .error (.foreign "OverflowError" "cannot convert float infinity to integer")

/-- The heights in image pixels; a ratio of zero counts as one. -/
def Scale.heights (s : Scale) : Result Heights := do
  let ratio := if s.ratio.isZero then Double.ofInt 1 else s.ratio
  let total ← toPixels s.content ratio
  let viewport ← toPixels s.viewport ratio
  let overlap ← toPixels s.overlap ratio
  pure ⟨total, viewport, overlap⟩

/-! ## Images

Rows of pixels, and the bytes that blob stores and captures pass around: an image or some other
text. -/

/-- A colour with its opacity. -/
structure Pixel where
  red : Nat
  green : Nat
  blue : Nat
  alpha : Nat
deriving DecidableEq

def Pixel.white : Pixel := ⟨255, 255, 255, 255⟩

/-- An image: rows from top to bottom, all `width` pixels wide. Images without an opacity channel
are opaque. -/
structure Image where
  width : Nat
  rows : List (List Pixel)
deriving DecidableEq

def Image.height (i : Image) : Nat := i.rows.length

/-- What a capture yields. -/
inductive Picture where
  | image (i : Image)
  /-- Bytes that are no image. -/
  | raw (text : String)
deriving DecidableEq

/-- The image that some bytes hold. -/
def Picture.decode : Picture → Result Image
  | .image i => .ok i
  | .raw _ => .error .unreadableImage

/-! ## Stacking

The crops of all tiles make one image of the width of the first tile. Where a tile is narrower the
image is white. -/

/-- A row cut or filled up with white to `width` pixels. -/
def fitRow (width : Nat) (row : List Pixel) : List Pixel :=
  row.take width ++ List.replicate (width - row.length) Pixel.white

/-- The rows that a crop takes from its tile. -/
def cropRows (width : Nat) (tiles : List Image) (crop : Crop) : List (List Pixel) :=
  match tiles[crop.tile]? with
  | some tile => ((tile.rows.drop crop.top.toNat).take crop.height.toNat).map (fitRow width)
  | none => []

/-- The tiles stacked as the plan for their heights says. -/
def stitchImages (tiles : List Image) (s : Scale) : Result Image := do
  let heights ← s.heights
  let crops := plan heights (tiles.map fun t => (t.height : Int))
  if crops.isEmpty then
    throw (.compositing ("None of the " ++ toString tiles.length ++ " tiles contributed any rows"))
  let width := (tiles.head?.map Image.width).getD 0
  pure ⟨width, crops.flatMap (cropRows width tiles)⟩

/-- The captured tiles, all of which have to be images, stacked into one. -/
def stitch (tiles : List Picture) (s : Scale) : Result Image :=
  if tiles.isEmpty then .error (.compositing "No tiles were captured")
  else do stitchImages (← tiles.mapM Picture.decode) s

end Pageflow.Capture

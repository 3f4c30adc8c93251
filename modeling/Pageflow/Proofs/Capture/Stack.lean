import Pageflow.Proofs.Capture.Crops

/-! Stitching stacks the crops of the tiles, whatever their heights, widths and modes: the image is
as wide as the first tile, each crop begins where the crops before it end, and its pixels are those
of its tile, with white to the right of a narrower one. -/
namespace Pageflow.Capture

/-! ## Images -/

theorem mapM_decode (images : List Image) :
    (images.map Picture.image).mapM Picture.decode = .ok images := by
  induction images with
  | nil => rfl
  | cons image rest ih =>
    rw [List.map_cons, List.mapM_cons, ih]
    rfl

/-- Stitching reads images only, so it is stitching these. -/
theorem stitch_images (images : List Image) (s : Scale) (h : images ≠ []) :
    stitch (images.map .image) s = stitchImages images s := by
  have hnonempty : (images.map Picture.image).isEmpty = false := by
    rw [List.isEmpty_eq_false_iff]
    exact fun hnil => h (List.map_eq_nil_iff.mp hnil)
  unfold stitch
  rw [hnonempty, mapM_decode]
  rfl

theorem stitchImages_eq {tiles : List Image} {s : Scale} {h : Heights}
    (hheights : s.heights = .ok h)
    (hsome : plan h (tiles.map fun tile => (tile.height : Int)) ≠ []) {width : Nat}
    (hwidth : (tiles.head?.map Image.width).getD 0 = width) :
    stitchImages tiles s = .ok ⟨width,
      (plan h (tiles.map fun tile => (tile.height : Int))).flatMap (cropRows width tiles)⟩ := by
  unfold stitchImages
  rw [hheights]
  change (if (plan h (tiles.map fun tile => (tile.height : Int))).isEmpty then _ else _) = _
  simp only [List.isEmpty_iff, hsome, ↓reduceIte]
  rw [hwidth]
  rfl

theorem stitchImages_eq_error {tiles : List Image} {s : Scale} {h : Heights}
    (hheights : s.heights = .ok h)
    (hnone : plan h (tiles.map fun tile => (tile.height : Int)) = []) :
    stitchImages tiles s = .error (.compositing
      ("None of the " ++ toString tiles.length ++ " tiles contributed any rows")) := by
  unfold stitchImages
  rw [hheights]
  change (if (plan h (tiles.map fun tile => (tile.height : Int))).isEmpty then _ else _) = _
  rw [hnone]
  rfl

/-! ## Rows -/

theorem length_fitRow (width : Nat) (row : List Pixel) : (fitRow width row).length = width := by
  simp [fitRow]
  omega

theorem fitRow_of_length {width : Nat} {row : List Pixel} (h : row.length = width) :
    fitRow width row = row := by
  simp [fitRow, ← h]

theorem fitRow_getElem?_of_lt {width x : Nat} {row : List Pixel} (hx : x < width)
    (hrow : x < row.length) : (fitRow width row)[x]? = row[x]? := by
  rw [fitRow, List.getElem?_append_left (by simp; omega), List.getElem?_take_of_lt hx]

theorem fitRow_getElem?_of_le {width x : Nat} {row : List Pixel} (hx : x < width)
    (hrow : row.length ≤ x) : (fitRow width row)[x]? = some Pixel.white := by
  rw [fitRow, List.getElem?_append_right (by simp; omega), List.getElem?_replicate]
  simp
  omega

/-- The rows that a crop takes from the tile it names. -/
theorem cropRows_eq {width : Nat} {tiles : List Image} {crop : Crop} {tile : Image}
    (htile : tiles[crop.tile]? = some tile) :
    cropRows width tiles crop =
      ((tile.rows.drop crop.top.toNat).take crop.height.toNat).map (fitRow width) := by
  simp only [cropRows, htile]

/-- Of a tile that has the rows, as many are cropped as the crop is high. -/
theorem length_cropRows {width : Nat} {tiles : List Image} {index top height : Nat} {tile : Image}
    (htile : tiles[index]? = some tile) (hfits : top + height ≤ tile.height) :
    (cropRows width tiles ⟨index, top, height⟩).length = height := by
  unfold Image.height at hfits
  rw [cropRows_eq htile]
  simp
  omega

theorem Crop.Within.exists_tile {tiles : List Image} {crop : Crop}
    (h : crop.Within (tiles.map fun tile => (tile.height : Int))) :
    ∃ tile, tiles[crop.tile]? = some tile ∧
      crop.top.toNat + crop.height.toNat ≤ tile.rows.length := by
  obtain ⟨tileHeight, hheight, hfits⟩ := h.fits
  rw [List.getElem?_map, Option.map_eq_some_iff] at hheight
  obtain ⟨tile, htile, rfl⟩ := hheight
  have htop := h.top_nonneg
  have hpos := h.height_pos
  unfold Image.height at hfits
  exact ⟨tile, htile, by omega⟩

theorem Crop.Within.length_cropRows {tiles : List Image} {crop : Crop}
    (h : crop.Within (tiles.map fun tile => (tile.height : Int))) (width : Nat) :
    (cropRows width tiles crop).length = crop.height.toNat := by
  obtain ⟨tile, htile, hfits⟩ := h.exists_tile
  rw [cropRows_eq htile]
  simp
  omega

theorem length_flatMap_cropRows {tiles : List Image} {crops : List Crop}
    (h : ∀ crop ∈ crops, crop.Within (tiles.map fun tile => (tile.height : Int))) (width : Nat) :
    ((crops.flatMap (cropRows width tiles)).length : Int) = (crops.map Crop.height).sum := by
  induction crops with
  | nil => rfl
  | cons crop rest ih =>
    have hfirst := h crop List.mem_cons_self
    have hpos := hfirst.height_pos
    rw [List.flatMap_cons, List.length_append, hfirst.length_cropRows, Nat.cast_add,
      ih fun other hother => h other (List.mem_cons_of_mem _ hother), List.map_cons, List.sum_cons]
    omega

/-- The rows of a crop come after those of the crops before it. -/
theorem flatMap_cropRows_getElem? {width r : Nat} {tiles : List Image} {tile : Image}
    {before after : List Crop} {crop : Crop}
    (hbefore : ∀ crop ∈ before, crop.Within (tiles.map fun tile => (tile.height : Int)))
    (htile : tiles[crop.tile]? = some tile)
    (hfits : crop.top.toNat + crop.height.toNat ≤ tile.rows.length)
    (hr : r < crop.height.toNat) :
    ((before ++ crop :: after).flatMap (cropRows width tiles))[
        (before.map Crop.height).sum.toNat + r]? =
      (tile.rows[crop.top.toNat + r]?).map (fitRow width) := by
  have hoffset : (before.map Crop.height).sum.toNat =
      (before.flatMap (cropRows width tiles)).length := by
    rw [← length_flatMap_cropRows hbefore width, Int.toNat_natCast]
  rw [List.flatMap_append, List.flatMap_cons, hoffset,
    List.getElem?_append_right (Nat.le_add_right _ _), Nat.add_sub_cancel_left, cropRows_eq htile,
    List.getElem?_append_left (by simp; omega), List.getElem?_map, List.getElem?_take_of_lt hr,
    List.getElem?_drop]

/-! ## Pixels -/

/-- The pixel in a column and a row, counted from the left and from the top. -/
def Image.pixel? (i : Image) (x y : Nat) : Option Pixel := (i.rows[y]?).bind (·[x]?)

/-- A tile of some mode: the colours of its pixels, and what each of them is with an opacity. -/
structure Tile where
  Colour : Type
  width : Nat
  rows : List (List Colour)
  row_length : ∀ row ∈ rows, row.length = width
  toPixel : Colour → Pixel

namespace Tile

def image (t : Tile) : Image := ⟨t.width, t.rows.map (·.map t.toPixel)⟩

def height (t : Tile) : Nat := t.rows.length

def colour? (t : Tile) (x y : Nat) : Option t.Colour := (t.rows[y]?).bind (·[x]?)

theorem height_image (t : Tile) : t.image.height = t.height := by
  simp [image, Image.height, height]

theorem exists_colour {t : Tile} {x y : Nat} (hx : x < t.width) (hy : y < t.height) :
    ∃ colour, t.colour? x y = some colour := by
  have hrow := t.row_length _ (List.getElem_mem hy)
  refine ⟨t.rows[y][x], ?_⟩
  simp [colour?, List.getElem?_eq_getElem hy]

theorem pixel?_image (t : Tile) (x y : Nat) :
    t.image.pixel? x y = (t.colour? x y).map t.toPixel := by
  simp only [image, Image.pixel?, colour?, List.getElem?_map, Option.bind_map, Option.map_bind,
    Function.comp_def]

theorem length_row {t : Tile} {y : Nat} {row : List Pixel} (h : t.image.rows[y]? = some row) :
    row.length = t.width := by
  rw [image, List.getElem?_map, Option.map_eq_some_iff] at h
  obtain ⟨colours, hcolours, rfl⟩ := h
  rw [List.length_map, t.row_length _ (List.mem_of_getElem? hcolours)]

end Tile

/-- The crops that are planned for tiles. -/
def planned (h : Heights) (tiles : List Tile) : List Crop :=
  plan h (tiles.map fun tile => (tile.height : Int))

/-- An image of a width is the stack of some crops: it is as high as they are together, and where
the crops before it end, each has its rows of its tile: the pixels of the tile as far as that
reaches, and white from there on. -/
structure Stacked (tiles : List Tile) (crops : List Crop) (width : Nat) (image : Image) : Prop where
  width_eq : image.width = width
  row_length : ∀ row ∈ image.rows, row.length = width
  height_eq : (image.height : Int) = (crops.map Crop.height).sum
  pixels : ∀ before crop after, crops = before ++ crop :: after →
    0 ≤ crop.top ∧ 0 < crop.height ∧ ∃ tile, tiles[crop.tile]? = some tile ∧
      ∀ x < width, ∀ r < crop.height.toNat,
        (x < tile.width → ∃ colour, tile.colour? x (crop.top.toNat + r) = some colour ∧
          image.pixel? x ((before.map Crop.height).sum.toNat + r) = some (tile.toPixel colour)) ∧
        (tile.width ≤ x →
          image.pixel? x ((before.map Crop.height).sum.toNat + r) = some Pixel.white)

theorem plan_images (h : Heights) (tiles : List Tile) :
    plan h ((tiles.map Tile.image).map fun tile => (tile.height : Int)) = planned h tiles := by
  rw [List.map_map]
  simp only [Function.comp_def, Tile.height_image]
  rfl

theorem planned_within (h : Heights) (tiles : List Tile) : ∀ crop ∈ planned h tiles,
    crop.Within ((tiles.map Tile.image).map fun tile => (tile.height : Int)) := by
  rw [← plan_images]
  exact plan_within h _

theorem stacked_flatMap_cropRows (h : Heights) (tiles : List Tile) (width : Nat) :
    Stacked tiles (planned h tiles) width
      ⟨width, (planned h tiles).flatMap (cropRows width (tiles.map Tile.image))⟩ := by
  have hwithin := planned_within h tiles
  constructor
  case width_eq => rfl
  case row_length =>
    intro row hrow
    obtain ⟨crop, hcrop, hrow⟩ := List.mem_flatMap.mp hrow
    obtain ⟨tile, htile, -⟩ := (hwithin crop hcrop).exists_tile
    rw [cropRows_eq htile] at hrow
    obtain ⟨whole, -, rfl⟩ := List.mem_map.mp hrow
    exact length_fitRow width whole
  case height_eq => exact length_flatMap_cropRows hwithin width
  case pixels =>
    intro before crop after hsplit
    have hcrop : crop ∈ planned h tiles := by simp [hsplit]
    have hbefore : ∀ other ∈ before, other ∈ planned h tiles := by
      intro other hother
      simp [hsplit, hother]
    obtain ⟨image, htile, hfits⟩ := (hwithin crop hcrop).exists_tile
    refine ⟨(hwithin crop hcrop).top_nonneg, (hwithin crop hcrop).height_pos, ?_⟩
    rw [List.getElem?_map, Option.map_eq_some_iff] at htile
    obtain ⟨tile, htile, rfl⟩ := htile
    refine ⟨tile, htile, fun x hx r hr => ?_⟩
    have himage : (tiles.map Tile.image)[crop.tile]? = some tile.image := by
      rw [List.getElem?_map, htile, Option.map_some]
    obtain ⟨row, hrow⟩ : ∃ row, tile.image.rows[crop.top.toNat + r]? = some row :=
      ⟨_, List.getElem?_eq_getElem (by omega)⟩
    have hstack : Image.pixel? ⟨width, (planned h tiles).flatMap
          (cropRows width (tiles.map Tile.image))⟩ x ((before.map Crop.height).sum.toNat + r) =
        (fitRow width row)[x]? := by
      rw [Image.pixel?, hsplit, flatMap_cropRows_getElem?
        (fun other hother => hwithin other (hbefore other hother)) himage hfits hr, hrow]
      rfl
    have hlength := Tile.length_row hrow
    rw [hstack]
    constructor
    · intro hwide
      have hheight : crop.top.toNat + r < tile.height := by
        rw [← tile.height_image, Image.height]
        omega
      obtain ⟨colour, hcolour⟩ := Tile.exists_colour hwide hheight
      refine ⟨colour, hcolour, ?_⟩
      have hpixel := tile.pixel?_image x (crop.top.toNat + r)
      rw [Image.pixel?, hrow, hcolour] at hpixel
      rw [fitRow_getElem?_of_lt hx (by omega)]
      exact hpixel
    · intro hnarrow
      exact fitRow_getElem?_of_le hx (by omega)

theorem stitch_tileImages {tiles : List Tile} (s : Scale) (htiles : tiles ≠ []) :
    stitch (tiles.map fun tile => .image tile.image) s = stitchImages (tiles.map Tile.image) s := by
  rw [← stitch_images _ s (by simpa using htiles), List.map_map]
  rfl

/-- Stitching tiles of any widths, heights and modes yields the stack of the planned crops, as wide
as the first tile; it fails if there are no tiles or none of them has any of the wanted rows. -/
theorem stitch_stacks (s : Scale) (tiles : List Tile) :
    (tiles = [] → stitch (tiles.map fun tile => .image tile.image) s =
      .error (.compositing "No tiles were captured")) ∧
    ∀ h, s.heights = .ok h →
      (tiles ≠ [] → planned h tiles = [] → stitch (tiles.map fun tile => .image tile.image) s =
        .error (.compositing
          ("None of the " ++ toString tiles.length ++ " tiles contributed any rows"))) ∧
      ∀ first, tiles.head? = some first → planned h tiles ≠ [] →
        ∃ image, stitch (tiles.map fun tile => .image tile.image) s = .ok image ∧
          Stacked tiles (planned h tiles) first.width image := by
  refine ⟨?_, fun h hheights => ⟨fun htiles hnone => ?_, fun first hfirst hsome => ?_⟩⟩
  · rintro rfl
    rfl
  · rw [← plan_images] at hnone
    rw [stitch_tileImages s htiles, stitchImages_eq_error hheights hnone, List.length_map]
  · have htiles : tiles ≠ [] := by
      rintro rfl
      cases hfirst
    have hwidth : ((tiles.map Tile.image).head?.map Image.width).getD 0 = first.width := by
      rw [List.head?_map, hfirst]
      rfl
    refine ⟨_, ?_, stacked_flatMap_cropRows h tiles first.width⟩
    rw [← plan_images] at hsome ⊢
    exact (stitch_tileImages s htiles).trans (stitchImages_eq hheights hsome hwidth)

/-- Grey levels, without opacity. -/
def greyTile : Tile where
  Colour := Nat
  width := 2
  rows := List.replicate 5 [0, 128]
  row_length := by decide
  toPixel level := ⟨level, level, level, 255⟩

/-- A column of a half transparent green. -/
def clearTile : Tile where
  Colour := Pixel
  width := 1
  rows := List.replicate 5 [⟨0, 255, 0, 128⟩]
  row_length := by decide
  toPixel := id

theorem stitch_stacks_greyOnClear :
    Scale.heights ⟨Double.ofInt 8, Double.ofInt 5, Double.ofInt 1, Double.ofInt 1⟩ =
        .ok ⟨8, 5, 1⟩ ∧
      ∃ image, stitch [.image greyTile.image, .image clearTile.image]
          ⟨Double.ofInt 8, Double.ofInt 5, Double.ofInt 1, Double.ofInt 1⟩ = .ok image ∧
        Stacked [greyTile, clearTile] [⟨0, 0, 4⟩, ⟨1, 1, 4⟩] 2 image := by
  have hheights : Scale.heights
      ⟨Double.ofInt 8, Double.ofInt 5, Double.ofInt 1, Double.ofInt 1⟩ = .ok ⟨8, 5, 1⟩ := by
    decide +kernel
  have hplanned : planned ⟨8, 5, 1⟩ [greyTile, clearTile] = [⟨0, 0, 4⟩, ⟨1, 1, 4⟩] := by decide
  have hstacks := ((stitch_stacks _ [greyTile, clearTile]).2 _ hheights).2 greyTile rfl
    (by rw [hplanned]; exact List.cons_ne_nil _ _)
  rw [hplanned] at hstacks
  exact ⟨hheights, hstacks⟩

end Pageflow.Capture

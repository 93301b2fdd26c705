/-! # Raster images

A raster is a rectangle of pixels, row by row from the top, each with three colour
samples and an opacity.
-/

namespace SlideDeck

/-- The samples of a pixel. -/
structure Pixel where
  red : UInt8
  green : UInt8
  blue : UInt8
  alpha : UInt8
deriving DecidableEq, Repr

/-- A rectangle of pixels. -/
structure Raster where
  width : Nat
  height : Nat
  pixels : List Pixel
deriving DecidableEq, Repr

namespace Raster

/-- The colour samples of all pixels. -/
def colorSamples (r : Raster) : List UInt8 :=
  r.pixels.flatMap fun p => [p.red, p.green, p.blue]

/-- The opacities of all pixels. -/
def alphaSamples (r : Raster) : List UInt8 := r.pixels.map Pixel.alpha

/-- No pixel lets anything shine through. -/
def isOpaque (r : Raster) : Bool := r.pixels.all fun p => p.alpha == 255

/-- The width as a multiple of the height. -/
def aspect (r : Raster) : Float :=
  if r.height = 0 then 0 else Float.ofNat r.width / Float.ofNat r.height

end Raster

end SlideDeck

import DurableTrivia.Lib.Painting

/-!
# Canvas — the framebuffer of the badge's panel

`Canvas` of `badge-screen/src/lib.rs`: 128x64 pixels, one bit each, eight
rows to a byte. Pixels share bytes, so that setting one lights no other
is a fact about bits; the drawing routines above it are sets of pixels.
-/

namespace DurableTrivia.BadgeScreen

open DurableTrivia.Lib.Painting

/-- Pixels in a row of the panel. -/
def width : Nat := 128

/-- Pixels in a column of the panel. -/
def height : Nat := 64

/-- Framebuffer size in bytes: one bit per pixel, eight rows to a page. -/
def bufferLen : Nat := width * height / 8

/-- A 1-bit 128x64 framebuffer laid out the way the SSD1306 expects it. -/
structure Canvas where
  buffer : Vector UInt8 bufferLen
  deriving DecidableEq

/-- A place on the panel, column first. -/
abbrev Pixel := Nat × Nat

/-- The bit of a row in its page (`1 << (y % 8)`). -/
def rowBit (y : Nat) : UInt8 := 1 <<< UInt8.ofNat (y % 8)

/-- The pixels of the panel. -/
def panel : Set Pixel := {p | p.1 < width ∧ p.2 < height}

/-- The byte a pixel of the panel is in. -/
def byteOf (x y : Nat) (h : x < width ∧ y < height) : Fin bufferLen :=
  ⟨x + (y / 8) * width, by
    unfold width height at h
    unfold bufferLen width height
    omega⟩

namespace Canvas

/-- The black canvas. -/
def new : Canvas := { buffer := Vector.replicate bufferLen 0 }

/-- Blanks every pixel. -/
def clear (_ : Canvas) : Canvas := { buffer := Vector.replicate bufferLen 0 }

/-- Whether one pixel is lit; out-of-range coordinates read as unlit. -/
def isLit (c : Canvas) (x y : Nat) : Bool :=
  if h : x < width ∧ y < height then c.buffer.get (byteOf x y h) &&& rowBit y != 0 else false

/-- Light the pixel at column `x`, row `y`; off the panel nothing happens.
-/
def setPixel (c : Canvas) (x y : Nat) : Canvas :=
  if h : x < width ∧ y < height then
    let byte := byteOf x y h
    { buffer := c.buffer.set byte (c.buffer.get byte ||| rowBit y) }
  else c

/-- The lit pixels. -/
def lit (c : Canvas) : Set Pixel := {p | c.isLit p.1 p.2 = true}

end Canvas

/-! ## One pixel -/

theorem rowBit_and {y y' : Nat} :
    rowBit y &&& rowBit y' = if y % 8 = y' % 8 then rowBit y' else 0 := by
  have htable : ∀ i j : Fin 8,
      (1 <<< UInt8.ofNat i &&& 1 <<< UInt8.ofNat j : UInt8)
        = if i.val = j.val then 1 <<< UInt8.ofNat j else 0 := by decide
  exact htable ⟨y % 8, Nat.mod_lt _ (by decide)⟩ ⟨y' % 8, Nat.mod_lt _ (by decide)⟩

theorem rowBit_ne_zero (y : Nat) : rowBit y ≠ 0 := by
  have htable : ∀ i : Fin 8, (1 <<< UInt8.ofNat i : UInt8) ≠ 0 := by decide
  exact htable ⟨y % 8, Nat.mod_lt _ (by decide)⟩

/-- Setting a row's bit lights that row of the page and no other. -/
theorem or_rowBit (byte : UInt8) (y y' : Nat) :
    (byte ||| rowBit y) &&& rowBit y' ≠ 0 ↔ byte &&& rowBit y' ≠ 0 ∨ y % 8 = y' % 8 := by
  have hdistrib : (byte ||| rowBit y) &&& rowBit y'
      = (byte &&& rowBit y') ||| (rowBit y &&& rowBit y') := by
    apply UInt8.toBitVec_inj.mp
    ext i
    simp [Bool.and_or_distrib_right]
  rw [hdistrib, rowBit_and]
  split
  · next hsame =>
      simp only [hsame, or_true, iff_true, ne_eq, UInt8.or_eq_zero_iff, not_and]
      exact fun _ => rowBit_ne_zero y'
  · next hother => simp [hother]

theorem byteOf_eq_iff {x y x' y' : Nat} {h : x < width ∧ y < height}
    {h' : x' < width ∧ y' < height} :
    (byteOf x y h).val = (byteOf x' y' h').val ↔ x = x' ∧ y / 8 = y' / 8 := by
  unfold byteOf width height at *
  dsimp only
  omega

namespace Canvas

theorem mem_lit {c : Canvas} {x y : Nat} (h : x < width ∧ y < height) :
    (x, y) ∈ c.lit ↔ c.buffer.get (byteOf x y h) &&& rowBit y ≠ 0 := by
  show c.isLit x y = true ↔ _
  unfold isLit
  rw [dif_pos h]
  exact bne_iff_ne

theorem lit_subset_panel (c : Canvas) : c.lit ⊆ panel := by
  intro p hp
  by_contra hout
  have hlit : c.isLit p.1 p.2 = true := hp
  change ¬ (p.1 < width ∧ p.2 < height) at hout
  unfold isLit at hlit
  rw [dif_neg hout] at hlit
  cases hlit

theorem lit_clear (c : Canvas) : c.clear.lit = ∅ := by
  ext ⟨x, y⟩
  constructor
  · intro hlit
    have hon := lit_subset_panel _ hlit
    rw [mem_lit hon] at hlit
    simp [clear, Vector.get] at hlit
  · intro hnone
    cases hnone

theorem get_setPixel {c : Canvas} {x y : Nat} (h : x < width ∧ y < height) (byte : Fin bufferLen) :
    (c.setPixel x y).buffer.get byte
      = if (byteOf x y h).val = byte.val then c.buffer.get (byteOf x y h) ||| rowBit y
        else c.buffer.get byte := by
  unfold setPixel
  rw [dif_pos h]
  exact Vector.getElem_set (byteOf x y h).isLt byte.isLt

/-- **Setting a pixel lights that pixel**, where the panel has one. -/
theorem paints_setPixel (x y : Nat) :
    Paints lit (setPixel · x y) {p | p = (x, y) ∧ p ∈ panel} := by
  intro c
  ext ⟨x', y'⟩
  by_cases hon : x' < width ∧ y' < height
  · have hpanel : (x', y') ∈ panel := hon
    simp only [Set.mem_union, Set.mem_ofPred_eq, hpanel, and_true, Prod.mk.injEq]
    by_cases h : x < width ∧ y < height
    · rw [mem_lit hon, mem_lit hon, get_setPixel h]
      by_cases hsame : (byteOf x y h).val = (byteOf x' y' hon).val
      · -- one byte, and its rows are told apart by their bits
        obtain ⟨hx, hpage⟩ := byteOf_eq_iff.mp hsame
        have hbyte : byteOf x y h = byteOf x' y' hon := Fin.ext hsame
        rw [if_pos hsame, hbyte, or_rowBit]
        have hrow : y % 8 = y' % 8 ↔ x' = x ∧ y' = y := by omega
        rw [hrow]
      · rw [if_neg hsame]
        have hother : ¬ (x' = x ∧ y' = y) := by
          rintro ⟨rfl, rfl⟩
          exact hsame rfl
        simp [hother]
    · have hother : ¬ (x' = x ∧ y' = y) := by
        rintro ⟨rfl, rfl⟩
        exact h hon
      have hkept : c.setPixel x y = c := dif_neg h
      simp [hkept, hother]
  · have hpanel : (x', y') ∉ panel := hon
    have hbefore : (x', y') ∉ c.lit := fun hlit => hpanel (lit_subset_panel c hlit)
    have hafter : (x', y') ∉ (c.setPixel x y).lit := fun hlit => hpanel (lit_subset_panel _ hlit)
    simp [hbefore, hafter, hpanel]

end Canvas

end DurableTrivia.BadgeScreen

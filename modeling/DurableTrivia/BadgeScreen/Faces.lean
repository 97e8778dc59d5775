import DurableTrivia.BadgeScreen.Fold

/-!
# Faces — the two fonts of the badge and its button glyphs

`COMPACT_FONT`, `compact_glyph`, `glyph` and the `BUTTON_*` bitmaps of
`badge-screen/src/lib.rs`. The compact face draws most of the text; it
has a glyph of its own for every character that `is_renderable` accepts,
once accents and case are folded away (`fold_eq_of_compactGlyph`).
-/

namespace DurableTrivia.BadgeScreen

/-- Tom Thumb, a 3x5 monospace bitmap face. Rows run top to bottom; bit 0
is the leftmost column. -/
def compactFont : List (List UInt8) :=
  [[0b000, 0b000, 0b000, 0b000, 0b000],
   [0b010, 0b010, 0b010, 0b000, 0b010], -- !
   [0b101, 0b101, 0b000, 0b000, 0b000], -- quote
   [0b101, 0b111, 0b101, 0b111, 0b101], -- #
   [0b110, 0b011, 0b110, 0b011, 0b010], -- $
   [0b001, 0b100, 0b010, 0b001, 0b100], -- %
   [0b011, 0b011, 0b111, 0b101, 0b110], -- &
   [0b010, 0b010, 0b000, 0b000, 0b000], -- apostrophe
   [0b100, 0b010, 0b010, 0b010, 0b100], -- (
   [0b001, 0b010, 0b010, 0b010, 0b001], -- )
   [0b101, 0b010, 0b101, 0b000, 0b000], -- *
   [0b000, 0b010, 0b111, 0b010, 0b000], -- +
   [0b000, 0b000, 0b000, 0b010, 0b001], -- ,
   [0b000, 0b000, 0b111, 0b000, 0b000], -- -
   [0b000, 0b000, 0b000, 0b000, 0b010], -- .
   [0b100, 0b100, 0b010, 0b001, 0b001], -- /
   [0b110, 0b101, 0b101, 0b101, 0b011], -- 0
   [0b010, 0b011, 0b010, 0b010, 0b010], -- 1
   [0b011, 0b100, 0b010, 0b001, 0b111], -- 2
   [0b011, 0b100, 0b010, 0b100, 0b011], -- 3
   [0b101, 0b101, 0b111, 0b100, 0b100], -- 4
   [0b111, 0b001, 0b011, 0b100, 0b011], -- 5
   [0b110, 0b001, 0b111, 0b101, 0b111], -- 6
   [0b111, 0b100, 0b010, 0b001, 0b001], -- 7
   [0b111, 0b101, 0b111, 0b101, 0b111], -- 8
   [0b111, 0b101, 0b111, 0b100, 0b011], -- 9
   [0b000, 0b010, 0b000, 0b010, 0b000], -- :
   [0b000, 0b010, 0b000, 0b010, 0b001], -- ;
   [0b100, 0b010, 0b001, 0b010, 0b100], -- <
   [0b000, 0b111, 0b000, 0b111, 0b000], -- =
   [0b001, 0b010, 0b100, 0b010, 0b001], -- >
   [0b111, 0b100, 0b010, 0b000, 0b010], -- ?
   [0b010, 0b101, 0b111, 0b001, 0b110], -- @
   [0b010, 0b101, 0b111, 0b101, 0b101], -- A
   [0b011, 0b101, 0b011, 0b101, 0b011], -- B
   [0b110, 0b001, 0b001, 0b001, 0b110], -- C
   [0b011, 0b101, 0b101, 0b101, 0b011], -- D
   [0b111, 0b001, 0b111, 0b001, 0b111], -- E
   [0b111, 0b001, 0b111, 0b001, 0b001], -- F
   [0b110, 0b001, 0b111, 0b101, 0b110], -- G
   [0b101, 0b101, 0b111, 0b101, 0b101], -- H
   [0b111, 0b010, 0b010, 0b010, 0b111], -- I
   [0b100, 0b100, 0b100, 0b101, 0b010], -- J
   [0b101, 0b101, 0b011, 0b101, 0b101], -- K
   [0b001, 0b001, 0b001, 0b001, 0b111], -- L
   [0b101, 0b111, 0b111, 0b101, 0b101], -- M
   [0b101, 0b111, 0b111, 0b111, 0b101], -- N
   [0b010, 0b101, 0b101, 0b101, 0b010], -- O
   [0b011, 0b101, 0b011, 0b001, 0b001], -- P
   [0b010, 0b101, 0b101, 0b111, 0b110], -- Q
   [0b011, 0b101, 0b111, 0b011, 0b101], -- R
   [0b110, 0b001, 0b010, 0b100, 0b011], -- S
   [0b111, 0b010, 0b010, 0b010, 0b010], -- T
   [0b101, 0b101, 0b101, 0b101, 0b110], -- U
   [0b101, 0b101, 0b101, 0b010, 0b010], -- V
   [0b101, 0b101, 0b111, 0b111, 0b101], -- W
   [0b101, 0b101, 0b010, 0b101, 0b101], -- X
   [0b101, 0b101, 0b010, 0b010, 0b010], -- Y
   [0b111, 0b100, 0b010, 0b001, 0b111], -- Z
   [0b111, 0b001, 0b001, 0b001, 0b111], -- [
   [0b000, 0b001, 0b010, 0b100, 0b000], -- backslash
   [0b111, 0b100, 0b100, 0b100, 0b111], -- ]
   [0b010, 0b101, 0b000, 0b000, 0b000], -- ^
   [0b000, 0b000, 0b000, 0b000, 0b111], -- _
   [0b001, 0b010, 0b000, 0b000, 0b000], -- `
   [0b000, 0b011, 0b110, 0b101, 0b111], -- a
   [0b001, 0b011, 0b101, 0b101, 0b011], -- b
   [0b000, 0b110, 0b001, 0b001, 0b110], -- c
   [0b100, 0b110, 0b101, 0b101, 0b110], -- d
   [0b000, 0b110, 0b101, 0b011, 0b110], -- e
   [0b100, 0b010, 0b111, 0b010, 0b010], -- f
   [0b110, 0b101, 0b111, 0b100, 0b010], -- g
   [0b001, 0b011, 0b101, 0b101, 0b101], -- h
   [0b010, 0b000, 0b010, 0b010, 0b010], -- i
   [0b000, 0b100, 0b100, 0b101, 0b010], -- j
   [0b001, 0b101, 0b011, 0b011, 0b101], -- k
   [0b011, 0b010, 0b010, 0b010, 0b111], -- l
   [0b000, 0b111, 0b111, 0b111, 0b101], -- m
   [0b000, 0b011, 0b101, 0b101, 0b101], -- n
   [0b000, 0b010, 0b101, 0b101, 0b010], -- o
   [0b011, 0b101, 0b101, 0b011, 0b001], -- p
   [0b110, 0b101, 0b101, 0b110, 0b100], -- q
   [0b000, 0b110, 0b001, 0b001, 0b001], -- r
   [0b000, 0b110, 0b011, 0b110, 0b011], -- s
   [0b010, 0b111, 0b010, 0b010, 0b110], -- t
   [0b000, 0b101, 0b101, 0b101, 0b110], -- u
   [0b000, 0b101, 0b101, 0b111, 0b010], -- v
   [0b000, 0b101, 0b111, 0b111, 0b111], -- w
   [0b000, 0b101, 0b010, 0b010, 0b101], -- x
   [0b101, 0b101, 0b110, 0b100, 0b010], -- y
   [0b000, 0b111, 0b110, 0b011, 0b111], -- z
   [0b110, 0b010, 0b001, 0b010, 0b110], -- {
   [0b010, 0b010, 0b000, 0b010, 0b010], -- |
   [0b011, 0b010, 0b100, 0b010, 0b011], -- }
   [0b110, 0b011, 0b000, 0b000, 0b000]] -- ~

/-- The character of the compact font's first entry, the space. -/
def firstPrintable : Nat := 0x20

/-- The compact glyph of a character; an unmapped one reads as a question
mark. -/
def compactGlyph (c : Char) : List UInt8 :=
  let code := (fold c).toNat
  let index := if firstPrintable ≤ code then some (code - firstPrintable) else none
  (index.bind fun index => compactFont[index]?).getD
    (compactFont['?'.toNat - firstPrintable]?.getD [])

/-- The full-size face: columns left to right, bit 0 is the top row. -/
def fullFont : List (Char × List UInt8) :=
  [('A', [0x7e, 0x11, 0x11, 0x11, 0x7e]),
   ('B', [0x7f, 0x49, 0x49, 0x49, 0x36]),
   ('C', [0x3e, 0x41, 0x41, 0x41, 0x22]),
   ('D', [0x7f, 0x41, 0x41, 0x22, 0x1c]),
   ('E', [0x7f, 0x49, 0x49, 0x49, 0x41]),
   ('F', [0x7f, 0x09, 0x09, 0x09, 0x01]),
   ('G', [0x3e, 0x41, 0x49, 0x49, 0x7a]),
   ('H', [0x7f, 0x08, 0x08, 0x08, 0x7f]),
   ('I', [0x00, 0x41, 0x7f, 0x41, 0x00]),
   ('J', [0x20, 0x40, 0x41, 0x3f, 0x01]),
   ('K', [0x7f, 0x08, 0x14, 0x22, 0x41]),
   ('L', [0x7f, 0x40, 0x40, 0x40, 0x40]),
   ('M', [0x7f, 0x02, 0x0c, 0x02, 0x7f]),
   ('N', [0x7f, 0x04, 0x08, 0x10, 0x7f]),
   ('O', [0x3e, 0x41, 0x41, 0x41, 0x3e]),
   ('P', [0x7f, 0x09, 0x09, 0x09, 0x06]),
   ('Q', [0x3e, 0x41, 0x51, 0x21, 0x5e]),
   ('R', [0x7f, 0x09, 0x19, 0x29, 0x46]),
   ('S', [0x46, 0x49, 0x49, 0x49, 0x31]),
   ('T', [0x01, 0x01, 0x7f, 0x01, 0x01]),
   ('U', [0x3f, 0x40, 0x40, 0x40, 0x3f]),
   ('V', [0x1f, 0x20, 0x40, 0x20, 0x1f]),
   ('W', [0x3f, 0x40, 0x38, 0x40, 0x3f]),
   ('X', [0x63, 0x14, 0x08, 0x14, 0x63]),
   ('Y', [0x07, 0x08, 0x70, 0x08, 0x07]),
   ('Z', [0x61, 0x51, 0x49, 0x45, 0x43]),
   ('0', [0x3e, 0x51, 0x49, 0x45, 0x3e]),
   ('1', [0x00, 0x42, 0x7f, 0x40, 0x00]),
   ('2', [0x42, 0x61, 0x51, 0x49, 0x46]),
   ('3', [0x21, 0x41, 0x45, 0x4b, 0x31]),
   ('4', [0x18, 0x14, 0x12, 0x7f, 0x10]),
   ('5', [0x27, 0x45, 0x45, 0x45, 0x39]),
   ('6', [0x3c, 0x4a, 0x49, 0x49, 0x30]),
   ('7', [0x01, 0x71, 0x09, 0x05, 0x03]),
   ('8', [0x36, 0x49, 0x49, 0x49, 0x36]),
   ('9', [0x06, 0x49, 0x49, 0x29, 0x1e]),
   ('-', [0x08, 0x08, 0x08, 0x08, 0x08]),
   ('_', [0x40, 0x40, 0x40, 0x40, 0x40]),
   ('.', [0x00, 0x60, 0x60, 0x00, 0x00]),
   (':', [0x00, 0x36, 0x36, 0x00, 0x00]),
   ('/', [0x20, 0x10, 0x08, 0x04, 0x02]),
   ('+', [0x08, 0x08, 0x3e, 0x08, 0x08]),
   (',', [0x00, 0x40, 0x30, 0x00, 0x00]),
   ('\u0027', [0x00, 0x00, 0x03, 0x00, 0x00]),
   ('\u0022', [0x00, 0x03, 0x00, 0x03, 0x00]),
   ('(', [0x00, 0x1c, 0x22, 0x41, 0x00]),
   (')', [0x00, 0x41, 0x22, 0x1c, 0x00]),
   ('&', [0x36, 0x49, 0x55, 0x22, 0x50]),
   ('!', [0x00, 0x00, 0x5f, 0x00, 0x00]),
   (';', [0x00, 0x56, 0x36, 0x00, 0x00]),
   ('=', [0x14, 0x14, 0x14, 0x14, 0x14]),
   ('<', [0x08, 0x14, 0x22, 0x41, 0x00]),
   ('>', [0x00, 0x41, 0x22, 0x14, 0x08]),
   ('%', [0x23, 0x13, 0x08, 0x64, 0x62]),
   ('#', [0x14, 0x7f, 0x14, 0x7f, 0x14]),
   ('*', [0x14, 0x08, 0x3e, 0x08, 0x14]),
   ('?', [0x02, 0x01, 0x51, 0x09, 0x06]),
   ('@', [0x3e, 0x41, 0x5d, 0x55, 0x1e]),
   ('|', [0x00, 0x00, 0x7f, 0x00, 0x00]),
   ('$', [0x24, 0x2a, 0x7f, 0x2a, 0x12]),
   ('[', [0x00, 0x7f, 0x41, 0x41, 0x00]),
   (']', [0x00, 0x41, 0x41, 0x7f, 0x00]),
   ('\u007b', [0x00, 0x08, 0x36, 0x41, 0x00]),
   ('\u007d', [0x00, 0x41, 0x36, 0x08, 0x00]),
   ('^', [0x04, 0x02, 0x01, 0x02, 0x04]),
   ('~', [0x08, 0x04, 0x08, 0x10, 0x08]),
   ('\\', [0x02, 0x04, 0x08, 0x10, 0x20]),
   (' ', [0, 0, 0, 0, 0])]

/-- The full-size glyph of a character. -/
def glyph (c : Char) : List UInt8 :=
  (fullFont.lookup (fold c)).getD [0x02, 0x01, 0x51, 0x09, 0x06]

/-! ## The buttons -/

/-- The four buttons with the top one filled, two bytes a row. -/
def buttonTop : List UInt8 :=
  [0x30, 0x00, 0x78, 0x00, 0x78, 0x00, 0xB6, 0x01, 0x49, 0x02,
    0x49, 0x02, 0xB6, 0x01, 0x48, 0x00, 0x48, 0x00, 0x30, 0x00]

/-- The four buttons with the right one filled. -/
def buttonRight : List UInt8 :=
  [0x30, 0x00, 0x48, 0x00, 0x48, 0x00, 0xB6, 0x01, 0xC9, 0x03,
    0xC9, 0x03, 0xB6, 0x01, 0x48, 0x00, 0x48, 0x00, 0x30, 0x00]

/-- The four buttons with the bottom one filled. -/
def buttonDown : List UInt8 :=
  [0x30, 0x00, 0x48, 0x00, 0x48, 0x00, 0xB6, 0x01, 0x49, 0x02,
    0x49, 0x02, 0xB6, 0x01, 0x78, 0x00, 0x78, 0x00, 0x30, 0x00]

/-- The four buttons with the left one filled. -/
def buttonLeft : List UInt8 :=
  [0x30, 0x00, 0x48, 0x00, 0x48, 0x00, 0xB6, 0x01, 0x4F, 0x02,
    0x4F, 0x02, 0xB6, 0x01, 0x48, 0x00, 0x48, 0x00, 0x30, 0x00]

/-! ## What the faces hold -/

theorem length_compactFont : ∀ bits ∈ compactFont, bits.length = 5 := by decide

theorem compactGlyph_mem (c : Char) : compactGlyph c ∈ compactFont := by
  have hmark : compactFont['?'.toNat - firstPrintable]?.getD [] ∈ compactFont := by decide
  unfold compactGlyph
  dsimp only
  split
  · rw [Option.bind_some]
    cases hget : compactFont[(fold c).toNat - firstPrintable]? with
    | none => exact hmark
    | some bits => exact List.mem_of_getElem? hget
  · exact hmark

theorem length_compactGlyph (c : Char) : (compactGlyph c).length = 5 :=
  length_compactFont _ (compactGlyph_mem c)

theorem length_glyph (c : Char) : (glyph c).length = 5 := by
  have htable : ∀ entry ∈ fullFont, entry.2.length = 5 := by decide
  unfold glyph
  cases hlookup : fullFont.lookup (fold c) with
  | none => rfl
  | some bits =>
      obtain ⟨before, after, heq, _⟩ := List.lookup_eq_some_iff.mp hlookup
      exact htable (fold c, bits) (by rw [heq]; simp)

/-- The glyphs of the compact face that folding leaves in use. -/
def drawnGlyphs : List Nat := List.range 64 ++ [91, 92, 93, 94]

/-- **The compact face draws no two of them alike.** -/
theorem nodup_drawnGlyphs : (drawnGlyphs.map fun index => compactFont[index]?).Nodup := by
  decide +kernel

theorem compactGlyph_renderable {c : Char} (h : isRenderable c = true) :
    (fold c).toNat - firstPrintable ∈ drawnGlyphs
      ∧ compactFont[(fold c).toNat - firstPrintable]? = some (compactGlyph c) := by
  obtain ⟨hlow, hhigh, hlower⟩ := fold_renderable h
  unfold firstPrintable
  constructor
  · simp only [drawnGlyphs, List.mem_append, List.mem_range, List.mem_cons, List.not_mem_nil,
      or_false]
    omega
  · have hlength : (fold c).toNat - 0x20 < compactFont.length := by
      show (fold c).toNat - 0x20 < 95
      omega
    unfold compactGlyph firstPrintable
    dsimp only
    rw [if_pos hlow, Option.bind_some, List.getElem?_eq_getElem hlength, Option.getD_some]

/-- **Characters that can be drawn look alike only when they fold alike.** -/
theorem fold_eq_of_compactGlyph {c d : Char} (hc : isRenderable c = true)
    (hd : isRenderable d = true) (h : compactGlyph c = compactGlyph d) : fold c = fold d := by
  obtain ⟨hcmem, hcget⟩ := compactGlyph_renderable hc
  obtain ⟨hdmem, hdget⟩ := compactGlyph_renderable hd
  have hindex := List.inj_on_of_nodup_map nodup_drawnGlyphs hcmem hdmem
    (by rw [hcget, hdget, h])
  have hclow := (fold_renderable hc).1
  have hdlow := (fold_renderable hd).1
  unfold firstPrintable at hindex
  apply Char.ext
  apply UInt32.toNat_inj.mp
  show (fold c).toNat = (fold d).toNat
  omega

end DurableTrivia.BadgeScreen

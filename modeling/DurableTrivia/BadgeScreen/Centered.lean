import DurableTrivia.BadgeScreen.Regions
import DurableTrivia.BadgeScreen.Results

/-!
# Centered — the layout of every screen but the question

`centered`, `centered_text`, `centered_compact` and `instruction_y` of
`badge-screen/src/lib.rs`. A text is cut to what the panel is wide, so the
cut of `text` and `compact_text` never falls: whatever the texts are, each
is drawn whole, in rows of its own (`centered_bands`).
-/

namespace DurableTrivia.BadgeScreen

open DurableTrivia.Shared DurableTrivia.Lib.Painting

/-! ## Layout -/

/-- The row the detail line starts at. -/
def detailY : Nat := 22

/-- First row the instruction block may occupy, just below the detail line. -/
def instructionTop : Nat := 28

/-- Rows from one instruction to the next. -/
def instructionPitch : Nat := 7

/-- How many instructions fit below the detail line. -/
def maxInstructions : Nat := 4

/-- Longest run of full-size glyphs that fits the panel width. -/
def maxHeadlineChars : Nat := width / glyphAdvance

/-- Longest run of compact glyphs that fits the panel width. -/
def maxCompactChars : Nat := width / compactAdvance - 1

/-- Centres the instruction block in the space under the detail line. -/
def instructionY (count index : Nat) : Nat :=
  let block := count * instructionPitch - 2
  let space := height - instructionTop
  let top := instructionTop + (space - block) / 2
  top + index * instructionPitch

/-- Where a run of `count` glyphs starts to be centered. -/
def centerX (count advance : Nat) : Nat := (width - (count * advance - 1)) / 2

namespace Canvas

/-- One centred line of the large face, cut at the panel's width. -/
def centeredText (c : Canvas) (y : Nat) (text : String) : Canvas :=
  let visible := text.toList.take maxHeadlineChars
  c.text (centerX visible.length glyphAdvance) y (String.ofList visible)

/-- One centred line of the compact face, cut at the panel's width. -/
def centeredCompact (c : Canvas) (y : Nat) (text : String) : Canvas :=
  let visible := text.toList.take maxCompactChars
  c.compactText (centerX visible.length compactAdvance) y (String.ofList visible)

/-- The layout all screens share but the question's: header, headline,
detail and up to four instructions, over a cleared canvas. -/
def centered (c : Canvas) (screen : Screen) : Canvas :=
  let c := c.clear
  let c := c.header screen.callsign
  let c := c.centeredText headlineY screen.headline
  let c := c.centeredCompact detailY screen.detail
  let shown := min screen.instructions.length maxInstructions
  (screen.instructions.take maxInstructions).zipIdx.foldl
    (fun c instruction => c.centeredCompact (instructionY shown instruction.2) instruction.1) c

end Canvas

/-! ## What it paints -/

/-- The glyphs of a run in their cells, none left out. -/
def cellsArea (area : Nat → Nat → Char → Set Pixel) (advance x y : Nat) (text : List Char) :
    Set Pixel :=
  {p | ∃ k character, text[k]? = some character ∧ p ∈ area (x + advance * k) y character}

/-- A full-size line, cut to what the panel holds. -/
def headlineArea (y : Nat) (text : String) : Set Pixel :=
  let visible := text.toList.take maxHeadlineChars
  cellsArea glyphArea glyphAdvance (centerX visible.length glyphAdvance) y visible

/-- A compact line, cut to what the panel holds. -/
def compactLineArea (y : Nat) (text : String) : Set Pixel :=
  let visible := text.toList.take maxCompactChars
  cellsArea compactGlyphArea compactAdvance (centerX visible.length compactAdvance) y visible

/-- **Where all glyphs fit, none is cut.** -/
theorem runArea_eq_cellsArea {area : Nat → Nat → Char → Set Pixel}
    {glyphWidth advance x y : Nat} {text : List Char}
    (hfits : ∀ k < text.length, x + advance * k + glyphWidth ≤ width) :
    runArea area glyphWidth advance x y text = cellsArea area advance x y text := by
  ext p
  constructor
  · rintro ⟨k, character, hget, _, hp⟩
    exact ⟨k, character, hget, hp⟩
  · rintro ⟨k, character, hget, hp⟩
    exact ⟨k, character, hget, hfits k (List.getElem?_eq_some_iff.mp hget).1, hp⟩

theorem headline_fits {count k : Nat} (hcount : count ≤ maxHeadlineChars) (hk : k < count) :
    centerX count glyphAdvance + glyphAdvance * k + glyphWidth ≤ width := by
  have hroom : maxHeadlineChars = 21 := rfl
  unfold centerX glyphAdvance glyphWidth width
  omega

theorem compact_fits {count k : Nat} (hcount : count ≤ maxCompactChars) (hk : k < count) :
    centerX count compactAdvance + compactAdvance * k + compactWidth ≤ width := by
  have hroom : maxCompactChars = 31 := rfl
  unfold centerX compactAdvance compactWidth width
  omega

/-- The rows of the instruction at `index` are under the detail line, on
the panel, and apart from the next one's. -/
theorem instructionY_rows {count index : Nat} (hcount : count ≤ maxInstructions)
    (hindex : index < count) :
    instructionTop ≤ instructionY count index
      ∧ instructionY count index + compactHeight ≤ height
      ∧ instructionY count (index + 1) = instructionY count index + instructionPitch := by
  have hmost : maxInstructions = 4 := rfl
  unfold instructionY instructionTop instructionPitch compactHeight height
  dsimp only
  omega

namespace Canvas

theorem paints_centeredText (y : Nat) (text : String) :
    Paints lit (fun c => c.centeredText y text) (headlineArea y text) := by
  unfold centeredText headlineArea
  dsimp only
  refine (paints_text _ y _).congr ?_
  unfold textArea
  rw [String.toList_ofList]
  apply runArea_eq_cellsArea
  intro k hk
  exact headline_fits (by simp) hk

theorem paints_centeredCompact (y : Nat) (text : String) :
    Paints lit (fun c => c.centeredCompact y text) (compactLineArea y text) := by
  unfold centeredCompact compactLineArea
  dsimp only
  refine (paints_compactText _ y _).congr ?_
  unfold compactTextArea
  rw [String.toList_ofList]
  apply runArea_eq_cellsArea
  intro k hk
  exact compact_fits (by simp) hk

end Canvas

/-! ## The bands -/

/-- What is drawn on a centered screen, from top to bottom. -/
inductive Band where
  | callsign
  | rule
  | headline
  | detail
  | instruction (index : Fin 4)
  deriving DecidableEq

namespace Band

/-- The pixels a band lights. -/
def area (screen : Screen) : Band → Set Pixel
  | .callsign => textArea 0 0 screen.callsign
  | .rule => hlineArea 0 (width - 1) headerRuleY
  | .headline => headlineArea headlineY screen.headline
  | .detail => compactLineArea detailY screen.detail
  | .instruction index =>
      {p | ∃ instruction, screen.instructions[index]? = some instruction
        ∧ p ∈ compactLineArea
          (instructionY (min screen.instructions.length maxInstructions) index) instruction}

/-- The first row of a band, and how many it has. -/
def rows (screen : Screen) : Band → Nat × Nat
  | .callsign => (0, 7)
  | .rule => (headerRuleY, 1)
  | .headline => (headlineY, 7)
  | .detail => (detailY, compactHeight)
  | .instruction index =>
      (instructionY (min screen.instructions.length maxInstructions) index, compactHeight)

/-- Whether the screen has the band. -/
def Shown (screen : Screen) : Band → Prop
  | .instruction index => index.val < screen.instructions.length
  | _ => True

end Band

variable {p : Pixel} {x y : Nat} {screen : Screen}

theorem cellsArea_rows {area : Nat → Nat → Char → Set Pixel} {advance rows : Nat}
    {text : List Char}
    (harea : ∀ x character (p : Pixel), p ∈ area x y character → y ≤ p.2 ∧ p.2 < y + rows)
    (h : p ∈ cellsArea area advance x y text) : y ≤ p.2 ∧ p.2 < y + rows := by
  obtain ⟨k, character, _, hp⟩ := h
  exact harea _ character p hp

theorem headlineArea_rows {text : String} (h : p ∈ headlineArea y text) :
    y ≤ p.2 ∧ p.2 < y + 7 := by
  refine @cellsArea_rows p _ y glyphArea _ 7 _ ?_ h
  intro x character p hp
  exact (glyphArea_subset character hp).2

theorem compactLineArea_rows {text : String} (h : p ∈ compactLineArea y text) :
    y ≤ p.2 ∧ p.2 < y + compactHeight := by
  refine @cellsArea_rows p _ y compactGlyphArea _ compactHeight _ ?_ h
  intro x character p hp
  exact (compactGlyphArea_subset character hp).2

namespace Band

/-- A band keeps to its rows. -/
theorem area_rows {band : Band} (h : p ∈ band.area screen) :
    (band.rows screen).1 ≤ p.2 ∧ p.2 < (band.rows screen).1 + (band.rows screen).2 := by
  cases band with
  | callsign => exact textArea_rows h
  | rule =>
      obtain ⟨column, _, rfl, _⟩ := h
      exact ⟨Nat.le_refl _, Nat.lt_succ_self _⟩
  | headline => exact headlineArea_rows h
  | detail => exact compactLineArea_rows h
  | instruction index =>
      obtain ⟨instruction, _, hp⟩ := h
      exact compactLineArea_rows hp

theorem shown_of_mem {band : Band} (h : p ∈ band.area screen) : band.Shown screen := by
  cases band with
  | callsign | rule | headline | detail => trivial
  | instruction index =>
      obtain ⟨instruction, hget, _⟩ := h
      exact (List.getElem?_eq_some_iff.mp hget).1

/-- The instructions of a screen come one pitch apart. -/
theorem instruction_rows {index : Fin 4} (h : (instruction index).Shown screen) :
    instructionTop ≤ ((instruction index).rows screen).1
      ∧ ((instruction index).rows screen).1 + compactHeight ≤ height := by
  have hcount : index.val < min screen.instructions.length maxInstructions :=
    Nat.lt_min.mpr ⟨h, index.isLt⟩
  obtain ⟨hlow, hhigh, _⟩ := instructionY_rows (Nat.min_le_right _ _) hcount
  exact ⟨hlow, hhigh⟩

/-- **The bands a screen shows are on the panel.** -/
theorem rows_le_height {band : Band} (h : band.Shown screen) :
    (band.rows screen).1 + (band.rows screen).2 ≤ height := by
  cases band with
  | callsign | rule | headline | detail =>
      simp [rows, headerRuleY, headlineY, detailY, compactHeight, height]
  | instruction index => exact (instruction_rows h).2

/-- **No two bands share a row.** -/
theorem eq_of_row {band other : Band} (hband : band.Shown screen) (hother : other.Shown screen)
    {row : Nat}
    (h : (band.rows screen).1 ≤ row ∧ row < (band.rows screen).1 + (band.rows screen).2)
    (h' : (other.rows screen).1 ≤ row ∧ row < (other.rows screen).1 + (other.rows screen).2) :
    band = other := by
  cases band with
  | instruction i =>
      have hi := instruction_rows hband
      cases other with
      | instruction j =>
          have hpitch : i.val = j.val := by
            simp only [rows, instructionY, instructionPitch, compactHeight] at h h'
            omega
          exact congrArg instruction (Fin.ext hpitch)
      | callsign | rule | headline | detail =>
          simp only [rows, instructionTop, headerRuleY, headlineY, detailY, compactHeight]
            at h h' hi
          omega
  | callsign | rule | headline | detail =>
      cases other with
      | instruction j =>
          have hj := instruction_rows hother
          simp only [rows, instructionTop, headerRuleY, headlineY, detailY, compactHeight]
            at h h' hj
          omega
      | callsign | rule | headline | detail =>
          simp only [rows, headerRuleY, headlineY, detailY, compactHeight] at h h'
          first
          | rfl
          | omega

end Band

/-! ## The screen is its bands -/

theorem mem_take_zipIdx {instructions : List String} {instruction : String} {index : Nat} :
    (instruction, index) ∈ (instructions.take maxInstructions).zipIdx
      ↔ index < maxInstructions ∧ instructions[index]? = some instruction := by
  rw [List.mem_zipIdx_iff_getElem?, List.getElem?_take]
  split
  · next h => simp [h]
  · next h => simp [h]

/-- **A centered screen is its bands**, whatever was on the canvas before. -/
theorem mem_lit_centered (c : Canvas) (screen : Screen) :
    p ∈ (c.centered screen).lit ↔ ∃ band : Band, p ∈ band.area screen := by
  have hinstructions := Paints.foldl
    (fun (instruction : String × Nat)
        (_ : instruction ∈ (screen.instructions.take maxInstructions).zipIdx) =>
      Canvas.paints_centeredCompact
        (instructionY (min screen.instructions.length maxInstructions) instruction.2)
        instruction.1)
  unfold Canvas.centered
  dsimp only
  rw [hinstructions, Canvas.paints_centeredCompact, Canvas.paints_centeredText,
    Canvas.paints_header, Canvas.lit_clear, Set.empty_union]
  constructor
  · rintro ((((htext | hrule) | hheadline) | hdetail) | ⟨⟨instruction, index⟩, hmem, hp⟩)
    · exact ⟨.callsign, htext⟩
    · exact ⟨.rule, hrule⟩
    · exact ⟨.headline, hheadline⟩
    · exact ⟨.detail, hdetail⟩
    · obtain ⟨hindex, hget⟩ := mem_take_zipIdx.mp hmem
      exact ⟨.instruction ⟨index, hindex⟩, instruction, hget, hp⟩
  · rintro ⟨band, hp⟩
    cases band with
    | callsign => exact .inl (.inl (.inl (.inl hp)))
    | rule => exact .inl (.inl (.inl (.inr hp)))
    | headline => exact .inl (.inl (.inr hp))
    | detail => exact .inl (.inr hp)
    | instruction index =>
        obtain ⟨instruction, hget, hp⟩ := hp
        exact .inr ⟨(instruction, index.val), mem_take_zipIdx.mpr ⟨index.isLt, hget⟩, hp⟩

/-- In the rows of a band a centered screen shows that band only. -/
theorem mem_lit_band (c : Canvas) {band : Band} (hband : band.Shown screen)
    (hrow : (band.rows screen).1 ≤ p.2 ∧ p.2 < (band.rows screen).1 + (band.rows screen).2) :
    p ∈ (c.centered screen).lit ↔ p ∈ band.area screen := by
  rw [mem_lit_centered]
  constructor
  · rintro ⟨other, hp⟩
    obtain rfl : band = other :=
      Band.eq_of_row hband (Band.shown_of_mem hp) hrow (Band.area_rows hp)
    exact hp
  · intro hp
    exact ⟨band, hp⟩

theorem box_subset_panel {columns rows : Nat} (hx : x + columns ≤ width) (hy : y + rows ≤ height) :
    box x y columns rows ⊆ panel := by
  rintro p ⟨hcolumn, hrow⟩
  exact ⟨by omega, by omega⟩

/-- The cell of a glyph in a centered line of `count` glyphs. -/
def headlineCell (count k : Nat) : Set Pixel :=
  box (centerX count glyphAdvance + glyphAdvance * k) headlineY glyphWidth 7

/-- The cell of the `k`-th of `count` centred compact characters, in a line
at row `y`. -/
def compactCell (y count k : Nat) : Set Pixel :=
  box (centerX count compactAdvance + compactAdvance * k) y compactWidth compactHeight

/-- **Every centered screen is laid out whole.** It is its bands and
nothing else; no two of them share a row; and the cell of every glyph
that a line keeps is on the panel, so that none is cut. -/
theorem centered_bands (c : Canvas) (screen : Screen) :
    (∀ p, p ∈ (c.centered screen).lit ↔ ∃ band : Band, p ∈ band.area screen)
      ∧ (∀ band other : Band, band ≠ other →
        ∀ p ∈ band.area screen, ∀ q ∈ other.area screen, p.2 ≠ q.2)
      ∧ (∀ k < min screen.headline.length maxHeadlineChars,
        headlineCell (min screen.headline.length maxHeadlineChars) k ⊆ panel)
      ∧ (∀ k < min screen.detail.length maxCompactChars,
        compactCell detailY (min screen.detail.length maxCompactChars) k ⊆ panel)
      ∧ ∀ (index : Fin 4) (instruction : String), screen.instructions[index]? = some instruction →
        ∀ k < min instruction.length maxCompactChars,
          compactCell (instructionY (min screen.instructions.length maxInstructions) index)
            (min instruction.length maxCompactChars) k ⊆ panel := by
  refine ⟨fun p => mem_lit_centered c screen, ?_, ?_, ?_, ?_⟩
  · intro band other hne p hp q hq hrow
    have hother := Band.area_rows hq
    rw [← hrow] at hother
    exact hne (Band.eq_of_row (Band.shown_of_mem hp) (Band.shown_of_mem hq) (Band.area_rows hp)
      hother)
  · intro k hk
    exact box_subset_panel (headline_fits (Nat.min_le_right _ _) hk) (by decide)
  · intro k hk
    exact box_subset_panel (compact_fits (Nat.min_le_right _ _) hk) (by decide)
  · intro index instruction hget k hk
    have hshown : (Band.instruction index).Shown screen := (List.getElem?_eq_some_iff.mp hget).1
    exact box_subset_panel (compact_fits (Nat.min_le_right _ _) hk) (Band.rows_le_height hshown)

end DurableTrivia.BadgeScreen

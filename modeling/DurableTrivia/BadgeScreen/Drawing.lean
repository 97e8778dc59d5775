import DurableTrivia.Shared.Contract
import DurableTrivia.BadgeScreen.Canvas
import DurableTrivia.BadgeScreen.Faces
import DurableTrivia.BadgeScreen.Question

/-!
# Drawing — the layout and text routines of the canvas, and the question screen

`text`, `compact_text`, `compact_wrapped`, `hline`, `frame`,
`button_glyph`, `answer_panel`, `header` and `question` of
`badge-screen/src/lib.rs`. Every routine only adds pixels, and beside each
stands the area it paints; the question screen is the union of its
header, its prompt and its four panels (`lit_question`).
-/

namespace DurableTrivia.BadgeScreen

open DurableTrivia.Shared DurableTrivia.Lib.Painting

/-- Full-size glyphs are 5x7 drawn on a 6px pitch. -/
def glyphWidth : Nat := 5

/-- Columns from one large glyph to the next. -/
def glyphAdvance : Nat := 6

/-- Compact glyphs are 3x5 on a 4px pitch. -/
def compactAdvance : Nat := 4

/-- Columns of a compact glyph. -/
def compactWidth : Nat := 3

/-- Rows of a compact glyph. -/
def compactHeight : Nat := 5

/-- The row of the line under the header. -/
def headerRuleY : Nat := 8

/-- The row the headline, or the prompt, starts at. -/
def headlineY : Nat := 11

/-- Columns of an answer panel. -/
def answerPanelWidth : Nat := 63

/-- Rows of an answer panel. -/
def answerPanelHeight : Nat := 16

/-- `bits & (1 << i) != 0`. -/
def bit (bits : UInt8) (i : Nat) : Bool := bits &&& (1 <<< UInt8.ofNat i) != 0

/-- Bit `i` of a row of a button picture. -/
def bit16 (bits : UInt16) (i : Nat) : Bool := bits &&& (1 <<< UInt16.ofNat i) != 0

/-- Rust's `low..high`. -/
def span (low high : Nat) : List Nat := List.range' low (high - low)

/-- Where the four panels are: the physical layout of the button cluster,
top and right on row one, left and down on row two. -/
def panelOrigin : Fin 4 → Pixel
  | 0 => (0, 30)
  | 1 => (65, 30)
  | 2 => (0, 48)
  | 3 => (65, 48)

/-- The picture of the button that chooses the answer. -/
def buttonBits (answerIndex : Nat) : List UInt8 :=
  match answerIndex with
  | 0 => buttonTop
  | 1 => buttonRight
  | 2 => buttonLeft
  | _ => buttonDown

/-- The rows of a button, two bytes each. -/
def buttonRows (bits : List UInt8) : List UInt16 :=
  (List.range 10).map fun row =>
    (bits.getD (row * 2) 0).toUInt16 ||| ((bits.getD (row * 2 + 1) 0).toUInt16 <<< 8)

namespace Canvas

/-! ## The routines -/

/-- The two loops over a bitmap: its `lines`, and `run` bits of each. -/
def stamp (c : Canvas) (lines : List (Nat → Bool)) (run : Nat) (pixel : Nat → Nat → Pixel) :
    Canvas :=
  lines.zipIdx.foldl
    (fun c line => (List.range run).foldl
      (fun c i =>
        if line.1 i = true then c.setPixel (pixel line.2 i).1 (pixel line.2 i).2 else c) c)
    c

/-- Stamp a large glyph, which is stored by columns. -/
def drawGlyph (c : Canvas) (x y : Nat) (character : Char) : Canvas :=
  c.stamp ((glyph character).map bit) 7 fun column row => (x + column, y + row)

/-- Stamp a compact glyph, which is stored by rows. -/
def drawCompactGlyph (c : Canvas) (x y : Nat) (character : Char) : Canvas :=
  c.stamp ((compactGlyph character).map bit) compactWidth fun row column => (x + column, y + row)

/-- The loop of `text` and `compact_text`: glyphs are drawn until one
would not fit the panel. -/
def textRun (draw : Canvas → Nat → Nat → Char → Canvas) (glyphWidth advance : Nat)
    (c : Canvas) (x y : Nat) : List Char → Canvas
  | [] => c
  | character :: text =>
    if x + glyphWidth > width then c
    else textRun draw glyphWidth advance (draw c x y character) (x + advance) y text

/-- A text in the large face. -/
def text (c : Canvas) (x y : Nat) (text : String) : Canvas :=
  textRun drawGlyph glyphWidth glyphAdvance c x y text.toList

/-- A text in the compact face. -/
def compactText (c : Canvas) (x y : Nat) (text : String) : Canvas :=
  textRun drawCompactGlyph compactWidth compactAdvance c x y text.toList

/-- A text in the compact face, wrapped to so many lines of so many
characters. -/
def compactWrapped (c : Canvas) (x y : Nat) (text : String) (maxChars maxLines : Nat)
    [NeZero maxChars] : Canvas :=
  (wrap text maxChars maxLines).zipIdx.foldl
    (fun c line => c.compactText x (y + line.2 * (compactHeight + 1)) line.1) c

/-- A horizontal line, both ends included. -/
def hline (c : Canvas) (fromX toX y : Nat) : Canvas :=
  (span fromX (toX + 1)).foldl (fun c x => c.setPixel x y) c

/-- A frame with rounded corners. -/
def frame (c : Canvas) (x y width height : Nat) : Canvas :=
  let c := (span (x + 2) (x + width - 2)).foldl
    (fun c column => (c.setPixel column y).setPixel column (y + height - 1)) c
  let c := (span (y + 2) (y + height - 2)).foldl
    (fun c row => (c.setPixel x row).setPixel (x + width - 1) row) c
  [(1, 1), (width - 2, 1), (1, height - 2), (width - 2, height - 2)].foldl
    (fun c corner => c.setPixel (x + corner.1) (y + corner.2)) c

/-- The picture of the four buttons, with the answer's own filled. -/
def buttonGlyph (c : Canvas) (answerIndex x y : Nat) : Canvas :=
  c.stamp ((buttonRows (buttonBits answerIndex)).map bit16) 10
    fun row column => (x + column, y + row)

/-- A framed answer: its button, and its label on at most two lines. -/
def answerPanel (c : Canvas) (index x y : Nat) (label : String) : Canvas :=
  let c := c.frame x y answerPanelWidth answerPanelHeight
  let c := c.buttonGlyph index (x + 2) (y + 3)
  c.compactWrapped (x + 14) (y + 3) label answerLabelChars answerLabelLines

/-- The callsign, over a line across the panel. -/
def header (c : Canvas) (callsign : String) : Canvas :=
  let c := c.text 0 0 callsign
  c.hline 0 (width - 1) headerRuleY

/-- A question with its four answers on the button positions. -/
def question (c : Canvas) (callsign : String) (question : Question) : Canvas :=
  let c := c.clear
  let c := c.header callsign
  let c := c.compactWrapped 1 headlineY question.prompt promptChars promptLines
  (List.finRange 4).foldl
    (fun c (index : Fin 4) =>
      c.answerPanel index (panelOrigin index).1 (panelOrigin index).2 (question.answers.get index))
    c

end Canvas

/-! ## What they paint -/

/-- One pixel, where the panel has it. -/
def dot (x y : Nat) : Set Pixel := {p | p = (x, y) ∧ p ∈ panel}

/-- The pixels of a rectangle. -/
def box (x y width height : Nat) : Set Pixel :=
  {p | (x ≤ p.1 ∧ p.1 < x + width) ∧ (y ≤ p.2 ∧ p.2 < y + height)}

/-- What a stamp paints: the places of its lit bits. -/
def stampArea (lines : List (Nat → Bool)) (run : Nat) (pixel : Nat → Nat → Pixel) : Set Pixel :=
  {p | ∃ line ∈ lines.zipIdx, ∃ i ∈ List.range run,
    line.1 i = true ∧ p ∈ dot (pixel line.2 i).1 (pixel line.2 i).2}

/-- What `drawGlyph` paints. -/
def glyphArea (x y : Nat) (character : Char) : Set Pixel :=
  stampArea ((glyph character).map bit) 7 fun column row => (x + column, y + row)

/-- What `drawCompactGlyph` paints. -/
def compactGlyphArea (x y : Nat) (character : Char) : Set Pixel :=
  stampArea ((compactGlyph character).map bit) compactWidth fun row column => (x + column, y + row)

/-- The glyphs of a run, up to the one that would not fit. -/
def runArea (area : Nat → Nat → Char → Set Pixel) (glyphWidth advance x y : Nat)
    (text : List Char) : Set Pixel :=
  {p | ∃ k character, text[k]? = some character ∧ x + advance * k + glyphWidth ≤ width
    ∧ p ∈ area (x + advance * k) y character}

/-- What `text` paints. -/
def textArea (x y : Nat) (text : String) : Set Pixel :=
  runArea glyphArea glyphWidth glyphAdvance x y text.toList

/-- What `compactText` paints. -/
def compactTextArea (x y : Nat) (text : String) : Set Pixel :=
  runArea compactGlyphArea compactWidth compactAdvance x y text.toList

/-- What `compactWrapped` paints. -/
def wrappedArea (x y : Nat) (text : String) (maxChars maxLines : Nat) [NeZero maxChars] :
    Set Pixel :=
  {p | ∃ line ∈ (wrap text maxChars maxLines).zipIdx,
    p ∈ compactTextArea x (y + line.2 * (compactHeight + 1)) line.1}

/-- What `hline` paints. -/
def hlineArea (fromX toX y : Nat) : Set Pixel := {p | ∃ x ∈ span fromX (toX + 1), p ∈ dot x y}

/-- What `frame` paints. -/
def frameArea (x y width height : Nat) : Set Pixel :=
  {p | ∃ column ∈ span (x + 2) (x + width - 2), p ∈ dot column y ∪ dot column (y + height - 1)}
    ∪ {p | ∃ row ∈ span (y + 2) (y + height - 2), p ∈ dot x row ∪ dot (x + width - 1) row}
    ∪ {p | ∃ corner ∈ [(1, 1), (width - 2, 1), (1, height - 2), (width - 2, height - 2)],
        p ∈ dot (x + corner.1) (y + corner.2)}

/-- What `header` paints. -/
def headerArea (callsign : String) : Set Pixel :=
  textArea 0 0 callsign ∪ hlineArea 0 (width - 1) headerRuleY

/-- What `buttonGlyph` paints. -/
def buttonArea (answerIndex x y : Nat) : Set Pixel :=
  stampArea ((buttonRows (buttonBits answerIndex)).map bit16) 10
    fun row column => (x + column, y + row)

/-- Where a panel has its label. -/
def labelArea (x y : Nat) (label : String) : Set Pixel :=
  wrappedArea (x + 14) (y + 3) label answerLabelChars answerLabelLines

/-- What `answerPanel` paints. -/
def answerPanelArea (index x y : Nat) (label : String) : Set Pixel :=
  frameArea x y answerPanelWidth answerPanelHeight ∪ buttonArea index (x + 2) (y + 3)
    ∪ labelArea x y label

/-- What the prompt of a question paints. -/
def promptArea (prompt : String) : Set Pixel :=
  wrappedArea 1 headlineY prompt promptChars promptLines

namespace Canvas

theorem paints_stamp (lines : List (Nat → Bool)) (run : Nat) (pixel : Nat → Nat → Pixel) :
    Paints lit (stamp · lines run pixel) (stampArea lines run pixel) :=
  Paints.foldl fun line _ => Paints.foldl fun i _ =>
    Paints.guarded (paints_setPixel (pixel line.2 i).1 (pixel line.2 i).2)

/-- **A run paints its glyphs**, up to the one that would not fit. -/
theorem paints_textRun {draw : Canvas → Nat → Nat → Char → Canvas}
    {area : Nat → Nat → Char → Set Pixel} {glyphWidth advance y : Nat}
    (hdraw : ∀ x character, Paints lit (draw · x y character) (area x y character))
    (text : List Char) (x : Nat) :
    Paints lit (textRun draw glyphWidth advance · x y text)
      (runArea area glyphWidth advance x y text) := by
  induction text generalizing x with
  | nil =>
      refine Paints.nothing.congr ?_
      ext p
      simp [runArea]
  | cons character text ih =>
      have hstep (k : Nat) : x + advance * (k + 1) = x + advance + advance * k := by
        rw [Nat.mul_succ]
        omega
      simp only [textRun]
      by_cases hfull : x + glyphWidth > width
      · simp only [if_pos hfull]
        refine Paints.nothing.congr ?_
        ext p
        -- the glyphs further on fit even less
        have hnone : ¬ p ∈ runArea area glyphWidth advance x y (character :: text) := by
          rintro ⟨k, _, _, hfits, _⟩
          omega
        simp only [hnone, Set.mem_empty_iff_false]
      · simp only [if_neg hfull]
        refine ((hdraw x character).andThen (ih (x + advance))).congr ?_
        ext p
        constructor
        · rintro (hfirst | ⟨k, next, hget, hfits, hp⟩)
          · exact ⟨0, character, rfl, by simpa using hfull, by simpa using hfirst⟩
          · exact ⟨k + 1, next, by simpa using hget, by rwa [hstep], by rwa [hstep]⟩
        · rintro ⟨k, next, hget, hfits, hp⟩
          cases k with
          | zero =>
              left
              obtain rfl : character = next := by simpa using hget
              simpa using hp
          | succ k =>
              right
              rw [hstep] at hfits hp
              exact ⟨k, next, by simpa using hget, hfits, hp⟩

theorem paints_drawGlyph (x y : Nat) (character : Char) :
    Paints lit (fun c => c.drawGlyph x y character) (glyphArea x y character) := by
  unfold drawGlyph glyphArea
  exact paints_stamp _ _ _

theorem paints_drawCompactGlyph (x y : Nat) (character : Char) :
    Paints lit (fun c => c.drawCompactGlyph x y character) (compactGlyphArea x y character) := by
  unfold drawCompactGlyph compactGlyphArea
  exact paints_stamp _ _ _

theorem paints_text (x y : Nat) (text : String) :
    Paints lit (fun c => Canvas.text c x y text) (textArea x y text) := by
  unfold Canvas.text textArea
  exact paints_textRun (fun x character => paints_drawGlyph x y character) text.toList x

theorem paints_compactText (x y : Nat) (text : String) :
    Paints lit (fun c => c.compactText x y text) (compactTextArea x y text) := by
  unfold compactText compactTextArea
  exact paints_textRun (fun x character => paints_drawCompactGlyph x y character) text.toList x

theorem paints_compactWrapped (x y : Nat) (text : String) (maxChars maxLines : Nat)
    [NeZero maxChars] :
    Paints lit (fun c => c.compactWrapped x y text maxChars maxLines)
      (wrappedArea x y text maxChars maxLines) := by
  unfold compactWrapped wrappedArea
  exact Paints.foldl fun line _ => paints_compactText x (y + line.2 * (compactHeight + 1)) line.1

theorem paints_hline (fromX toX y : Nat) :
    Paints lit (fun c => c.hline fromX toX y) (hlineArea fromX toX y) := by
  unfold hline hlineArea
  exact Paints.foldl fun x _ => paints_setPixel x y

theorem paints_pair (x y x' y' : Nat) :
    Paints lit (fun c => (c.setPixel x y).setPixel x' y') (dot x y ∪ dot x' y') := by
  intro c
  show ((c.setPixel x y).setPixel x' y').lit = _
  rw [paints_setPixel x' y' (c.setPixel x y), paints_setPixel x y c, Set.union_assoc]
  rfl

theorem paints_frame (x y width height : Nat) :
    Paints lit (fun c => c.frame x y width height) (frameArea x y width height) := by
  have hrows : Paints lit (fun c => (span (x + 2) (x + width - 2)).foldl
      (fun c column => (c.setPixel column y).setPixel column (y + height - 1)) c)
      {p | ∃ column ∈ span (x + 2) (x + width - 2),
        p ∈ dot column y ∪ dot column (y + height - 1)} :=
    Paints.foldl fun column _ => paints_pair column y column (y + height - 1)
  have hcolumns : Paints lit (fun c => (span (y + 2) (y + height - 2)).foldl
      (fun c row => (c.setPixel x row).setPixel (x + width - 1) row) c)
      {p | ∃ row ∈ span (y + 2) (y + height - 2), p ∈ dot x row ∪ dot (x + width - 1) row} :=
    Paints.foldl fun row _ => paints_pair x row (x + width - 1) row
  have hcorners : Paints lit
      (fun c => [(1, 1), (width - 2, 1), (1, height - 2), (width - 2, height - 2)].foldl
        (fun c corner => c.setPixel (x + corner.1) (y + corner.2)) c)
      {p | ∃ corner ∈ [(1, 1), (width - 2, 1), (1, height - 2), (width - 2, height - 2)],
        p ∈ dot (x + corner.1) (y + corner.2)} :=
    Paints.foldl fun corner _ => paints_setPixel (x + corner.1) (y + corner.2)
  intro c
  unfold frame frameArea
  dsimp only
  rw [hcorners, hcolumns, hrows]
  simp only [Set.union_assoc]

theorem paints_header (callsign : String) :
    Paints lit (fun c => c.header callsign) (headerArea callsign) := by
  intro c
  unfold header headerArea
  dsimp only
  rw [paints_hline, paints_text, Set.union_assoc]

theorem paints_buttonGlyph (answerIndex x y : Nat) :
    Paints lit (fun c => c.buttonGlyph answerIndex x y) (buttonArea answerIndex x y) := by
  unfold buttonGlyph buttonArea
  exact paints_stamp _ _ _

theorem paints_answerPanel (index x y : Nat) (label : String) :
    Paints lit (fun c => c.answerPanel index x y label) (answerPanelArea index x y label) := by
  intro c
  unfold answerPanel answerPanelArea labelArea
  dsimp only
  rw [paints_compactWrapped, paints_buttonGlyph, paints_frame]
  simp only [Set.union_assoc]

/-- **The question screen**: its header, its prompt and its four panels,
whatever was on the canvas before. -/
theorem lit_question (c : Canvas) (callsign : String) (question : Question) :
    (c.question callsign question).lit
      = headerArea callsign ∪ promptArea question.prompt
        ∪ {p | ∃ index ∈ List.finRange 4, p ∈ answerPanelArea index (panelOrigin index).1
            (panelOrigin index).2 (question.answers.get index)} := by
  have hpanels := Paints.foldl (fun (index : Fin 4) (_ : index ∈ List.finRange 4) =>
    paints_answerPanel index (panelOrigin index).1 (panelOrigin index).2
      (question.answers.get index))
  unfold Canvas.question promptArea
  dsimp only
  rw [hpanels, paints_compactWrapped, paints_header, lit_clear, Set.empty_union]

end Canvas

end DurableTrivia.BadgeScreen

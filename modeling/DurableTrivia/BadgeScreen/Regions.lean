import DurableTrivia.BadgeScreen.Drawing

/-!
# Regions — where the parts of the question screen are

The routines of the question screen keep to their boxes: a glyph to its
cell, a wrapped text to its lines, a frame to the border of its panel. So
the label box of a panel shows the label of that panel and nothing else
(`lit_label`).
-/

namespace DurableTrivia.BadgeScreen

open DurableTrivia.Shared

/-- The label of a panel: two lines of eleven glyphs. -/
def labelBox (index : Fin 4) : Set Pixel :=
  box ((panelOrigin index).1 + 14) ((panelOrigin index).2 + 3) 43 11

variable {p : Pixel} {x y : Nat}

/-! ## The routines keep to their boxes -/

theorem mem_stampArea {lines : List (Nat → Bool)} {run : Nat} {pixel : Nat → Nat → Pixel} :
    p ∈ stampArea lines run pixel ↔ ∃ i j line, lines[i]? = some line ∧ j < run
      ∧ line j = true ∧ p = pixel i j ∧ p ∈ panel := by
  constructor
  · rintro ⟨⟨line, i⟩, hline, j, hj, hlit, hp, hon⟩
    exact ⟨i, j, line, List.mem_zipIdx_iff_getElem?.mp hline, List.mem_range.mp hj, hlit, hp, hon⟩
  · rintro ⟨i, j, line, hline, hj, hlit, hp, hon⟩
    exact ⟨⟨line, i⟩, List.mem_zipIdx_iff_getElem?.mpr hline, j, List.mem_range.mpr hj, hlit, hp,
      hon⟩

/-- A bitmap keeps to its lines and runs. -/
theorem exists_of_mem_stampArea {lines : List (Nat → Bool)} {run : Nat}
    {pixel : Nat → Nat → Pixel} (h : p ∈ stampArea lines run pixel) :
    ∃ i < lines.length, ∃ j < run, p = pixel i j := by
  obtain ⟨i, j, line, hline, hj, _, hp, _⟩ := mem_stampArea.mp h
  exact ⟨i, (List.getElem?_eq_some_iff.mp hline).1, j, hj, hp⟩

theorem glyphArea_subset (character : Char) : glyphArea x y character ⊆ box x y glyphWidth 7 := by
  intro p hp
  obtain ⟨column, hcolumn, row, hrow, rfl⟩ := exists_of_mem_stampArea hp
  rw [List.length_map, length_glyph] at hcolumn
  simp only [box, glyphWidth, Set.mem_ofPred_eq]
  omega

theorem compactGlyphArea_subset (character : Char) :
    compactGlyphArea x y character ⊆ box x y compactWidth compactHeight := by
  intro p hp
  obtain ⟨row, hrow, column, hcolumn, rfl⟩ := exists_of_mem_stampArea hp
  rw [List.length_map, length_compactGlyph] at hrow
  simp only [box, compactHeight, Set.mem_ofPred_eq]
  omega

theorem buttonArea_subset (answerIndex : Nat) : buttonArea answerIndex x y ⊆ box x y 10 10 := by
  intro p hp
  obtain ⟨row, hrow, column, hcolumn, rfl⟩ := exists_of_mem_stampArea hp
  rw [List.length_map, buttonRows, List.length_map, List.length_range] at hrow
  simp only [box, Set.mem_ofPred_eq]
  omega

theorem exists_of_mem_runArea {area : Nat → Nat → Char → Set Pixel} {glyphWidth advance : Nat}
    {text : List Char} (h : p ∈ runArea area glyphWidth advance x y text) :
    ∃ k < text.length, ∃ character, p ∈ area (x + advance * k) y character := by
  obtain ⟨k, character, hget, _, hp⟩ := h
  exact ⟨k, (List.getElem?_eq_some_iff.mp hget).1, character, hp⟩

/-- Full-size text keeps to its seven rows. -/
theorem textArea_rows {text : String} (h : p ∈ textArea x y text) : y ≤ p.2 ∧ p.2 < y + 7 := by
  obtain ⟨k, _, character, hp⟩ := exists_of_mem_runArea h
  exact (glyphArea_subset character hp).2

theorem compactTextArea_subset (text : String) :
    compactTextArea x y text ⊆ box x y (4 * text.length - 1) compactHeight := by
  intro p hp
  obtain ⟨k, hk, character, hp⟩ := exists_of_mem_runArea hp
  obtain ⟨hcolumns, hrows⟩ := compactGlyphArea_subset character hp
  refine ⟨?_, hrows⟩
  unfold compactAdvance compactWidth at hcolumns
  rw [String.length_toList] at hk
  omega

/-- **A wrapped text keeps to its lines.** -/
theorem wrappedArea_subset (text : String) {maxChars maxLines : Nat} [NeZero maxChars]
    (hlines : 0 < maxLines) :
    wrappedArea x y text maxChars maxLines ⊆ box x y (4 * maxChars - 1) (6 * maxLines - 1) := by
  rintro p ⟨⟨line, number⟩, hline, hp⟩
  have hget := List.mem_zipIdx_iff_getElem?.mp hline
  have hroom : (wrapChars text.toList maxChars maxLines).length ≤ maxLines
      ∧ ∀ line ∈ wrapChars text.toList maxChars maxLines, line.length ≤ maxChars :=
    length_wrapChars hlines text.toList
  obtain ⟨hcount, hwidth⟩ := hroom
  have hnumber : number < maxLines := by
    have hlength := (List.getElem?_eq_some_iff.mp hget).1
    rw [wrap, List.length_map] at hlength
    omega
  have hchars : line.length ≤ maxChars := by
    obtain ⟨chars, hchars, rfl⟩ := List.mem_map.mp (List.mem_of_getElem? hget)
    rw [String.length_ofList]
    exact hwidth chars hchars
  obtain ⟨hcolumns, hrows⟩ := compactTextArea_subset line hp
  unfold compactHeight at hrows
  dsimp only at hrows
  constructor
  · omega
  · omega

/-- A frame keeps to the border of its panel. -/
theorem frameArea_border {width height : Nat} (hwidth : 4 ≤ width) (hheight : 4 ≤ height)
    (h : p ∈ frameArea x y width height) :
    p ∈ box x y width height ∧ p ∉ box (x + 2) (y + 1) (width - 4) (height - 2) := by
  unfold frameArea at h
  simp only [Set.mem_union, Set.mem_ofPred_eq, span, List.mem_range'_1, dot, List.mem_cons,
    List.not_mem_nil, or_false] at h
  simp only [box, Set.mem_ofPred_eq]
  -- top and bottom edge, left and right edge, the rounded corners
  rcases h with (⟨column, hcolumn, h⟩ | ⟨row, hrow, h⟩) | ⟨corner, hcorner, rfl, _⟩
  · rcases h with ⟨rfl, _⟩ | ⟨rfl, _⟩
    · dsimp only
      omega
    · dsimp only
      omega
  · rcases h with ⟨rfl, _⟩ | ⟨rfl, _⟩
    · dsimp only
      omega
    · dsimp only
      omega
  · rcases hcorner with rfl | rfl | rfl | rfl
    · dsimp only
      omega
    · dsimp only
      omega
    · dsimp only
      omega
    · dsimp only
      omega

/-! ## The parts of the question screen -/

theorem headerArea_rows {callsign : String} (h : p ∈ headerArea callsign) : p.2 < 9 := by
  rcases h with htext | ⟨column, _, rfl, _⟩
  · have hrows := textArea_rows htext
    omega
  · exact Nat.lt_succ_self 8

theorem promptArea_rows {prompt : String} (h : p ∈ promptArea prompt) : 11 ≤ p.2 ∧ p.2 < 28 := by
  obtain ⟨_, hrows⟩ := wrappedArea_subset prompt (by decide) h
  unfold headlineY promptLines at hrows
  omega

theorem answerPanelArea_subset (index : Nat) (label : String) :
    answerPanelArea index x y label ⊆ box x y answerPanelWidth answerPanelHeight := by
  rintro p ((hframe | hbutton) | hlabel)
  · exact (frameArea_border (by decide) (by decide) hframe).1
  · have hbox := buttonArea_subset index hbutton
    simp only [box, answerPanelWidth, answerPanelHeight, Set.mem_ofPred_eq] at hbox ⊢
    omega
  · have hbox := wrappedArea_subset label (by decide) hlabel
    simp only [box, answerPanelWidth, answerPanelHeight, answerLabelChars, answerLabelLines,
      Set.mem_ofPred_eq] at hbox ⊢
    omega

/-- The frame and the button glyph leave the label alone. -/
theorem not_mem_labelBox {index : Fin 4}
    (h : p ∈ frameArea (panelOrigin index).1 (panelOrigin index).2 answerPanelWidth
        answerPanelHeight
      ∪ buttonArea index ((panelOrigin index).1 + 2) ((panelOrigin index).2 + 3)) :
    p ∉ labelBox index := by
  intro hlabel
  unfold labelBox at hlabel
  rcases h with hframe | hbutton
  · have hborder := (frameArea_border (by decide) (by decide) hframe).2
    simp only [box, answerPanelWidth, answerPanelHeight, Set.mem_ofPred_eq] at hborder hlabel
    omega
  · have hbox := buttonArea_subset _ hbutton
    simp only [box, Set.mem_ofPred_eq] at hbox hlabel
    omega

/-- The panels are apart. -/
theorem eq_of_mem_panels {i j : Fin 4}
    (hi : p ∈ box (panelOrigin i).1 (panelOrigin i).2 answerPanelWidth answerPanelHeight)
    (hj : p ∈ box (panelOrigin j).1 (panelOrigin j).2 answerPanelWidth answerPanelHeight) :
    i = j := by
  unfold box answerPanelWidth answerPanelHeight at hi hj
  simp only [Set.mem_ofPred_eq] at hi hj
  -- the panels start 65 columns and 18 rows apart
  fin_cases i <;> fin_cases j <;> first | rfl | (simp only [panelOrigin] at hi hj; omega)

theorem labelBox_subset (index : Fin 4) :
    labelBox index
      ⊆ box (panelOrigin index).1 (panelOrigin index).2 answerPanelWidth answerPanelHeight := by
  intro p hp
  unfold labelBox at hp
  simp only [box, answerPanelWidth, answerPanelHeight, Set.mem_ofPred_eq] at hp ⊢
  omega

theorem panelOrigin_low (index : Fin 4) : 30 ≤ (panelOrigin index).2 := by
  fin_cases index <;> decide

/-- **A label box shows its label and nothing else.** -/
theorem lit_label (c : Canvas) (callsign : String) (question : Question) {index : Fin 4}
    (hp : p ∈ labelBox index) :
    p ∈ (c.question callsign question).lit
      ↔ p ∈ labelArea (panelOrigin index).1 (panelOrigin index).2 (question.answers.get index) := by
  have hlow : 30 ≤ p.2 := by
    have hrow := (labelBox_subset index hp).2.1
    have horigin := panelOrigin_low index
    omega
  -- header and prompt end above row 30, and the other panels are elsewhere
  rw [Canvas.lit_question]
  constructor
  · rintro ((hheader | hprompt) | ⟨other, _, hpanel⟩)
    · have hrows := headerArea_rows hheader
      omega
    · have hrows := promptArea_rows hprompt
      omega
    · have hown : other = index :=
        eq_of_mem_panels (answerPanelArea_subset other _ hpanel) (labelBox_subset index hp)
      subst hown
      rcases hpanel with hframe | hlabel
      · exact absurd hp (not_mem_labelBox hframe)
      · exact hlabel
  · intro hlabel
    exact Or.inr ⟨index, List.mem_finRange index, Or.inr hlabel⟩

end DurableTrivia.BadgeScreen

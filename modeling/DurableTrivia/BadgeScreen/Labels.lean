import DurableTrivia.BadgeScreen.Regions

/-!
# Labels — telling the four answers apart on the badge

An answer is wrapped into two lines of eleven characters and drawn in the
compact face, which knows neither accents nor case. The picture of a label
gives back the folded characters of its lines (`labelPicture_eq_iff`), and
these the words the two lines have room for. Two answers look alike
exactly when the accents and the case folded away leave them the same
longest beginning that fits (`answers_told_apart_iff`).
-/

namespace DurableTrivia.BadgeScreen

open DurableTrivia.Shared DurableTrivia.Lib.Filling

/-- What the label box of a panel shows. -/
def labelPicture (c : Canvas) (index : Fin 4) : Fin 43 → Fin 11 → Bool := fun dx dy =>
  c.isLit ((panelOrigin index).1 + 14 + dx) ((panelOrigin index).2 + 3 + dy)

/-- The character in a cell of the label; behind the text it is blank. -/
def cellAt (lines : List (List Char)) (line cell : Nat) : Char := (lines.getD line []).getD cell ' '

/-- The lines of a label, as characters. -/
def labelLines (label : String) : List (List Char) :=
  wrapChars label.toList answerLabelChars answerLabelLines

/-- The lines of a label as the face draws them. -/
def foldedLines (label : String) : List (List Char) := (labelLines label).map (List.map fold)

/-- What the lines of a label can be broken after, as the face draws it. -/
def foldedPieces (label : String) : List (List Char) :=
  (pieces answerLabelChars label.toList).map (List.map fold)

/-- Two answers of which the same words, without accents and case, are the
longest beginning that two lines of eleven characters hold. -/
def LooksAlike (a b : String) : Prop :=
  ∃ shown, LongestFit (fitsLine answerLabelChars) answerLabelLines (foldedPieces a) shown
    ∧ LongestFit (fitsLine answerLabelChars) answerLabelLines (foldedPieces b) shown

/-! ## The cells of a label -/

/-- A bit of a glyph of the compact face. -/
def glyphBit (character : Char) (row column : Nat) : Bool :=
  bit ((compactGlyph character).getD row 0) column

theorem glyphBit_space (row column : Nat) : glyphBit ' ' row column = false := by
  have hblank : compactGlyph ' ' = [0, 0, 0, 0, 0] := by decide +kernel
  have hrow : ([0, 0, 0, 0, 0] : List UInt8).getD row 0 = 0 := by
    rw [List.getD_eq_getElem?_getD]
    rcases row with _ | _ | _ | _ | _ | row <;> rfl
  unfold glyphBit bit
  rw [hblank, hrow, UInt8.zero_and]
  rfl

/-- **A glyph is known by its bits.** -/
theorem compactGlyph_ext {c d : Char}
    (h : ∀ row < 5, ∀ column < 3, glyphBit c row column = glyphBit d row column) :
    compactGlyph c = compactGlyph d := by
  have hnarrow : (compactFont.all fun glyph => glyph.all fun bits => decide (bits.toNat < 8))
      = true := by decide +kernel
  simp only [List.all_eq_true, decide_eq_true_eq] at hnarrow
  have htable : ∀ i j : Fin 8,
      (∀ column < 3, bit (UInt8.ofNat i) column = bit (UInt8.ofNat j) column) → i = j := by
    decide +kernel
  apply List.ext_getElem
  · rw [length_compactGlyph, length_compactGlyph]
  · intro row hrow hrow'
    have hc := hnarrow _ (compactGlyph_mem c) _ (List.getElem_mem hrow)
    have hd := hnarrow _ (compactGlyph_mem d) _ (List.getElem_mem hrow')
    have hbits :
        ∀ column < 3, bit (compactGlyph c)[row] column = bit (compactGlyph d)[row] column := by
      intro column hcolumn
      have heq := h row (by rwa [length_compactGlyph] at hrow) column hcolumn
      unfold glyphBit at heq
      rwa [List.getD_eq_getElem _ _ hrow, List.getD_eq_getElem _ _ hrow'] at heq
    have hsame := htable ⟨_, hc⟩ ⟨_, hd⟩
    simp only [UInt8.ofNat_toNat, Fin.mk.injEq] at hsame
    exact UInt8.toNat_inj.mp (hsame hbits)

theorem cellAt_of_getElem? {lines : List (List Char)} {chars : List Char} {character : Char}
    {i j : Nat} (hline : lines[i]? = some chars) (hcell : chars[j]? = some character) :
    cellAt lines i j = character := by
  unfold cellAt
  rw [List.getD_eq_getElem?_getD, List.getD_eq_getElem?_getD, hline, Option.getD_some, hcell,
    Option.getD_some]

/-- A cell that is lit anywhere has a character of the text. -/
theorem exists_of_glyphBit {lines : List (List Char)} {i j row column : Nat}
    (h : glyphBit (cellAt lines i j) row column = true) :
    ∃ chars, lines[i]? = some chars ∧ chars[j]? = some (cellAt lines i j) := by
  unfold cellAt at h ⊢
  rw [List.getD_eq_getElem?_getD, List.getD_eq_getElem?_getD] at h ⊢
  cases hline : lines[i]? with
  | none => simp [hline, glyphBit_space] at h
  | some chars =>
      cases hcell : chars[j]? with
      | none => simp [hline, hcell, glyphBit_space] at h
      | some character => exact ⟨chars, rfl, by simp [hcell]⟩

/-- A glyph's pixels are its bits. -/
theorem mem_compactGlyphArea {x y row column : Nat} {character : Char} :
    (x + column, y + row) ∈ compactGlyphArea x y character ↔ row < 5 ∧ column < 3
      ∧ glyphBit character row column = true ∧ (x + column, y + row) ∈ panel := by
  unfold compactGlyphArea glyphBit
  rw [mem_stampArea]
  constructor
  · rintro ⟨i, j, line, hline, hj, hlit, hp, hon⟩
    simp only [Prod.mk.injEq] at hp
    obtain rfl : row = i := by omega
    obtain rfl : column = j := by omega
    rw [List.getElem?_map] at hline
    obtain ⟨bits, hbits, rfl⟩ := Option.map_eq_some_iff.mp hline
    have hrow := (List.getElem?_eq_some_iff.mp hbits).1
    rw [length_compactGlyph] at hrow
    refine ⟨hrow, hj, ?_, hon⟩
    rwa [List.getD_eq_getElem?_getD, hbits]
  · rintro ⟨hrow, hcolumn, hlit, hon⟩
    have hlength : row < (compactGlyph character).length := by rwa [length_compactGlyph]
    rw [List.getD_eq_getElem _ _ hlength] at hlit
    refine ⟨row, column, bit (compactGlyph character)[row], ?_, hcolumn, hlit, rfl, hon⟩
    rw [List.getElem?_map, List.getElem?_eq_getElem hlength]
    rfl

/-- **A pixel of a label is a bit of the glyph in its cell.** -/
theorem mem_labelArea {x y dx dy : Nat} (label : String) (hx : x + 57 ≤ width)
    (hy : y + 14 ≤ height) (hdx : dx < 43) (hdy : dy < 11) :
    (x + 14 + dx, y + 3 + dy) ∈ labelArea x y label ↔ dy % 6 < 5 ∧ dx % 4 < 3
      ∧ glyphBit (cellAt (labelLines label) (dy / 6) (dx / 4)) (dy % 6) (dx % 4) = true := by
  have hposition : (x + 14 + dx, y + 3 + dy)
      = (x + 14 + compactAdvance * (dx / 4) + dx % 4,
        y + 3 + dy / 6 * (compactHeight + 1) + dy % 6) := by
    unfold compactAdvance compactHeight
    rw [Prod.mk.injEq]
    omega
  unfold labelArea wrappedArea wrap
  rw [← labelLines]
  generalize labelLines label = lines
  constructor
  · rintro ⟨⟨line, number⟩, hline, k, character, hget, _, hglyph⟩
    have hline := List.mem_zipIdx_iff_getElem?.mp hline
    rw [List.getElem?_map] at hline
    obtain ⟨chars, hchars, rfl⟩ := Option.map_eq_some_iff.mp hline
    rw [String.toList_ofList] at hget
    -- the position tells the line and the cell
    have hcell : number = dy / 6 ∧ k = dx / 4 := by
      have hbox := compactGlyphArea_subset character hglyph
      simp only [box, compactAdvance, compactWidth, compactHeight, Set.mem_ofPred_eq] at hbox
      omega
    obtain ⟨rfl, rfl⟩ := hcell
    rw [hposition] at hglyph
    obtain ⟨hrow, hcolumn, hlit, _⟩ := mem_compactGlyphArea.mp hglyph
    rw [cellAt_of_getElem? hchars hget]
    exact ⟨hrow, hcolumn, hlit⟩
  · rintro ⟨hrow, hcolumn, hlit⟩
    obtain ⟨chars, hchars, hcell⟩ := exists_of_glyphBit hlit
    generalize cellAt lines (dy / 6) (dx / 4) = character at hlit hcell
    have hwidth : width = 128 := rfl
    have hheight : height = 64 := rfl
    refine ⟨⟨String.ofList chars, dy / 6⟩, ?_, dx / 4, character, ?_, ?_, ?_⟩
    · rw [List.mem_zipIdx_iff_getElem?, List.getElem?_map, hchars]
      rfl
    · rw [String.toList_ofList]
      exact hcell
    · unfold compactAdvance compactWidth
      omega
    · rw [hposition]
      refine mem_compactGlyphArea.mpr ⟨hrow, hcolumn, hlit, ?_⟩
      rw [← hposition]
      show x + 14 + dx < width ∧ y + 3 + dy < height
      omega

theorem panelOrigin_room (index : Fin 4) :
    (panelOrigin index).1 + 57 ≤ width ∧ (panelOrigin index).2 + 14 ≤ height := by
  fin_cases index <;> decide

/-- What a label shows is read off the cells of its lines. -/
theorem labelPicture_question (c : Canvas) (callsign : String) (question : Question)
    (index : Fin 4) (dx : Fin 43) (dy : Fin 11) :
    labelPicture (c.question callsign question) index dx dy = true ↔
      dy.val % 6 < 5 ∧ dx.val % 4 < 3
        ∧ glyphBit (cellAt (labelLines (question.answers.get index)) (dy / 6) (dx / 4))
          (dy % 6) (dx % 4) = true := by
  obtain ⟨hx, hy⟩ := panelOrigin_room index
  rw [← mem_labelArea _ hx hy dx.isLt dy.isLt]
  have hbox : ((panelOrigin index).1 + 14 + dx.val, (panelOrigin index).2 + 3 + dy.val)
      ∈ labelBox index := by
    have hdx := dx.isLt
    have hdy := dy.isLt
    simp only [labelBox, box, Set.mem_ofPred_eq]
    omega
  exact lit_label c callsign question hbox

/-- **Two labels are the same picture when their cells hold the same glyphs.** -/
theorem labelPicture_eq_iff_cells {c : Canvas} {callsign : String} {question : Question}
    {i j : Fin 4} :
    labelPicture (c.question callsign question) i = labelPicture (c.question callsign question) j ↔
      ∀ line < 2, ∀ cell < 11,
        compactGlyph (cellAt (labelLines (question.answers.get i)) line cell)
          = compactGlyph (cellAt (labelLines (question.answers.get j)) line cell) := by
  constructor
  · intro hsame line hline cell hcell
    apply compactGlyph_ext
    intro row hrow column hcolumn
    have hdx : 4 * cell + column < 43 := by omega
    have hdy : 6 * line + row < 11 := by omega
    have hposition : (6 * line + row) / 6 = line ∧ (6 * line + row) % 6 = row
        ∧ (4 * cell + column) / 4 = cell ∧ (4 * cell + column) % 4 = column := by omega
    obtain ⟨hdiv, hmod, hdiv', hmod'⟩ := hposition
    have hi := labelPicture_question c callsign question i ⟨_, hdx⟩ ⟨_, hdy⟩
    have hj := labelPicture_question c callsign question j ⟨_, hdx⟩ ⟨_, hdy⟩
    rw [hsame, hj] at hi
    simp only [hdiv, hmod, hdiv', hmod', hrow, hcolumn, true_and] at hi
    exact Bool.eq_iff_iff.mpr hi.symm
  · intro hcells
    ext dx dy
    have hdx := dx.isLt
    have hdy := dy.isLt
    apply Bool.eq_iff_iff.mpr
    rw [labelPicture_question, labelPicture_question]
    unfold glyphBit
    rw [hcells _ (by omega) _ (by omega)]

/-! ## The characters of a label -/

/-- What folds onto the space is whitespace, so no piece holds it. -/
theorem fold_space {c : Char} (h : fold c = ' ') : isWhitespace c = true := by
  have hfolded := folded_fold c
  rw [h] at hfolded
  generalize hspace : ' ' = folded at hfolded
  cases hfolded with
  | ascii h =>
      subst hspace
      exact absurd h (by decide)
  | space h =>
      have htable : ∀ c ∈ hardSpaces, isWhitespace c = true := by
        simp [hardSpaces, isWhitespace]
      exact htable c h
  | upper =>
      have hcode : c.toNat = 32 := by
        have h32 : (' ' : Char).toNat = c.toUpper.toNat := by rw [hspace]
        rw [toNat_toUpper] at h32
        change 32 = _ at h32
        split at h32 <;> omega
      unfold isWhitespace
      simp [hcode]


/-- Pieces of a label hold no space. -/
structure Spaceless (line : List (List Char)) : Prop where
  nonempty : ∀ piece ∈ line, piece ≠ []
  spaceless : ∀ piece ∈ line, ' ' ∉ piece

theorem spaceless_foldedPieces (label : String) : Spaceless (foldedPieces label) where
  nonempty := by
    intro piece hpiece
    obtain ⟨chars, hchars, rfl⟩ := List.mem_map.mp hpiece
    simpa using pieces_ne_nil chars hchars
  spaceless := by
    intro piece hpiece hspace
    obtain ⟨chars, hchars, rfl⟩ := List.mem_map.mp hpiece
    obtain ⟨c, hc, hfold⟩ := List.mem_map.mp hspace
    have hblank := fold_space hfold
    have hshown := (List.mem_filter.mp (visible_of_mem_pieces hchars hc)).2
    simp [hblank] at hshown

/-- So do the lines they are filled into. -/
theorem Spaceless.of_fill {line items : List (List Char)} (h : Spaceless items)
    (hline : line ∈ fill (fitsLine answerLabelChars) [] items) : Spaceless line where
  nonempty := fun piece hpiece => h.nonempty piece (mem_of_mem_fill _ hline piece hpiece)
  spaceless := fun piece hpiece => h.spaceless piece (mem_of_mem_fill _ hline piece hpiece)

/-- The pieces of a line are read off its characters. -/
theorem splitOn_joined {line : List (List Char)} (h : Spaceless line) (hne : line ≠ []) :
    (joined line).splitOn ' ' = line :=
  List.splitOn_intercalate ' ' h.spaceless hne

/-- A line does not end in a space. -/
theorem getLast_joined {line : List (List Char)} (h : Spaceless line) (hne : joined line ≠ []) :
    (joined line).getLast hne ≠ ' ' := by
  have hline : line ≠ [] := fun hnil => hne (by rw [hnil, joined_nil])
  obtain ⟨before, piece, rfl⟩ := (List.eq_nil_or_concat' line).resolve_left hline
  have hmem : piece ∈ before ++ [piece] := by simp
  -- a line ends as its last piece does
  have hlast : ∃ start, joined (before ++ [piece]) = start ++ piece := by
    by_cases hbefore : before = []
    · exact ⟨[], by simp [hbefore]⟩
    · exact ⟨joined before ++ [' '], by rw [joined_append hbefore (by simp)]; simp⟩
  obtain ⟨start, hstart⟩ := hlast
  intro hspace
  simp only [hstart, List.getLast_append_of_ne_nil _ (h.nonempty piece hmem)] at hspace
  apply h.spaceless piece hmem
  rw [← hspace]
  exact List.getLast_mem _

/-- What a folded label is broken into, and the lines it makes. -/
theorem foldedLines_eq (label : String) :
    foldedLines label = ((fill (fitsLine answerLabelChars) [] (foldedPieces label)).take
      answerLabelLines).map joined := by
  have hjoin (line : List (List Char)) :
      joined (line.map (List.map fold)) = (joined line).map fold := by
    induction line with
    | nil => rfl
    | cons piece line ih =>
        by_cases hline : line = []
        · simp [hline]
        · rw [← List.singleton_append, joined_append (by simp) hline, List.map_append,
            joined_append (by simp) (by simpa using hline), ih]
          simp [show fold ' ' = ' ' from by decide +kernel]
  have hfits (line : List (List Char)) :
      fitsLine answerLabelChars (line.map (List.map fold)) = fitsLine answerLabelChars line := by
    unfold fitsLine
    rw [hjoin, List.length_map]
  unfold foldedLines labelLines foldedPieces
  rw [wrapChars_eq_fill (by decide), ← List.map_nil (f := List.map fold), fill_map _ hfits,
    ← List.map_take, ← List.map_take, List.map_map, List.map_map]
  exact List.map_congr_left fun line _ => (hjoin line).symm

/-- Lists that do not end in the padding are told apart by their padded
entries. -/
theorem eq_of_getD {α : Type*} {l l' : List α} (pad : α) {count : Nat} (hlength : l.length ≤ count)
    (hlength' : l'.length ≤ count) (hlast : ∀ hne, l.getLast hne ≠ pad)
    (hlast' : ∀ hne, l'.getLast hne ≠ pad) (h : ∀ i < count, l.getD i pad = l'.getD i pad) :
    l = l' := by
  have hle {a b : List α} (ha : a.length ≤ count) (hlast : ∀ hne, a.getLast hne ≠ pad)
      (h : ∀ i < count, a.getD i pad = b.getD i pad) : a.length ≤ b.length := by
    -- a longer list has an entry where the other has the padding
    by_contra hlonger
    have hpos : 0 < a.length := by omega
    have hentry := h (a.length - 1) (by omega)
    rw [List.getD_eq_getElem _ _ (by omega), List.getD_eq_default _ _ (by omega)] at hentry
    apply hlast (List.length_pos_iff.mp hpos)
    rw [List.getLast_eq_getElem]
    exact hentry
  have hsame : l.length = l'.length :=
    Nat.le_antisymm (hle hlength hlast h) (hle hlength' hlast' fun i hi => (h i hi).symm)
  apply List.ext_getElem hsame
  intro i hi hi'
  have hentry := h i (by omega)
  rwa [List.getD_eq_getElem _ _ hi, List.getD_eq_getElem _ _ hi'] at hentry

/-- The lines of a label end in a character that is drawn. -/
theorem foldedLines_tight (label : String) :
    (foldedLines label).length ≤ answerLabelLines
      ∧ ∀ line ∈ foldedLines label, line ≠ [] ∧ line.length ≤ answerLabelChars
        ∧ ∀ hne, line.getLast hne ≠ ' ' := by
  constructor
  · rw [foldedLines_eq, List.length_map]
    exact List.length_take_le ..
  · intro line hline
    have hwidth : line.length ≤ answerLabelChars := by
      obtain ⟨chars, hchars, rfl⟩ := List.mem_map.mp hline
      rw [List.length_map]
      exact (length_wrapChars (by decide) label.toList).2 chars hchars
    rw [foldedLines_eq] at hline
    obtain ⟨row, hrow, rfl⟩ := List.mem_map.mp hline
    have hfilled := List.mem_of_mem_take hrow
    have hspaceless := (spaceless_foldedPieces label).of_fill hfilled
    refine ⟨?_, hwidth, fun hne => getLast_joined hspaceless hne⟩
    rw [ne_eq, joined_eq_nil hspaceless.nonempty]
    exact fill_ne_nil _ row hfilled

theorem cellAt_map (lines : List (List Char)) (line cell : Nat) :
    cellAt (lines.map (List.map fold)) line cell = fold (cellAt lines line cell) := by
  have hblank : fold ' ' = ' ' := by decide +kernel
  unfold cellAt
  simp only [List.getD_eq_getElem?_getD, List.getElem?_map]
  cases lines[line]? with
  | none => simp [hblank]
  | some chars =>
      cases hcell : chars[cell]? with
      | none => simp [hcell, hblank]
      | some c => simp [hcell]

theorem foldedLines_row (label : String) (line : Nat) :
    ((foldedLines label).getD line []).length ≤ answerLabelChars
      ∧ ∀ hne, ((foldedLines label).getD line []).getLast hne ≠ ' ' := by
  rw [List.getD_eq_getElem?_getD]
  cases hrow : (foldedLines label)[line]? with
  | none => exact ⟨Nat.zero_le _, fun hne => absurd rfl hne⟩
  | some row => exact ((foldedLines_tight label).2 row (List.mem_of_getElem? hrow)).2

/-- The cells of a label give back its lines. -/
theorem foldedLines_eq_iff_cells {a b : String} :
    foldedLines a = foldedLines b ↔ ∀ line < 2, ∀ cell < 11,
      fold (cellAt (labelLines a) line cell) = fold (cellAt (labelLines b) line cell) := by
  simp only [← cellAt_map]
  rw [← foldedLines, ← foldedLines]
  constructor
  · intro hsame line _ cell _
    rw [hsame]
  · intro hcells
    obtain ⟨hcount, htight⟩ := foldedLines_tight a
    obtain ⟨hcount', htight'⟩ := foldedLines_tight b
    apply eq_of_getD [] hcount hcount'
    · intro hne
      exact (htight _ (List.getLast_mem hne)).1
    · intro hne
      exact (htight' _ (List.getLast_mem hne)).1
    · intro line hline
      obtain ⟨hwidth, hlast⟩ := foldedLines_row a line
      obtain ⟨hwidth', hlast'⟩ := foldedLines_row b line
      exact eq_of_getD ' ' hwidth hwidth' hlast hlast' fun cell hcell =>
        hcells line hline cell hcell

/-- The lines of a label give back what it has room for. -/
theorem take_fill_foldedPieces (label : String) :
    (fill (fitsLine answerLabelChars) [] (foldedPieces label)).take answerLabelLines
      = (foldedLines label).map (List.splitOn ' ') := by
  have hback : ∀ line ∈ (fill (fitsLine answerLabelChars) [] (foldedPieces label)).take
      answerLabelLines, (List.splitOn ' ' ∘ joined) line = id line := by
    intro line hline
    have hfilled := List.mem_of_mem_take hline
    exact splitOn_joined ((spaceless_foldedPieces label).of_fill hfilled)
      (fill_ne_nil _ line hfilled)
  rw [foldedLines_eq, List.map_map, List.map_congr_left hback, List.map_id]

/-- **A label shows its longest beginning that fits.** -/
theorem foldedLines_eq_iff {a b : String} : foldedLines a = foldedLines b ↔ LooksAlike a b := by
  have hfits (label : String) :
      ∀ piece ∈ foldedPieces label, fitsLine answerLabelChars [piece] = true := by
    intro piece hpiece
    obtain ⟨chars, hchars, rfl⟩ := List.mem_map.mp hpiece
    have hfit := pieces_fit chars hchars
    simpa [fitsLine] using hfit
  have hered := hereditary_fitsLine answerLabelChars
  have hshown (label : String) : LongestFit (fitsLine answerLabelChars) answerLabelLines
      (foldedPieces label) ((fill (fitsLine answerLabelChars) [] (foldedPieces label)).take
        answerLabelLines).flatten := longestFit_take_fill hered (hfits label)
  constructor
  · -- the lines are split into the pieces they show
    intro hsame
    refine ⟨_, hshown a, ?_⟩
    rw [take_fill_foldedPieces, hsame, ← take_fill_foldedPieces]
    exact hshown b
  · -- filling what is shown gives the lines again
    rintro ⟨shown, ha, hb⟩
    rw [foldedLines_eq, foldedLines_eq, ← fill_take_fill hered (hfits a),
      ← fill_take_fill hered (hfits b), (hshown a).eq ha, (hshown b).eq hb]

/-! ## Telling the answers apart -/

theorem mem_joined {line : List (List Char)} {c : Char} (h : c ∈ joined line) :
    c = ' ' ∨ c ∈ line.flatten := by
  induction line with
  | nil => cases h
  | cons piece line ih =>
      by_cases hline : line = []
      · right
        simpa [hline] using h
      · rw [← List.singleton_append, joined_append (by simp) hline, joined_singleton,
          List.mem_append, List.mem_cons] at h
        rw [List.flatten_cons, List.mem_append]
        rcases h with hpiece | hspace | hrest
        · exact Or.inr (Or.inl hpiece)
        · exact Or.inl hspace
        · exact (ih hrest).imp_right Or.inr

/-- The lines of a label hold its own characters, and spaces between them. -/
theorem mem_labelLines {label : String} {chars : List Char} (h : chars ∈ labelLines label)
    {c : Char}
    (hc : c ∈ chars) : c = ' ' ∨ c ∈ label.toList := by
  unfold labelLines at h
  rw [wrapChars_eq_fill (by decide)] at h
  obtain ⟨line, hline, rfl⟩ := List.mem_map.mp (List.mem_of_mem_take h)
  refine (mem_joined hc).imp_right fun hflat => ?_
  obtain ⟨piece, hpiece, hc⟩ := List.mem_flatten.mp hflat
  exact List.mem_of_mem_filter
    (visible_of_mem_pieces (mem_of_mem_fill _ hline piece hpiece) hc)

/-- The cells of a label hold what can be drawn. -/
theorem cellAt_renderable {label : String} (h : Renderable label) (line cell : Nat) :
    isRenderable (cellAt (labelLines label) line cell) = true := by
  have hspace : isRenderable ' ' = true := isRenderable_of_ascii (n := 32) (by decide)
  unfold cellAt
  rw [List.getD_eq_getElem?_getD, List.getD_eq_getElem?_getD]
  cases hline : (labelLines label)[line]? with
  | none => exact hspace
  | some chars =>
      rw [Option.getD_some]
      cases hcell : chars[cell]? with
      | none => exact hspace
      | some c =>
          rw [Option.getD_some]
          rcases mem_labelLines (List.mem_of_getElem? hline) (List.mem_of_getElem? hcell) with
            rfl | hmem
          · exact hspace
          · exact h c hmem

theorem labelPicture_eq_iff {c : Canvas} {callsign : String} {question : Question} {i j : Fin 4}
    (hi : Renderable (question.answers.get i)) (hj : Renderable (question.answers.get j)) :
    labelPicture (c.question callsign question) i = labelPicture (c.question callsign question) j ↔
      LooksAlike (question.answers.get i) (question.answers.get j) := by
  rw [labelPicture_eq_iff_cells, ← foldedLines_eq_iff, foldedLines_eq_iff_cells]
  constructor
  · intro hglyphs line hline cell hcell
    exact fold_eq_of_compactGlyph (cellAt_renderable hi line cell) (cellAt_renderable hj line cell)
      (hglyphs line hline cell hcell)
  · intro hcells line hline cell hcell
    unfold compactGlyph
    rw [hcells line hline cell hcell]

/-- **The answers can be told apart exactly when no two look alike.** -/
theorem answers_told_apart_iff (c : Canvas) (callsign : String) (question : Question)
    (hrenderable : ∀ i, Renderable (question.answers.get i)) :
    (∀ i j, i ≠ j → labelPicture (c.question callsign question) i
        ≠ labelPicture (c.question callsign question) j) ↔
      ∀ i j, i ≠ j → ¬ LooksAlike (question.answers.get i) (question.answers.get j) := by
  have hpair (i j : Fin 4) : labelPicture (c.question callsign question) i
        = labelPicture (c.question callsign question) j ↔
      LooksAlike (question.answers.get i) (question.answers.get j) :=
    labelPicture_eq_iff (hrenderable i) (hrenderable j)
  simp only [ne_eq, hpair]

theorem renderable_of_all {text : String} (h : text.toList.all isRenderable = true) :
    Renderable text := by
  intro c hc
  exact List.all_eq_true.mp h c hc

/-- A question of the shipped collection. -/
def brazilQuestion : Question :=
  { id := "otdb-2284-16e95af8", category := "general", difficulty := "medium"
    prompt := "What is the Portuguese word for \"Brazil\"?"
    answers := #v["Brasil", "Brazil", "Brasilia", "Brasíl"]
    correctIndex := 0 }

/-- **The right answer and a wrong one look alike**: the accent in which
they differ is folded away, and both labels read BRASIL. -/
theorem accented_answer_drawn_alike :
    Web.fits String.toLower brazilQuestion.prompt brazilQuestion.answers = true
      ∧ Renderable brazilQuestion.prompt ∧ (∀ i, Renderable (brazilQuestion.answers.get i))
      ∧ labelPicture (Canvas.new.question "BRAVE-CRAB" brazilQuestion) 0
        = labelPicture (Canvas.new.question "BRAVE-CRAB" brazilQuestion) 3 := by
  have hall : ∀ i, (brazilQuestion.answers.get i).toList.all isRenderable = true := by
    decide +kernel
  have hanswers := fun i => renderable_of_all (hall i)
  have hlines : foldedLines (brazilQuestion.answers.get 0)
      = foldedLines (brazilQuestion.answers.get 3) := by decide +kernel
  refine ⟨by decide +kernel, renderable_of_all (by decide +kernel), hanswers, ?_⟩
  exact (labelPicture_eq_iff (hanswers 0) (hanswers 3)).mpr (foldedLines_eq_iff.mp hlines)

/-- Four tools, four labels. -/
def toolsQuestion : Question :=
  { id := "rust-001", category := "rust", difficulty := "easy"
    prompt := "Which tool builds a Rust package?"
    answers := #v["Cargo", "Clippy", "Rustdoc", "Miri"]
    correctIndex := 0 }

theorem answers_told_apart_iff_tools :
    (∀ i, Renderable (toolsQuestion.answers.get i))
      ∧ ∀ i j, i ≠ j → labelPicture (Canvas.new.question "BRAVE-CRAB" toolsQuestion) i
        ≠ labelPicture (Canvas.new.question "BRAVE-CRAB" toolsQuestion) j := by
  have hall : ∀ i, (toolsQuestion.answers.get i).toList.all isRenderable = true := by
    decide +kernel
  have hanswers := fun i => renderable_of_all (hall i)
  have hlines : ∀ i j, i ≠ j → foldedLines (toolsQuestion.answers.get i)
      ≠ foldedLines (toolsQuestion.answers.get j) := by decide +kernel
  refine ⟨hanswers, (answers_told_apart_iff Canvas.new "BRAVE-CRAB" toolsQuestion hanswers).mpr ?_⟩
  intro i j hne halike
  exact hlines i j hne (foldedLines_eq_iff.mpr halike)

end DurableTrivia.BadgeScreen

import DurableTrivia.BadgeScreen.Wrap

/-!
# Words — what the lines of a wrapped text read back

The pieces `wrap` lays out hold no whitespace, so splitting its lines at
whitespace gives them back (`splitWhitespace_joined`): the words of the
text from the first on, and only a word longer than a line in parts.
-/

namespace DurableTrivia.BadgeScreen

open Lib Lib.Filling

/-- Pieces that are read back from a line as they are. -/
structure Words (line : List (List Char)) : Prop where
  nonempty : ∀ piece ∈ line, piece ≠ []
  unbroken : ∀ piece ∈ line, ∀ c ∈ piece, isWhitespace c = false

theorem Words.tail {piece : List Char} {rest : List (List Char)} (h : Words (piece :: rest)) :
    Words rest :=
  ⟨fun other hother => h.nonempty other (List.mem_cons_of_mem _ hother),
    fun other hother => h.unbroken other (List.mem_cons_of_mem _ hother)⟩

theorem splitWhitespace_joined {line : List (List Char)} (h : Words line) :
    splitWhitespace (joined line) = line := by
  induction line with
  | nil => rfl
  | cons piece rest ih =>
      have hpiece : piece ≠ [] := h.nonempty piece List.mem_cons_self
      have hunbroken : ∀ c ∈ piece, isWhitespace c = false := h.unbroken piece List.mem_cons_self
      have hrest := ih h.tail
      unfold splitWhitespace at hrest ⊢
      cases rest with
      | nil =>
          rw [joined_singleton, List.splitOnP_eq_singleton hunbroken]
          simp [hpiece]
      | cons next more =>
          rw [show piece :: next :: more = [piece] ++ (next :: more) from rfl,
            joined_append (by simp) (by simp), joined_singleton,
            List.splitOnP_append_cons_of_forall_mem hunbroken ' ' rfl, List.filter_cons_of_pos
              (by simp [hpiece]), hrest]
          rfl

section Lines
variable {maxChars maxLines : Nat} [NeZero maxChars]

theorem words_pieces (text : List Char) : Words (pieces maxChars text) := by
  refine ⟨pieces_ne_nil, fun piece hpiece c hc => ?_⟩
  have hvisible : c ∈ visible text := visible_of_mem_pieces hpiece hc
  simpa using (List.mem_filter.mp hvisible).2

/-- A line of the filling holds pieces of the text. -/
theorem words_of_mem_fill {text : List Char} {line : List (List Char)}
    (hline : line ∈ fill (fitsLine maxChars) [] (pieces maxChars text)) : Words line := by
  have hmem := mem_of_mem_fill (fitsLine maxChars) hline
  have hwords : Words (pieces maxChars text) := words_pieces text
  exact ⟨fun piece hpiece => hwords.nonempty piece (hmem piece hpiece),
    fun piece hpiece => hwords.unbroken piece (hmem piece hpiece)⟩

/-- The lines of `wrap`, each the pieces it joins. -/
theorem wrap_eq (hlines : 0 < maxLines) (text : String) :
    wrap text maxChars maxLines
      = ((fill (fitsLine maxChars) [] (pieces maxChars text.toList)).take maxLines).map
        fun line => String.ofList (joined line) := by
  rw [wrap, wrapChars_eq_fill hlines, ← List.map_take, List.map_map]
  rfl

/-- No line is empty, and none is longer than the width. -/
theorem line_of_mem_wrap (hlines : 0 < maxLines) {text line : String}
    (h : line ∈ wrap text maxChars maxLines) : line ≠ "" ∧ line.length ≤ maxChars := by
  rw [wrap_eq hlines] at h
  obtain ⟨row, hrow, rfl⟩ := List.mem_map.mp h
  have hfill := List.mem_of_mem_take hrow
  have hwords := words_of_mem_fill hfill
  constructor
  · intro hempty
    have hjoined : joined row = [] := by simpa using congrArg String.toList hempty
    exact fill_ne_nil _ row hfill ((joined_eq_nil hwords.nonempty).mp hjoined)
  · have hfits := fill_fits (fitsLine maxChars) (Or.inl rfl) pieces_fit row hfill
    simpa [fitsLine] using hfits

/-- **The pieces are read back from the lines**, from the first on. -/
theorem splitWhitespace_wrap (hlines : 0 < maxLines) (text : String) :
    (wrap text maxChars maxLines).flatMap (fun line => splitWhitespace line.toList)
      = ((fill (fitsLine maxChars) [] (pieces maxChars text.toList)).take maxLines).flatten := by
  rw [wrap_eq hlines, List.flatMap_map, List.flatten_eq_flatMap]
  refine List.flatMap_congr fun row hrow => ?_
  rw [String.toList_ofList]
  exact splitWhitespace_joined (words_of_mem_fill (List.mem_of_mem_take hrow))

/-- The parts of the words, only a long word in more than one. -/
theorem forall₂_cut (words : List (List Char)) :
    List.Forall₂ (fun word part => part.flatten = word ∧ (word.length ≤ maxChars → part = [word]))
      words (words.map (cut maxChars)) := by
  induction words with
  | nil => exact .nil
  | cons word words ih =>
      refine .cons ⟨cut_flatten word, fun hshort => ?_⟩ ih
      rw [cut, if_neg (by omega)]

/-- Lines left over means nothing was left out. -/
theorem take_fill_of_length_ne (hlines : 0 < maxLines) {text : String}
    (h : (wrap text maxChars maxLines).length ≠ maxLines) :
    (fill (fitsLine maxChars) [] (pieces maxChars text.toList)).drop maxLines = [] := by
  rw [wrap_eq hlines, List.length_map, List.length_take] at h
  rw [List.drop_eq_nil_iff]
  omega

/-- **`wrap` is bounded and faithful**: at most `maxLines` lines, none
empty or longer than `maxChars`; together they are the beginning of the
text, the whole of it unless all lines were needed; and the words read
back from them are the text's, a word in several parts only when it is
longer than a line. -/
theorem wrap_faithful (text : String) (maxChars maxLines : Nat) [NeZero maxChars]
    (hlines : 0 < maxLines) :
    (wrap text maxChars maxLines).length ≤ maxLines
      ∧ (∀ line ∈ wrap text maxChars maxLines, line ≠ "" ∧ line.length ≤ maxChars)
      ∧ visible ((wrap text maxChars maxLines).flatMap String.toList) <+: visible text.toList
      ∧ ((wrap text maxChars maxLines).length ≠ maxLines →
        visible ((wrap text maxChars maxLines).flatMap String.toList) = visible text.toList)
      ∧ ∃ parts, List.Forall₂ (fun word part => part.flatten = word
            ∧ (word.length ≤ maxChars → part = [word])) (splitWhitespace text.toList) parts
          ∧ (wrap text maxChars maxLines).flatMap (fun line => splitWhitespace line.toList)
            <+: parts.flatten := by
  obtain ⟨hshown, hparts⟩ := visible_wrap maxChars hlines text
  refine ⟨?_, fun line hline => line_of_mem_wrap hlines hline, ⟨_, hparts⟩, fun hmore => ?_,
    (splitWhitespace text.toList).map (cut maxChars), forall₂_cut _, ?_⟩
  · rw [wrap_eq hlines, List.length_map]
    exact List.length_take_le ..
  · rw [take_fill_of_length_ne hlines hmore] at hparts
    simpa using hparts
  · rw [splitWhitespace_wrap hlines, ← List.flatMap_def]
    have hall := flatten_fill (fitsLine maxChars) [] (pieces maxChars text.toList)
    rw [← List.take_append_drop maxLines (fill _ _ _), List.flatten_append] at hall
    exact ⟨_, hall⟩

theorem wrap_faithful_demo :
    0 < 2 ∧ (wrap "durable <marquee>" 4 2).length ≤ 2
      ∧ ∀ line ∈ wrap "durable <marquee>" 4 2, line ≠ "" ∧ line.length ≤ 4 := by
  obtain ⟨hcount, hlines, _⟩ := wrap_faithful "durable <marquee>" 4 2 (by decide)
  exact ⟨by decide, hcount, hlines⟩

end Lines

end DurableTrivia.BadgeScreen

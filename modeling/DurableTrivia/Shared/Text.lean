import DurableTrivia.BadgeScreen.Wrap
import DurableTrivia.Lib.Trim

/-!
# Text — the string functions the parsers call

`trim`, `lines`, `strip_prefix` and `split_once` of Rust's `str`, on the
characters of a text. A byte index of the source is the number of
characters before it.
-/

namespace DurableTrivia.Shared

open DurableTrivia.Lib
open DurableTrivia.BadgeScreen (isWhitespace)

/-- `str::trim`. -/
def trim (text : List Char) : List Char := trimBy isWhitespace text

/-- A line ending is `\n` or `\r\n`. -/
def stripReturn (line : List Char) : List Char :=
  if line.getLast? = some '\r' then line.dropLast else line

/-- `str::lines`: the pieces that a line feed ends, and what is behind the
last one if there is anything. -/
def lines (text : List Char) : List (List Char) :=
  let pieces := text.splitOnP (· == '\n')
  pieces.dropLast.map stripReturn ++ (pieces.getLast?.toList.filter fun last => !last.isEmpty)

/-- `str::strip_prefix(start).unwrap_or(self)`. -/
def stripStart (start text : List Char) : List Char :=
  if start.isPrefixOf text then text.drop start.length else text

/-- `str::split_once`. -/
def splitOnce (delimiter : Char) : List Char → Option (List Char × List Char)
  | [] => none
  | c :: text =>
    if c = delimiter then some ([], text)
    else (splitOnce delimiter text).map fun parts => (c :: parts.1, parts.2)

theorem lines_of_one_line {text : List Char} (hne : text ≠ []) (h : '\n' ∉ text) :
    lines text = [text] := by
  have hsplit : text.splitOnP (· == '\n') = [text] := by
    apply List.splitOnP_eq_singleton
    intro c hc
    exact beq_false_of_ne fun heq => h (heq ▸ hc)
  simp [lines, hsplit, hne]

theorem splitOnce_eq_none {delimiter : Char} {text : List Char} :
    splitOnce delimiter text = none ↔ delimiter ∉ text := by
  induction text with
  | nil => simp [splitOnce]
  | cons c text ih =>
      unfold splitOnce
      by_cases hc : c = delimiter
      · simp [hc]
      · simp [hc, ih, Ne.symm hc]

/-- The text is cut at its first delimiter. -/
theorem splitOnce_eq_some {delimiter : Char} {text before after : List Char} :
    splitOnce delimiter text = some (before, after)
      ↔ text = before ++ delimiter :: after ∧ delimiter ∉ before := by
  induction text generalizing before with
  | nil => simp [splitOnce]
  | cons c text ih =>
      unfold splitOnce
      by_cases hc : c = delimiter
      · rw [if_pos hc]
        constructor
        · intro h
          cases h
          exact ⟨by rw [hc]; rfl, List.not_mem_nil⟩
        · rintro ⟨htext, hnone⟩
          cases before with
          | nil =>
              cases htext
              rfl
          | cons b before =>
              cases htext
              exact absurd List.mem_cons_self (hc ▸ hnone)
      · rw [if_neg hc, Option.map_eq_some_iff]
        constructor
        · rintro ⟨⟨init, rest⟩, hsplit, hparts⟩
          cases hparts
          obtain ⟨htext, hnone⟩ := ih.mp hsplit
          refine ⟨by rw [htext]; rfl, ?_⟩
          simp [hnone, Ne.symm hc]
        · rintro ⟨htext, hnone⟩
          cases before with
          | nil =>
              cases htext
              exact absurd rfl hc
          | cons b before =>
              cases htext
              exact ⟨(before, after), ih.mpr ⟨rfl, fun h => hnone (List.mem_cons_of_mem _ h)⟩, rfl⟩

end DurableTrivia.Shared

import DurableTrivia.Lib.Bytes

/-!
# Fold — the characters the badge can draw

`fold` and `is_renderable` of `badge-screen/src/lib.rs`: accented Latin
letters and typographic punctuation become the capitals and the ASCII
punctuation the two faces have glyphs for.
-/

namespace DurableTrivia.BadgeScreen

/-- The range pattern `low..=high`. -/
def between (low high c : Char) : Bool :=
  decide (low ≤ c) && decide (c ≤ high)

/-- Folds a character onto the ASCII the font draws. -/
def fold (c : Char) : Char :=
  if between 'À' 'Å' c || between 'à' 'å' c then 'A'
  else if c == 'Ç' || c == 'ç' then 'C'
  else if between 'È' 'Ë' c || between 'è' 'ë' c then 'E'
  else if between 'Ì' 'Ï' c || between 'ì' 'ï' c then 'I'
  else if c == 'Ñ' || c == 'ñ' then 'N'
  else if between 'Ò' 'Ö' c || c == 'Ø' || between 'ò' 'ö' c || c == 'ø' then 'O'
  else if between 'Ù' 'Ü' c || between 'ù' 'ü' c then 'U'
  else if c == 'Ý' || c == 'ý' || c == 'ÿ' then 'Y'
  else if c == 'ß' then 'S'
  else if c == 'Æ' || c == 'æ' then 'A'
  else if c ∈ ['\u2018', '\u2019', '\u201B', '\u00B4', '\u0060'] then '\u0027'
  else if c ∈ ['\u201C', '\u201D', '\u201E', '\u00AB', '\u00BB'] then '\u0022'
  else if c ∈ ['\u2013', '\u2014', '\u2212'] then '-'
  else if c == '\u2026' then '.'
  else if c ∈ ['\u00A0', '\u2007', '\u202F'] then ' '
  else if c == '\u00D7' then 'X'
  else c.toUpper

/-- The punctuation the compact face draws. -/
def knownPunctuation : String := " -_.:/+,'\"()&!?;=<>%#*@|$[]\x7b\x7d^~\\"

/-- Whether the compact face can draw this character. -/
def isRenderable (c : Char) : Bool :=
  (fold c).isAlphanum || knownPunctuation.toList.contains (fold c)

/-- A text the badge can draw. -/
def Renderable (text : String) : Prop :=
  ∀ c ∈ text.toList, isRenderable c = true

/-- Printable ASCII can be drawn. -/
theorem isRenderable_of_ascii {n : Nat} (h : 32 ≤ n ∧ n ≤ 126) :
    isRenderable (Char.ofNat n) = true := by
  have htable : ∀ n ∈ List.range' 32 95, isRenderable (Char.ofNat n) = true := by decide +kernel
  apply htable
  rw [List.mem_range'_1]
  omega

/-! ## What folding leads to -/

/-- The ASCII that accents and typographic punctuation fold onto, the
space apart. -/
def foldTargets : List Char :=
  ['A', 'C', 'E', 'I', 'N', 'O', 'U', 'Y', 'S', '\u0027', '\u0022', '-', '.', 'X']

/-- The spaces that do not break a line fold onto the one that does. -/
def hardSpaces : List Char := ['\u00A0', '\u2007', '\u202F']

/-- What a character can fold onto. -/
inductive Folded (c : Char) : Char → Prop
  | ascii {folded : Char} (h : folded ∈ foldTargets) : Folded c folded
  | space (h : c ∈ hardSpaces) : Folded c ' '
  | upper : Folded c c.toUpper

theorem folded_fold (c : Char) : Folded c (fold c) := by
  have hput {p : Prop} [Decidable p] {folded other : Char} (hthen : p → Folded c folded)
      (helse : Folded c other) : Folded c (if p then folded else other) := by
    by_cases hp : p
    · rw [if_pos hp]
      exact hthen hp
    · rw [if_neg hp]
      exact helse
  unfold fold
  iterate 14 refine hput (fun _ => .ascii (by decide)) ?_
  exact hput (fun h => .space h) (hput (fun _ => .ascii (by decide)) .upper)

theorem toNat_toUpper (c : Char) :
    c.toUpper.toNat = if 97 ≤ c.toNat ∧ c.toNat ≤ 122 then c.toNat - 32 else c.toNat := by
  unfold Char.toUpper
  split
  · next h =>
      have hrange : 97 ≤ c.toNat ∧ c.toNat ≤ 122 := h
      have hdistance : ('A'.val - 'a'.val).toNat = 2 ^ 32 - 32 := by decide
      rw [if_pos hrange]
      show (c.val + ('A'.val - 'a'.val)).toNat = _
      rw [UInt32.toNat_add, hdistance]
      show (c.toNat + _) % _ = _
      omega
  · next h =>
      rw [if_neg]
      exact h

/-- Folding leaves no lower-case letter. -/
theorem fold_not_lower (c : Char) : ¬ (97 ≤ (fold c).toNat ∧ (fold c).toNat ≤ 122) := by
  have hfolded := folded_fold c
  generalize fold c = folded at hfolded
  cases hfolded with
  | ascii h =>
      have htable : ∀ folded ∈ foldTargets, ¬ (97 ≤ folded.toNat ∧ folded.toNat ≤ 122) := by
        simp [foldTargets]
      exact htable _ h
  | space _ => decide
  | upper =>
      rw [toNat_toUpper]
      split <;> omega

/-- A character that can be drawn folds onto printable ASCII, and onto
none of the lower-case letters. -/
theorem fold_renderable {c : Char} (h : isRenderable c = true) :
    32 ≤ (fold c).toNat ∧ (fold c).toNat ≤ 126
      ∧ ¬ (96 ≤ (fold c).toNat ∧ (fold c).toNat ≤ 122) := by
  have hlower := fold_not_lower c
  unfold isRenderable at h
  rcases Bool.or_eq_true_iff.mp h with hletter | hknown
  · have hrange := Lib.range_of_isAlphanum hletter
    omega
  · have htable : ∀ c ∈ knownPunctuation.toList,
        32 ≤ c.toNat ∧ c.toNat ≤ 126 ∧ ¬ (96 ≤ c.toNat ∧ c.toNat ≤ 122) := by
      simp [knownPunctuation]
    exact htable _ (by simpa using hknown)

end DurableTrivia.BadgeScreen

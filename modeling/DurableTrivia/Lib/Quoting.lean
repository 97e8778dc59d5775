import Mathlib

/-!
# Quoting — text between quotes, with an escape

Inside quotes an escape takes the entry behind it out of its role, and
`meaning` says what it stands for there. `Body` is what may stand between
the quotes, with its value. A scan that only counts finds the closing
quote of a body (`closing_of_body`), and where it finds one there is a
body before it (`body_of_closing`), so reading the body's value behind
the scan never comes to an escape with nothing behind it.
-/

namespace DurableTrivia.Lib

namespace Quoting

variable {α : Type*} [DecidableEq α]

/-- The text between two quotes, and what it stands for. -/
inductive Body (esc quote : α) (meaning : α → α) : List α → List α → Prop
  | nil : Body esc quote meaning [] []
  | plain {a : α} {text value : List α} (hesc : a ≠ esc) (hquote : a ≠ quote)
      (h : Body esc quote meaning text value) : Body esc quote meaning (a :: text) (a :: value)
  | escaped {a : α} {text value : List α} (h : Body esc quote meaning text value) :
      Body esc quote meaning (esc :: a :: text) (meaning a :: value)

/-- The position of the first quote that is not escaped; `escaped` when
the entry before the text was an escape. -/
def closing (esc quote : α) : Bool → List α → Option Nat
  | _, [] => none
  | true, _ :: text => (closing esc quote false text).map (· + 1)
  | false, a :: text =>
    if a = esc then (closing esc quote true text).map (· + 1)
    else if a = quote then some 0
    else (closing esc quote false text).map (· + 1)

/-- The value of a text, unless it ends in an escape. -/
def unescape (esc : α) (meaning : α → α) : List α → Option (List α)
  | [] => some []
  | [a] => if a = esc then none else some [a]
  | a :: b :: text =>
    if a = esc then (unescape esc meaning text).map (meaning b :: ·)
    else (unescape esc meaning (b :: text)).map (a :: ·)

variable {esc quote : α} {meaning : α → α} {text value : List α}

/-- **The scan ends a body at its quote.** -/
theorem closing_of_body (hne : quote ≠ esc) (h : Body esc quote meaning text value)
    (rest : List α) : closing esc quote false (text ++ quote :: rest) = some text.length := by
  induction h with
  | nil =>
      rw [List.nil_append, closing, if_neg hne, if_pos rfl]
      rfl
  | plain hesc hquote _ ih =>
      rw [List.cons_append, closing, if_neg hesc, if_neg hquote, ih]
      rfl
  | escaped _ ih =>
      rw [List.cons_append, List.cons_append, closing, if_pos rfl, closing, ih]
      rfl

/-- **Before the quote the scan finds there is a body.** -/
theorem body_of_closing {all : List α} {n : Nat} (h : closing esc quote false all = some n) :
    ∃ text value rest, all = text ++ quote :: rest ∧ text.length = n
      ∧ Body esc quote meaning text value := by
  -- the entry behind an escape is skipped, whatever it is
  have hboth : (∀ n, closing esc quote false all = some n →
        ∃ text value rest, all = text ++ quote :: rest ∧ text.length = n
          ∧ Body esc quote meaning text value)
      ∧ ∀ n, closing esc quote true all = some n →
        ∃ a text value rest, all = a :: (text ++ quote :: rest) ∧ text.length + 1 = n
          ∧ Body esc quote meaning text value := by
    clear h n
    induction all with
    | nil =>
        constructor
        · intro n h
          simp [closing] at h
        · intro n h
          simp [closing] at h
    | cons a all ih =>
        constructor
        · intro n h
          unfold closing at h
          by_cases hesc : a = esc
          · rw [if_pos hesc] at h
            obtain ⟨m, hm, rfl⟩ := Option.map_eq_some_iff.mp h
            obtain ⟨b, text, value, rest, hall, hlength, hbody⟩ := ih.2 m hm
            refine ⟨a :: b :: text, meaning b :: value, rest, by rw [hall]; rfl, ?_, ?_⟩
            · rw [List.length_cons, List.length_cons, hlength]
            · rw [hesc]
              exact .escaped hbody
          · rw [if_neg hesc] at h
            by_cases hquote : a = quote
            · rw [if_pos hquote] at h
              cases h
              exact ⟨[], [], all, by rw [hquote]; rfl, rfl, .nil⟩
            · rw [if_neg hquote] at h
              obtain ⟨m, hm, rfl⟩ := Option.map_eq_some_iff.mp h
              obtain ⟨text, value, rest, hall, hlength, hbody⟩ := ih.1 m hm
              refine ⟨a :: text, a :: value, rest, by rw [hall]; rfl, ?_, .plain hesc hquote hbody⟩
              rw [List.length_cons, hlength]
        · intro n h
          unfold closing at h
          obtain ⟨m, hm, rfl⟩ := Option.map_eq_some_iff.mp h
          obtain ⟨text, value, rest, hall, hlength, hbody⟩ := ih.1 m hm
          exact ⟨a, text, value, rest, by rw [hall], by rw [hlength], hbody⟩
  exact hboth.1 n h

/-- **A body has its value.** -/
theorem unescape_of_body (h : Body esc quote meaning text value) :
    unescape esc meaning text = some value := by
  induction h with
  | nil => rfl
  | @plain a text value hesc _ _ ih =>
      cases text with
      | nil =>
          cases ih
          rw [unescape, if_neg hesc]
      | cons b text =>
          rw [unescape, if_neg hesc, ih]
          rfl
  | escaped _ ih =>
      rw [unescape, if_pos rfl, ih]
      rfl

/-! ## Writing -/

omit [DecidableEq α] in
theorem Body.append {text' value' : List α} (h : Body esc quote meaning text value)
    (h' : Body esc quote meaning text' value') :
    Body esc quote meaning (text ++ text') (value ++ value') := by
  induction h with
  | nil => exact h'
  | plain hesc hquote _ ih => exact .plain hesc hquote ih
  | escaped _ ih => exact .escaped ih

omit [DecidableEq α] in
/-- **A text written entry by entry has the text for its value.** -/
theorem body_flatMap {write : α → List α} (hwrite : ∀ a, Body esc quote meaning (write a) [a])
    (value : List α) : Body esc quote meaning (value.flatMap write) value := by
  induction value with
  | nil => exact .nil
  | cons a value ih => exact (hwrite a).append ih

end Quoting

end DurableTrivia.Lib

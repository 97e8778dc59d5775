import Mathlib

/-!
# Suffix — text followed by a separator and a decimal number

A name extended by a separator and a decimal numeral can be read back:
the numeral has no separator in it, so the last separator is where the
name ends, and a numeral determines its number.
-/

namespace DurableTrivia.Lib

/-- Splitting at the last separator is unique. -/
theorem append_sep_inj {α : Type*} {sep : α} {xs ys ds es : List α}
    (hd : sep ∉ ds) (he : sep ∉ es) (h : xs ++ sep :: ds = ys ++ sep :: es) :
    xs = ys ∧ ds = es := by
  induction xs generalizing ys with
  | nil =>
      cases ys with
      | nil =>
          simp only [List.nil_append, List.cons.injEq, true_and] at h
          exact ⟨rfl, h⟩
      | cons y ys =>
          simp only [List.nil_append, List.cons_append, List.cons.injEq] at h
          exact absurd (by simp [h.2]) hd
  | cons x xs ih =>
      cases ys with
      | nil =>
          simp only [List.nil_append, List.cons_append, List.cons.injEq] at h
          exact absurd (by simp [← h.2]) he
      | cons y ys =>
          simp only [List.cons_append, List.cons.injEq] at h
          obtain ⟨hxs, hds⟩ := ih h.2
          exact ⟨by rw [h.1, hxs], hds⟩

/-- A decimal numeral has digits only. -/
theorem not_mem_toDigits {c : Char} (hc : c.isDigit = false) (n : Nat) :
    c ∉ Nat.toDigits 10 n := by
  intro hmem
  have hdigit := Nat.isDigit_of_mem_toDigits (by decide) (by decide) hmem
  rw [hc] at hdigit
  cases hdigit

/-- A decimal numeral determines its number. -/
theorem toDigits_injective {m n : Nat} (h : Nat.toDigits 10 m = Nat.toDigits 10 n) : m = n := by
  have hm := Nat.ofDigitChars_toDigits (b := 10) (n := m) (by decide) (by decide)
  have hn := Nat.ofDigitChars_toDigits (b := 10) (n := n) (by decide) (by decide)
  rw [← hm, ← hn, h]

/-- **Numbered names are read back uniquely.** -/
theorem append_sep_toDigits_inj {xs ys : List Char} {sep : Char} (hsep : sep.isDigit = false)
    {m n : Nat} (h : xs ++ sep :: Nat.toDigits 10 m = ys ++ sep :: Nat.toDigits 10 n) :
    xs = ys ∧ m = n := by
  obtain ⟨hxs, hdigits⟩ :=
    append_sep_inj (not_mem_toDigits hsep m) (not_mem_toDigits hsep n) h
  exact ⟨hxs, toDigits_injective hdigits⟩

end DurableTrivia.Lib

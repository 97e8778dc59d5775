import Mathlib

/-!
# Trim — a text without the padding at its ends

`trimBy p` takes off what satisfies `p` in front and behind. Padding
around a text is gone, and behind an entry that stays only the end is
trimmed.
-/

namespace DurableTrivia.Lib

variable {α : Type*} {p : α → Bool}

/-- A list without the elements at its ends that satisfy `p`. -/
def trimBy (p : α → Bool) (l : List α) : List α := (l.dropWhile p).rdropWhile p

/-- Nothing to take off in front or behind. -/
structure Solid (p : α → Bool) (l : List α) : Prop where
  front : ∀ a rest, l = a :: rest → p a = false
  back : ∀ init a, l = init ++ [a] → p a = false

theorem dropWhile_append_of_padding {pad : List α} (hpad : ∀ a ∈ pad, p a = true) (l : List α) :
    (pad ++ l).dropWhile p = l.dropWhile p :=
  List.dropWhile_append_of_pos hpad

theorem rdropWhile_append_of_padding {pad : List α} (hpad : ∀ a ∈ pad, p a = true) (l : List α) :
    (l ++ pad).rdropWhile p = l.rdropWhile p := by
  unfold List.rdropWhile
  rw [List.reverse_append, dropWhile_append_of_padding]
  exact fun a ha => hpad a (List.mem_reverse.mp ha)

/-- Behind an entry that stays only the end is trimmed. -/
theorem rdropWhile_append_cons {a : α} (ha : p a = false) (init rest : List α) :
    (init ++ a :: rest).rdropWhile p = init ++ a :: rest.rdropWhile p := by
  induction rest using List.reverseRecOn with
  | nil =>
      rw [List.rdropWhile_concat_neg _ _ _ (by simp [ha]), List.rdropWhile_nil]
  | append_singleton rest b ih =>
      rw [← List.cons_append, ← List.append_assoc, List.rdropWhile_concat, List.rdropWhile_concat]
      by_cases hb : p b = true
      · rw [if_pos hb, if_pos hb, ih]
      · rw [if_neg hb, if_neg hb]
        simp

theorem dropWhile_of_front {l : List α} (h : ∀ a rest, l = a :: rest → p a = false) :
    l.dropWhile p = l := by
  cases l with
  | nil => rfl
  | cons a rest => exact List.dropWhile_cons_of_neg (by simp [h a rest rfl])

theorem rdropWhile_of_back {l : List α} (h : ∀ init a, l = init ++ [a] → p a = false) :
    l.rdropWhile p = l := by
  cases l using List.reverseRecOn with
  | nil => rfl
  | append_singleton init a => exact List.rdropWhile_concat_neg _ _ _ (by simp [h init a rfl])

/-- A text of entries that stay is solid. -/
theorem Solid.of_forall {l : List α} (h : ∀ a ∈ l, p a = false) : Solid p l := by
  constructor
  · intro a rest hl
    exact h a (by simp [hl])
  · intro init a hl
    exact h a (by simp [hl])

theorem trimBy_padding_front {pad : List α} (hpad : ∀ a ∈ pad, p a = true) (l : List α) :
    trimBy p (pad ++ l) = trimBy p l := by
  unfold trimBy
  rw [dropWhile_append_of_padding hpad]

/-- **Padding around a text is gone.** -/
theorem trimBy_padded {pad pad' : List α} (hpad : ∀ a ∈ pad, p a = true)
    (hpad' : ∀ a ∈ pad', p a = true) {l : List α} (hl : Solid p l) :
    trimBy p (pad ++ (l ++ pad')) = l := by
  rw [trimBy_padding_front hpad]
  cases l with
  | nil =>
      unfold trimBy
      have hgone := dropWhile_append_of_padding hpad' []
      rw [List.append_nil] at hgone
      rw [List.nil_append, hgone]
      rfl
  | cons a rest =>
      have ha : p a = false := hl.front a rest rfl
      unfold trimBy
      rw [List.cons_append, List.dropWhile_cons_of_neg (by simp [ha]), ← List.cons_append,
        rdropWhile_append_of_padding hpad', rdropWhile_of_back hl.back]

/-- A text that starts with an entry that stays is trimmed at its end. -/
theorem trimBy_cons {a : α} (ha : p a = false) (rest : List α) :
    trimBy p (a :: rest) = a :: rest.rdropWhile p := by
  unfold trimBy
  rw [List.dropWhile_cons_of_neg (by simp [ha])]
  exact rdropWhile_append_cons ha [] rest

/-- A text that stays up to an entry loses only its end. -/
theorem trimBy_append_cons {init : List α} {a : α}
    (hfront : ∀ b rest, init ++ [a] = b :: rest → p b = false) (ha : p a = false)
    (rest : List α) : trimBy p (init ++ a :: rest) = init ++ a :: rest.rdropWhile p := by
  unfold trimBy
  rw [dropWhile_of_front, rdropWhile_append_cons ha]
  intro b tail h
  cases init with
  | nil =>
      cases h
      exact ha
  | cons c init =>
      cases h
      exact hfront b _ rfl

/-- Trimming the end first makes no difference. -/
theorem trimBy_rdropWhile (l : List α) : trimBy p (l.rdropWhile p) = trimBy p l := by
  have hsplit : l.takeWhile p ++ l.dropWhile p = l := List.takeWhile_append_dropWhile
  have hpad : ∀ a ∈ l.takeWhile p, p a = true := fun a ha => List.mem_takeWhile_imp ha
  cases hrest : l.dropWhile p with
  | nil =>
      have hgone : l.rdropWhile p = [] :=
        List.rdropWhile_eq_nil_iff.mpr (List.dropWhile_eq_nil_iff.mp hrest)
      unfold trimBy
      rw [hgone, hrest]
      rfl
  | cons a rest =>
      have ha : p a = false := by
        have hhead := List.head?_dropWhile_not p l
        rw [hrest] at hhead
        exact hhead
      rw [hrest] at hsplit
      rw [← hsplit, rdropWhile_append_cons ha, trimBy_padding_front hpad, trimBy_padding_front hpad,
        trimBy_cons ha, trimBy_cons ha, List.rdropWhile_idempotent]

end DurableTrivia.Lib

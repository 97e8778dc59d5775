import Mathlib

/-!
# Window — a bounded list that sacrifices one kind first

A window of at most `limit` elements takes one more at its end and, when
it is full, gives one up: the first that is `spare`, or the first of all
when none is. What is left of a whole sequence does not depend on when
each element was given up (`window_push`): the last `limit` elements
that are not spare, and in the room they leave the last that are.
-/

namespace DurableTrivia.Lib

namespace Window

variable {α : Type*} {p q : α → Bool} {l l₁ l₂ : List α} {k : Nat}

/-- The list without the first `k` elements that satisfy `p`. -/
def dropFirst (p : α → Bool) (k : Nat) (l : List α) : List α := (List.eraseP p)^[k] l

/-- The list with only the last `k` of the elements that satisfy `p`. -/
def keepLast (p : α → Bool) (k : Nat) (l : List α) : List α := dropFirst p (l.countP p - k) l

theorem dropFirst_one (p : α → Bool) (l : List α) : dropFirst p 1 l = l.eraseP p := rfl

theorem dropFirst_succ (p : α → Bool) (k : Nat) (l : List α) :
    dropFirst p (k + 1) l = (dropFirst p k l).eraseP p :=
  Function.iterate_succ_apply' ..

theorem dropFirst_sublist (p : α → Bool) (k : Nat) (l : List α) : (dropFirst p k l).Sublist l := by
  induction k with
  | zero => exact List.Sublist.refl l
  | succ k ih =>
      rw [dropFirst_succ]
      exact List.eraseP_sublist.trans ih

theorem countP_eraseP_of_disjoint (h : ∀ x ∈ l, q x = true → p x = false) :
    (l.eraseP p).countP q = l.countP q := by
  induction l with
  | nil => rfl
  | cons x rest ih =>
      have hrest := ih fun y hy => h y (List.mem_cons_of_mem _ hy)
      by_cases hx : p x = true
      · rw [List.eraseP_cons_of_pos hx, List.countP_cons_of_neg]
        intro hq
        rw [h x List.mem_cons_self hq] at hx
        cases hx
      · rw [List.eraseP_cons_of_neg hx, List.countP_cons, List.countP_cons, hrest]

theorem countP_eraseP (p : α → Bool) (l : List α) : (l.eraseP p).countP p = l.countP p - 1 := by
  induction l with
  | nil => rfl
  | cons x rest ih =>
      by_cases hx : p x = true
      · rw [List.eraseP_cons_of_pos hx, List.countP_cons_of_pos hx]
        omega
      · rw [List.eraseP_cons_of_neg hx, List.countP_cons_of_neg hx, List.countP_cons_of_neg hx, ih]

theorem countP_dropFirst (p : α → Bool) (k : Nat) (l : List α) :
    (dropFirst p k l).countP p = l.countP p - k := by
  induction k with
  | zero => rfl
  | succ k ih =>
      rw [dropFirst_succ, countP_eraseP, ih]
      omega

/-- Dropping elements of one kind leaves the other kind. -/
theorem countP_dropFirst_of_disjoint (h : ∀ x ∈ l, q x = true → p x = false) :
    (dropFirst p k l).countP q = l.countP q := by
  induction k with
  | zero => rfl
  | succ k ih =>
      rw [dropFirst_succ, countP_eraseP_of_disjoint, ih]
      intro x hx
      exact h x ((dropFirst_sublist p k l).subset hx)

theorem dropFirst_comm (h : ∀ x, ¬ p x = true ∨ ¬ q x = true) (i j : Nat) (l : List α) :
    dropFirst p i (dropFirst q j l) = dropFirst q j (dropFirst p i l) := by
  have hcomm : Function.Commute (List.eraseP p) (List.eraseP q) := by
    intro rest
    exact List.eraseP_comm fun x _ => (h x).symm
  exact hcomm.iterate_iterate i j l

/-- What comes after enough elements to drop is not touched. -/
theorem dropFirst_append (hk : k ≤ l₁.countP p) (l₂ : List α) :
    dropFirst p k (l₁ ++ l₂) = dropFirst p k l₁ ++ l₂ := by
  induction k with
  | zero => rfl
  | succ k ih =>
      have hleft : 0 < (dropFirst p k l₁).countP p := by
        rw [countP_dropFirst]
        omega
      obtain ⟨x, hx, hp⟩ := List.countP_pos_iff.mp hleft
      rw [dropFirst_succ, dropFirst_succ, ih (by omega), List.eraseP_append_left hp _ hx]

/-- An element that is not dropped keeps its place. -/
theorem dropFirst_around {x : α} (hx : p x = false) (k : Nat) (l₁ l₂ : List α) :
    ∃ before after, dropFirst p k (l₁ ++ x :: l₂) = before ++ x :: after
      ∧ before.Sublist l₁ ∧ after.Sublist l₂ := by
  induction k with
  | zero => exact ⟨l₁, l₂, rfl, List.Sublist.refl l₁, List.Sublist.refl l₂⟩
  | succ k ih =>
      obtain ⟨before, after, heq, hbefore, hafter⟩ := ih
      rw [dropFirst_succ, heq, List.eraseP_append]
      by_cases hany : before.any p = true
      · rw [if_pos hany]
        exact ⟨before.eraseP p, after, rfl, List.eraseP_sublist.trans hbefore, hafter⟩
      · rw [if_neg hany, List.eraseP_cons_of_neg (by simp [hx])]
        exact ⟨before, after.eraseP p, rfl, hbefore, List.eraseP_sublist.trans hafter⟩

/-! ## The window -/

section Limit
variable (spare : α → Bool) (limit : Nat)

/-- Not spare. -/
def other (x : α) : Bool := !spare x

/-- The last `limit` elements that are not spare, and in the room they
leave the last spare ones, in their order. -/
def window (l : List α) : List α :=
  keepLast spare (min (l.countP spare) (limit - min limit (l.countP (other spare))))
    (keepLast (other spare) (min limit (l.countP (other spare))) l)

/-- The element a full window gives up. -/
def evict (l : List α) : List α := if l.any spare then l.eraseP spare else l.tail

variable {spare limit}

theorem other_of_spare {x : α} (hx : spare x = true) : other spare x = false := by
  rw [other, hx]
  rfl

theorem spare_of_other {x : α} (hx : other spare x = true) : spare x = false := by
  simpa [other] using hx

theorem length_eq (l : List α) : l.length = l.countP spare + l.countP (other spare) := by
  induction l with
  | nil => rfl
  | cons x rest ih =>
      rw [List.countP_cons, List.countP_cons, List.length_cons, ih, other]
      cases spare x with
      | true => simp only [Bool.not_true, Bool.false_eq_true, if_true, if_false]; omega
      | false => simp only [Bool.not_false, Bool.false_eq_true, if_true, if_false]; omega

theorem countP_spare_dropFirst (k : Nat) (l : List α) :
    (dropFirst (other spare) k l).countP spare = l.countP spare :=
  countP_dropFirst_of_disjoint fun _ _ => other_of_spare

theorem countP_other_dropFirst (k : Nat) (l : List α) :
    (dropFirst spare k l).countP (other spare) = l.countP (other spare) :=
  countP_dropFirst_of_disjoint fun _ _ => spare_of_other

/-- How many of each kind the window has dropped. -/
theorem window_eq (l : List α) :
    window spare limit l
      = dropFirst spare (l.countP spare - (limit - l.countP (other spare)))
        (dropFirst (other spare) (l.countP (other spare) - limit) l) := by
  unfold window keepLast
  rw [countP_spare_dropFirst]
  congr 1
  · omega
  · congr 1
    omega

theorem countP_spare_window (l : List α) :
    (window spare limit l).countP spare
      = min (l.countP spare) (limit - l.countP (other spare)) := by
  rw [window_eq, countP_dropFirst, countP_spare_dropFirst]
  omega

theorem countP_other_window (l : List α) :
    (window spare limit l).countP (other spare)
      = min limit (l.countP (other spare)) := by
  rw [window_eq, countP_other_dropFirst, countP_dropFirst]
  omega

theorem length_window (l : List α) : (window spare limit l).length = min limit l.length := by
  rw [@length_eq α spare, @length_eq α spare l, countP_spare_window, countP_other_window]
  omega

theorem window_sublist (l : List α) : (window spare limit l).Sublist l := by
  rw [window_eq]
  exact (dropFirst_sublist ..).trans (dropFirst_sublist ..)

/-- While there is room nothing is given up. -/
theorem window_of_room (h : l.length ≤ limit) : window spare limit l = l := by
  rw [@length_eq α spare] at h
  rw [window_eq, Nat.sub_eq_zero_of_le (by omega), Nat.sub_eq_zero_of_le (by omega)]
  rfl

theorem evict_of_pos (h : 0 < l.countP spare) : evict spare l = l.eraseP spare := by
  rw [evict, if_pos]
  rw [List.any_eq_true]
  exact List.countP_pos_iff.mp h

/-- With nothing spare the first element is the first that is not spare. -/
theorem evict_of_zero (h : l.countP spare = 0) : evict spare l = l.eraseP (other spare) := by
  have hnone : ∀ x ∈ l, ¬ spare x = true := List.countP_eq_zero.mp h
  rw [evict, if_neg]
  · cases l with
    | nil => rfl
    | cons x rest =>
        have hx : other spare x = true := by simpa [other] using hnone x List.mem_cons_self
        rw [List.eraseP_cons_of_pos hx, List.tail_cons]
  · rw [List.any_eq_true]
    intro ⟨x, hx, hspare⟩
    exact hnone x hx hspare

/-- A spare element takes the room of the oldest spare one. -/
theorem window_push_spare (h : limit ≤ l.length) {x : α} (hx : spare x = true) :
    window spare limit (l ++ [x]) = evict spare (window spare limit l ++ [x]) := by
  rw [@length_eq α spare] at h
  have hspares : (l ++ [x]).countP spare = l.countP spare + 1 := by simp [hx]
  have hothers : (l ++ [x]).countP (other spare) = l.countP (other spare) := by simp [other, hx]
  have hevict : evict spare (window spare limit l ++ [x])
      = (window spare limit l ++ [x]).eraseP spare := evict_of_pos (by simp [hx])
  have hmore : l.countP spare + 1 - (limit - l.countP (other spare))
      = l.countP spare - (limit - l.countP (other spare)) + 1 := by omega
  have hkept : l.countP spare - (limit - l.countP (other spare))
      ≤ (dropFirst (other spare) (l.countP (other spare) - limit) l).countP spare := by
    rw [countP_spare_dropFirst]
    omega
  rw [hevict, window_eq, window_eq, hspares, hothers, hmore, dropFirst_succ,
    dropFirst_append (by omega), dropFirst_append hkept]

/-- While a spare element is left, another one takes its room. -/
theorem window_push_over (h : limit ≤ l.length) (hroom : l.countP (other spare) < limit) {x : α}
    (hx : spare x = false) :
    window spare limit (l ++ [x]) = evict spare (window spare limit l ++ [x]) := by
  rw [@length_eq α spare] at h
  have hspares : (l ++ [x]).countP spare = l.countP spare := by simp [hx]
  have hothers : (l ++ [x]).countP (other spare) = l.countP (other spare) + 1 := by
    simp [other, hx]
  have hevict : evict spare (window spare limit l ++ [x])
      = (window spare limit l ++ [x]).eraseP spare := by
    apply evict_of_pos
    rw [List.countP_append, countP_spare_window]
    omega
  have hmore : l.countP spare - (limit - (l.countP (other spare) + 1))
      = l.countP spare - (limit - l.countP (other spare)) + 1 := by omega
  have hsame : l.countP (other spare) + 1 - limit = l.countP (other spare) - limit := by omega
  have hkept : l.countP spare - (limit - l.countP (other spare))
      ≤ (dropFirst (other spare) (l.countP (other spare) - limit) l).countP spare := by
    rw [countP_spare_dropFirst]
    omega
  rw [hevict, window_eq, window_eq, hspares, hothers, hmore, hsame, dropFirst_succ,
    dropFirst_append (by omega), dropFirst_append hkept]

/-- With no spare element left the oldest goes. -/
theorem window_push_oldest (hfull : limit ≤ l.countP (other spare)) {x : α}
    (hx : spare x = false) :
    window spare limit (l ++ [x]) = evict spare (window spare limit l ++ [x]) := by
  have hspares : (l ++ [x]).countP spare = l.countP spare := by simp [hx]
  have hothers : (l ++ [x]).countP (other spare) = l.countP (other spare) + 1 := by
    simp [other, hx]
  have hevict : evict spare (window spare limit l ++ [x])
      = (window spare limit l ++ [x]).eraseP (other spare) := by
    apply evict_of_zero
    rw [List.countP_append, countP_spare_window, List.countP_cons_of_neg (by simp [hx]),
      List.countP_nil]
    omega
  have hmore : l.countP (other spare) + 1 - limit = l.countP (other spare) - limit + 1 := by omega
  have hsame : limit - (l.countP (other spare) + 1) = limit - l.countP (other spare) := by omega
  have hkept : l.countP spare - (limit - l.countP (other spare))
      ≤ (dropFirst (other spare) (l.countP (other spare) - limit) l).countP spare := by
    rw [countP_spare_dropFirst]
    omega
  have hkinds : ∀ y, ¬ spare y = true ∨ ¬ other spare y = true := by
    intro y
    cases hy : spare y with
    | true => exact .inr (by simp [other, hy])
    | false => exact .inl Bool.false_ne_true
  -- the two kinds are dropped independently
  rw [hevict, window_eq, window_eq, hspares, hothers, hmore, hsame, dropFirst_succ,
    dropFirst_append (by omega), ← dropFirst_one (other spare), dropFirst_comm hkinds,
    dropFirst_append hkept, dropFirst_one]

/-- **A full window that takes one more gives up the right one.** -/
theorem window_push (h : limit ≤ l.length) (x : α) :
    window spare limit (l ++ [x]) = evict spare (window spare limit l ++ [x]) := by
  cases hx : spare x with
  | true => exact window_push_spare h hx
  | false =>
      by_cases hroom : l.countP (other spare) < limit
      · exact window_push_over h hroom hx
      · exact window_push_oldest (Nat.le_of_not_lt hroom) hx

/-- **An element that is not spare is kept while fewer than `limit` of its
kind have come after it.** -/
theorem window_around {x : α} (hx : spare x = false) {l₁ l₂ : List α}
    (h : l₂.countP (other spare) < limit) :
    ∃ before after, window spare limit (l₁ ++ x :: l₂) = before ++ x :: after
      ∧ before.Sublist l₁ ∧ after.Sublist l₂ := by
  have hcount : (l₁ ++ x :: l₂).countP (other spare)
      = l₁.countP (other spare) + (l₂.countP (other spare) + 1) := by
    rw [List.countP_append, List.countP_cons_of_pos (by simp [other, hx])]
  rw [window_eq, hcount, dropFirst_append (by omega)]
  obtain ⟨before, after, heq, hbefore, hafter⟩ := dropFirst_around hx
    ((l₁ ++ x :: l₂).countP spare - (limit - (l₁.countP (other spare)
      + (l₂.countP (other spare) + 1))))
    (dropFirst (other spare) (l₁.countP (other spare)
      + (l₂.countP (other spare) + 1) - limit) l₁) l₂
  exact ⟨before, after, heq, hbefore.trans (dropFirst_sublist ..), hafter⟩

end Limit

end Window

end DurableTrivia.Lib

import Mathlib

/-!
# Painting — drawing that only adds pixels

A canvas is looked at through the set of its lit pixels. A routine that
only lights pixels `Paints` an area: whatever was there before, the area
is lit afterwards, and nothing else has changed. Painting composes by
union, so what a screen shows is read off the routines that draw it.
-/

namespace DurableTrivia.Lib

namespace Painting

variable {Canvas Pixel Item : Type*}

/-- `draw` lights `area` and leaves everything else as it is. -/
def Paints (lit : Canvas → Set Pixel) (draw : Canvas → Canvas) (area : Set Pixel) : Prop :=
  ∀ c, lit (draw c) = lit c ∪ area

variable {lit : Canvas → Set Pixel} {draw draw' : Canvas → Canvas} {area area' : Set Pixel}

theorem Paints.congr (h : Paints lit draw area) (harea : area = area') :
    Paints lit draw area' := by
  rw [← harea]
  exact h

theorem Paints.nothing : Paints lit (fun c => c) ∅ := by
  intro c
  rw [Set.union_empty]

/-- One routine after the other paints both areas. -/
theorem Paints.andThen (h : Paints lit draw area) (h' : Paints lit draw' area') :
    Paints lit (fun c => draw' (draw c)) (area ∪ area') := by
  intro c
  rw [h', h, Set.union_assoc]

/-- A routine behind a test paints its area when the test is met. -/
theorem Paints.guarded {p : Prop} [Decidable p] (h : Paints lit draw area) :
    Paints lit (fun c => if p then draw c else c) {pixel | p ∧ pixel ∈ area} := by
  intro c
  by_cases hp : p
  · simp [hp, h c]
  · simp [hp]

/-- **A loop paints what its turns paint.** -/
theorem Paints.foldl {draw : Item → Canvas → Canvas} {area : Item → Set Pixel} {items : List Item}
    (h : ∀ item ∈ items, Paints lit (draw item) (area item)) :
    Paints lit (fun c => items.foldl (fun c item => draw item c) c)
      {pixel | ∃ item ∈ items, pixel ∈ area item} := by
  induction items with
  | nil => exact Paints.nothing.congr (by simp)
  | cons item items ih =>
      have hfirst := h item List.mem_cons_self
      have hrest := ih fun other hother => h other (List.mem_cons_of_mem _ hother)
      refine (hfirst.andThen hrest).congr ?_
      ext pixel
      simp

end Painting

end DurableTrivia.Lib

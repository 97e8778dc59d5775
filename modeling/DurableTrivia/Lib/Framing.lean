import Mathlib

/-!
# Framing — lines cut from a stream by a bounded buffer

A stream is cut into lines by the separators in it (`lines`). A reader
that keeps the line so far in a buffer of `limit` entries, and empties it
when the next entry would not fit, still ends a frame at every separator,
but of a line that is too long only a rest is left (`leftover`): whole
buffers, and the entry each overflowed on, are gone. So a reader yields
the leftovers of the lines (`frames_eq`), however the stream is cut into
chunks.
-/

namespace DurableTrivia.Lib

namespace Framing

variable {α : Type*} (sep : α → Bool) (limit : Nat)

/-- The complete lines of a stream; what is behind its last separator is
no line yet. -/
def lines (stream : List α) : List (List α) := (stream.splitOnP sep).dropLast

/-- One entry: the buffer behind it, and the frame it ends. -/
def feed (buffer : List α) (a : α) : List α × Option (List α) :=
  if sep a then ([], some buffer)
  else if buffer.length < limit then (buffer ++ [a], none)
  else ([], none)

/-- The frames a stream ends. -/
def frames (buffer : List α) : List α → List (List α)
  | [] => []
  | a :: stream => (feed sep limit buffer a).2.toList ++ frames (feed sep limit buffer a).1 stream

/-- What a buffer holds of a line. -/
def leftover (line : List α) : List α := line.drop ((limit + 1) * (line.length / (limit + 1)))

variable {sep limit}

theorem leftover_nil : leftover limit ([] : List α) = [] := by
  simp [leftover]

theorem length_leftover (line : List α) :
    (leftover limit line).length = line.length % (limit + 1) := by
  have hsplit := Nat.div_add_mod line.length (limit + 1)
  rw [leftover, List.length_drop]
  omega

/-- A line that fits is in the buffer. -/
theorem leftover_of_fits {line : List α} (h : line.length ≤ limit) :
    leftover limit line = line := by
  rw [leftover, Nat.div_eq_of_lt (by omega), Nat.mul_zero, List.drop_zero]

/-- **The buffer holds the leftover of the line so far.** -/
theorem leftover_append_singleton (line : List α) (a : α) :
    leftover limit (line ++ [a])
      = if (leftover limit line).length < limit then leftover limit line ++ [a] else [] := by
  have hsplit := Nat.div_add_mod line.length (limit + 1)
  have hrest : line.length % (limit + 1) < limit + 1 := Nat.mod_lt _ (Nat.succ_pos limit)
  have hpos : 0 < limit + 1 := Nat.succ_pos limit
  rw [length_leftover]
  by_cases hroom : line.length % (limit + 1) < limit
  · -- the entry joins the same group
    have hgroup : (line.length + 1) / (limit + 1) = line.length / (limit + 1) := by
      rw [Nat.div_eq_iff hpos, Nat.mul_comm]
      omega
    rw [if_pos hroom]
    unfold leftover
    rw [List.length_append, List.length_singleton, hgroup,
      List.drop_append_of_le_length (Nat.mul_div_le _ _)]
  · -- the entry fills the group
    have hgroup : (line.length + 1) / (limit + 1) = line.length / (limit + 1) + 1 := by
      rw [Nat.div_eq_iff hpos, Nat.mul_comm, Nat.mul_succ]
      omega
    rw [if_neg hroom]
    unfold leftover
    rw [List.length_append, List.length_singleton, hgroup, Nat.mul_succ]
    apply List.drop_eq_nil_of_le
    rw [List.length_append, List.length_singleton]
    omega

/-! ## Lines -/

theorem lines_of_open {line : List α} (h : ∀ a ∈ line, sep a = false) : lines sep line = [] := by
  rw [lines, List.splitOnP_eq_singleton h]
  rfl

theorem lines_of_ended {line stream : List α} {a : α} (h : ∀ a ∈ line, sep a = false)
    (ha : sep a = true) : lines sep (line ++ a :: stream) = line :: lines sep stream := by
  rw [lines, List.splitOnP_append_cons_of_forall_mem h a ha,
    List.dropLast_cons_of_ne_nil (List.splitOnP_ne_nil _ _)]
  rfl

/-- A reader that is inside a line yields the leftovers of the lines. -/
theorem frames_of_open {line : List α} (h : ∀ a ∈ line, sep a = false) (stream : List α) :
    frames sep limit (leftover limit line) stream
      = (lines sep (line ++ stream)).map (leftover limit) := by
  induction stream generalizing line with
  | nil =>
      rw [List.append_nil, lines_of_open h]
      rfl
  | cons a stream ih =>
      unfold frames feed
      by_cases ha : sep a = true
      · have hnone : ∀ b ∈ ([] : List α), sep b = false := by simp
        have hrest := ih hnone
        rw [leftover_nil, List.nil_append] at hrest
        rw [if_pos ha, lines_of_ended h ha, hrest]
        rfl
      · have hlonger : ∀ b ∈ line ++ [a], sep b = false := by
          intro b hb
          rcases List.mem_append.mp hb with hb | hb
          · exact h b hb
          · rw [List.mem_singleton.mp hb]
            exact Bool.not_eq_true _ ▸ ha
        have hrest := ih hlonger
        rw [leftover_append_singleton, List.append_assoc, List.singleton_append] at hrest
        rw [if_neg ha, ← hrest]
        split <;> rfl

/-- **A reader yields the leftovers of the lines of its stream.** -/
theorem frames_eq (stream : List α) :
    frames sep limit [] stream = (lines sep stream).map (leftover limit) := by
  have hnone : ∀ a ∈ ([] : List α), sep a = false := by simp
  have h := @frames_of_open α sep limit [] hnone stream
  rwa [leftover_nil, List.nil_append] at h

/-! ## What of the frames is kept -/

theorem length_filterMap_guarded_le {β : Type*} {f : α → Option β} {q : α → Prop}
    [DecidablePred q] (items : List α) :
    (items.filterMap fun a => if q a then f a else none).length ≤ (items.filterMap f).length := by
  induction items with
  | nil => exact Nat.le_refl 0
  | cons a items ih =>
      rw [List.filterMap_cons, List.filterMap_cons]
      by_cases ha : q a
      · rw [if_pos ha]
        cases f a with
        | none => exact ih
        | some b => exact Nat.succ_le_succ ih
      · rw [if_neg ha]
        cases f a with
        | none => exact ih
        | some b => exact Nat.le_succ_of_le ih

/-- A selection of what is kept loses nothing when what it leaves out would
not be kept anyway. -/
theorem filterMap_guarded_iff {β : Type*} {f : α → Option β} {q : α → Prop} [DecidablePred q]
    {items : List α} :
    items.filterMap f = items.filterMap (fun a => if q a then f a else none)
      ↔ ∀ a ∈ items, ¬ q a → f a = none := by
  induction items with
  | nil => simp
  | cons a items ih =>
      rw [List.filterMap_cons, List.filterMap_cons, List.forall_mem_cons]
      by_cases ha : q a
      · rw [if_pos ha]
        cases hf : f a with
        | none => simp [ih]
        | some b => simp [ih, ha]
      · rw [if_neg ha]
        cases hf : f a with
        | none => simp [ih]
        | some b =>
            -- what is left out would have been kept
            have hlonger := @length_filterMap_guarded_le α β f q _ items
            simp only [ha, not_false_eq_true, forall_const, reduceCtorEq, false_and, iff_false]
            intro hsame
            rw [← hsame, List.length_cons] at hlonger
            omega

end Framing

end DurableTrivia.Lib

import Mathlib

/-!
# Records — a list of entries read into a map

Entries are numbered, those that say nothing are dropped, the rest are
read in order until one is bad, and the pairs go into a map. `Reads` says
what the reader does with one entry, in terms of two predicates on
entries; from it follow which entry an error names, and that a key has
the value its last entry gives.
-/

namespace DurableTrivia.Lib

namespace Records

variable {α β γ ε κ ν : Type*}

/-- `n` entries stand before the first bad one. -/
def FirstAt (bad : α → Prop) (l : List α) (n : Nat) : Prop :=
  ∃ before a after, l = before ++ a :: after ∧ before.length = n ∧ bad a ∧ ∀ x ∈ before, ¬ bad x

/-- The last of the entries that give something gives `b`. -/
def LastGives (gives : α → β → Prop) (l : List α) (b : β) : Prop :=
  ∃ before a after, l = before ++ a :: after ∧ gives a b ∧ ∀ x ∈ after, ∀ c, ¬ gives x c

theorem firstAt_head {bad : α → Prop} {a : α} (h : bad a) (l : List α) : FirstAt bad (a :: l) 0 :=
  ⟨[], a, l, rfl, rfl, h, by simp⟩

theorem FirstAt.cons {bad : α → Prop} {a : α} {l : List α} {n : Nat} (hl : FirstAt bad l n)
    (h : ¬ bad a) : FirstAt bad (a :: l) (n + 1) := by
  obtain ⟨before, b, after, rfl, hlength, hb, hbefore⟩ := hl
  refine ⟨a :: before, b, after, rfl, by rw [List.length_cons, hlength], hb, ?_⟩
  intro x hx
  cases hx with
  | head => exact h
  | tail _ hx => exact hbefore x hx

theorem FirstAt.exists_bad {bad : α → Prop} {l : List α} {n : Nat} (h : FirstAt bad l n) :
    ∃ a ∈ l, bad a := by
  obtain ⟨before, a, after, rfl, -, ha, -⟩ := h
  exact ⟨a, by simp, ha⟩

theorem lastGives_cons {gives : α → β → Prop} {a : α} {l : List α} {b : β} :
    LastGives gives (a :: l) b
      ↔ LastGives gives l b ∨ ((∀ x ∈ l, ∀ c, ¬ gives x c) ∧ gives a b) := by
  constructor
  · rintro ⟨before, x, after, hl, hx, hafter⟩
    cases before with
    | nil =>
        cases hl
        exact .inr ⟨hafter, hx⟩
    | cons y before =>
        cases hl
        exact .inl ⟨before, x, after, rfl, hx, hafter⟩
  · rintro (⟨before, x, after, rfl, hx, hafter⟩ | ⟨hl, ha⟩)
    · exact ⟨a :: before, x, after, rfl, hx, hafter⟩
    · exact ⟨[], a, l, rfl, ha, hl⟩

theorem not_lastGives_nil {gives : α → β → Prop} {b : β} : ¬ LastGives gives [] b := by
  rintro ⟨before, x, after, hl, -⟩
  simp at hl

/-- **Some entry gives something exactly when there is a last one that does.** -/
theorem exists_lastGives {gives : α → β → Prop} {l : List α} :
    (∃ b, LastGives gives l b) ↔ ∃ a ∈ l, ∃ b, gives a b := by
  induction l with
  | nil => simp [not_lastGives_nil]
  | cons a l ih =>
      simp only [lastGives_cons, exists_or, ih, List.exists_mem_cons_iff, exists_and_left]
      constructor
      · rintro (hlater | ⟨-, ha⟩)
        · exact .inr hlater
        · exact .inl ha
      · rintro (ha | hlater)
        · by_cases hlater : ∃ x ∈ l, ∃ b, gives x b
          · exact .inl hlater
          · push Not at hlater
            exact .inr ⟨hlater, ha⟩
        · exact .inl hlater

/-! ## Reading -/

variable (pick : α → Nat → Option γ) (read : γ → Except ε (κ × ν))

/-- Numbers the entries from `start`, drops those that say nothing and
reads the others. -/
def readAll (start : Nat) (l : List α) : Except ε (List (κ × ν)) :=
  ((l.zipIdx start).filterMap fun (a, index) => pick a index).mapM read

/-- What a reader does with one entry. -/
structure Reads (number : ε → Nat) (bad : α → Prop) (gives : α → κ → ν → Prop) : Prop where
  of_bad : ∀ {a}, bad a → ∀ index, ∃ c e, pick a index = some c ∧ read c = .error e
    ∧ number e = index + 1
  of_gives : ∀ {a key value}, gives a key value → ∀ index, ∃ c, pick a index = some c
    ∧ read c = .ok (key, value)
  of_silent : ∀ {a}, ¬ bad a → (∀ key value, ¬ gives a key value) → ∀ index, pick a index = none

variable {pick read} {number : ε → Nat} {bad : α → Prop} {gives : α → κ → ν → Prop}

theorem readAll_of_silent {a : α} {start : Nat} (h : pick a start = none) (l : List α) :
    readAll pick read start (a :: l) = readAll pick read (start + 1) l := by
  unfold readAll
  rw [List.zipIdx_cons, List.filterMap_cons]
  simp only [h]

theorem readAll_of_pick {a : α} {c : γ} {start : Nat} (h : pick a start = some c) (l : List α) :
    readAll pick read start (a :: l)
      = read c >>= fun pair => (readAll pick read (start + 1) l).map (pair :: ·) := by
  unfold readAll
  rw [List.zipIdx_cons, List.filterMap_cons]
  simp only [h]
  rw [List.mapM_cons]
  rfl

namespace Reads

variable (hreads : Reads pick read number bad gives)
include hreads

/-- An entry gives one pair. -/
theorem unique {a : α} {key key' : κ} {value value' : ν} (h : gives a key value)
    (h' : gives a key' value') : key = key' ∧ value = value' := by
  obtain ⟨c, hpick, hread⟩ := hreads.of_gives h 0
  obtain ⟨c', hpick', hread'⟩ := hreads.of_gives h' 0
  rw [hpick] at hpick'
  cases hpick'
  rw [hread] at hread'
  cases hread'
  exact ⟨rfl, rfl⟩

theorem not_bad {a : α} {key : κ} {value : ν} (h : gives a key value) : ¬ bad a := by
  intro hbad
  obtain ⟨c, hpick, hread⟩ := hreads.of_gives h 0
  obtain ⟨c', e, hpick', hread', -⟩ := hreads.of_bad hbad 0
  rw [hpick] at hpick'
  cases hpick'
  rw [hread] at hread'
  cases hread'

/-- **One entry**: it is bad and ends the reading, or it gives a pair, or
it says nothing. -/
theorem readAll_cons (start : Nat) (a : α) (l : List α) :
    (bad a ∧ ∃ e, number e = start + 1 ∧ readAll pick read start (a :: l) = .error e)
      ∨ (∃ key value, gives a key value ∧ readAll pick read start (a :: l)
          = (readAll pick read (start + 1) l).map ((key, value) :: ·))
      ∨ (¬ bad a ∧ (∀ key value, ¬ gives a key value)
          ∧ readAll pick read start (a :: l) = readAll pick read (start + 1) l) := by
  by_cases hbad : bad a
  · obtain ⟨c, e, hpick, hread, hnumber⟩ := hreads.of_bad hbad start
    refine .inl ⟨hbad, e, hnumber, ?_⟩
    rw [readAll_of_pick hpick, hread]
    rfl
  · by_cases hgives : ∃ key value, gives a key value
    · obtain ⟨key, value, h⟩ := hgives
      obtain ⟨c, hpick, hread⟩ := hreads.of_gives h start
      refine .inr (.inl ⟨key, value, h, ?_⟩)
      rw [readAll_of_pick hpick, hread]
      rfl
    · push Not at hgives
      exact .inr (.inr ⟨hbad, hgives, readAll_of_silent (hreads.of_silent hbad hgives start) l⟩)

/-- **An error names the first bad entry.** -/
theorem firstAt_of_error {start : Nat} {l : List α} {e : ε}
    (h : readAll pick read start l = .error e) :
    ∃ n, FirstAt bad l n ∧ number e = start + n + 1 := by
  induction l generalizing start with
  | nil => cases h
  | cons a l ih =>
      obtain ⟨hbad, e', hnumber, hread⟩ | ⟨key, value, hgives, hread⟩ | ⟨hbad, -, hread⟩ :=
        hreads.readAll_cons start a l
      · rw [hread] at h
        cases h
        exact ⟨0, firstAt_head hbad l, hnumber⟩
      · rw [hread] at h
        cases hrest : readAll pick read (start + 1) l with
        | ok pairs =>
            rw [hrest] at h
            cases h
        | error e' =>
            rw [hrest] at h
            cases h
            obtain ⟨n, hfirst, hnumber⟩ := ih hrest
            exact ⟨n + 1, hfirst.cons (hreads.not_bad hgives), by omega⟩
      · rw [hread] at h
        obtain ⟨n, hfirst, hnumber⟩ := ih h
        exact ⟨n + 1, hfirst.cons hbad, by omega⟩

/-- Without an error no entry is bad. -/
theorem not_bad_of_ok {start : Nat} {l : List α} {pairs : List (κ × ν)}
    (h : readAll pick read start l = .ok pairs) : ∀ a ∈ l, ¬ bad a := by
  induction l generalizing start pairs with
  | nil => simp
  | cons a l ih =>
      rw [List.forall_mem_cons]
      obtain ⟨-, e, -, hread⟩ | ⟨key, value, hgives, hread⟩ | ⟨hbad, -, hread⟩ :=
        hreads.readAll_cons start a l
      · rw [hread] at h
        cases h
      · rw [hread] at h
        cases hrest : readAll pick read (start + 1) l with
        | ok pairs => exact ⟨hreads.not_bad hgives, ih hrest⟩
        | error e =>
            rw [hrest] at h
            cases h
      · rw [hread] at h
        exact ⟨hbad, ih h⟩

variable [BEq κ] [Hashable κ] [LawfulBEq κ] [LawfulHashable κ]

/-- The map behind the pair of one entry. -/
theorem getElem?_insert_of_gives {a : α} {key' : κ} {value' : ν} (hgives : gives a key' value')
    (values : Std.ExtHashMap κ ν) (key : κ) (value : ν) :
    (values.insert key' value')[key]? = some value
      ↔ gives a key value ∨ ((∀ value, ¬ gives a key value) ∧ values[key]? = some value) := by
  by_cases hkey : key' = key
  · subst hkey
    rw [Std.ExtHashMap.getElem?_insert_self]
    constructor
    · rintro ⟨⟩
      exact .inl hgives
    · rintro (hsame | ⟨hnone, -⟩)
      · rw [(hreads.unique hgives hsame).2]
      · exact absurd hgives (hnone value')
  · have hnone : ∀ value, ¬ gives a key value :=
      fun value hother => hkey (hreads.unique hgives hother).1
    rw [Std.ExtHashMap.getElem?_insert, if_neg (by simpa using hkey)]
    constructor
    · exact fun h => .inr ⟨hnone, h⟩
    · rintro (hother | ⟨-, h⟩)
      · exact absurd hother (hnone value)
      · exact h

/-- **The last entry of a key wins**, over a map the pairs are put into. -/
theorem getElem?_insertMany {start : Nat} {l : List α} {pairs : List (κ × ν)}
    (h : readAll pick read start l = .ok pairs) (values : Std.ExtHashMap κ ν) (key : κ)
    (value : ν) :
    (values.insertMany pairs)[key]? = some value
      ↔ LastGives (fun a value => gives a key value) l value
        ∨ ((∀ a ∈ l, ∀ value, ¬ gives a key value) ∧ values[key]? = some value) := by
  -- what is in the map already stands for the entries that were read before
  induction l generalizing start pairs values with
  | nil =>
      cases h
      simp [not_lastGives_nil]
  | cons a l ih =>
      rw [lastGives_cons]
      simp only [List.forall_mem_cons]
      obtain ⟨-, e, -, hread⟩ | ⟨key', value', hgives, hread⟩ | ⟨-, hsilent, hread⟩ :=
        hreads.readAll_cons start a l
      · rw [hread] at h
        cases h
      · rw [hread] at h
        cases hrest : readAll pick read (start + 1) l with
        | error e =>
            rw [hrest] at h
            cases h
        | ok pairs =>
            rw [hrest] at h
            cases h
            rw [Std.ExtHashMap.insertMany_cons, ih hrest, hreads.getElem?_insert_of_gives hgives]
            tauto
      · rw [hread] at h
        rw [ih h]
        have hnone : ∀ value, ¬ gives a key value := hsilent key
        constructor
        · rintro (hlast | ⟨hl, hvalue⟩)
          · exact .inl (.inl hlast)
          · exact .inr ⟨⟨hnone, hl⟩, hvalue⟩
        · rintro ((hlast | ⟨-, ha⟩) | ⟨⟨-, hl⟩, hvalue⟩)
          · exact .inl hlast
          · exact absurd ha (hnone value)
          · exact .inr ⟨hl, hvalue⟩

end Reads

end Records

end DurableTrivia.Lib

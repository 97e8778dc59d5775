import DurableTrivia.Shared.Contract

/-!
# Deck — dealing and recycling questions

`deal_question`, `take_next_question` and `refill_question_deck` of
`web/src/workflow.rs`. The two `&mut` parameters `available` and
`deck_cycle` are the two fields of `Deck`; a deal returns the question
and the deck it leaves behind. Cards are taken from the front, or from
the middle under the Rust-only modifier, and a fresh cycle goes behind
whatever is left.
-/

namespace DurableTrivia.Web

open DurableTrivia.Shared

/-- `u32::MAX`, where the cycle counter saturates. -/
def u32Max : Nat := 2 ^ 32 - 1

/-- What is left to deal, and the cycle it is of. -/
structure Deck where
  available : List Question
  deckCycle : Nat
  deriving DecidableEq, Repr

/-- The next eligible question and what is left without it. -/
def takeNextQuestion (available : List Question) (rustOnly : Bool) :
    Option (Question × List Question) :=
  if rustOnly then
    (available.findIdx? fun question => question.category == "rust").bind fun index =>
      (available[index]?).map fun question => (question, available.eraseIdx index)
  else
    match available with
    | [] => none
    | question :: rest => some (question, rest)

/-- The card under its id of a later cycle; nothing else changes. -/
def suffixId (cycle : Nat) (question : Question) : Question :=
  { question with id := question.id ++ "-cycle-" ++ toString cycle }

/-- The order of a cycle's cards: rotated by a cycle-dependent offset,
reversed in every even cycle. -/
def cycleOrder (template : List Question) (cycle : Nat) : List Question :=
  if template.isEmpty then template
  else
    let questions := template.rotate (cycle * 97 % template.length)
    if cycle % 2 == 0 then questions.reverse else questions

/-- A new cycle of the template, its ids marked. -/
def refillQuestionDeck (template : List Question) (cycle : Nat) : List Question :=
  (cycleOrder template cycle).map (suffixId cycle)

/-- The deck with one more cycle behind what is left. -/
def Deck.recycle (deck : Deck) (template : List Question) : Deck :=
  let deckCycle := min (deck.deckCycle + 1) u32Max
  { available := deck.available ++ refillQuestionDeck template deckCycle, deckCycle }

/-- Deals one question, recycling the deck when it cannot serve the
request. -/
def dealQuestion (deck : Deck) (template : List Question) (rustOnly eligibleDeckRefill : Bool) :
    Option Question × Deck :=
  match takeNextQuestion deck.available rustOnly with
  | some (question, rest) => (some question, { deck with available := rest })
  | none =>
      -- Recycling needs a deck to copy from.
      if template.isEmpty then (none, deck)
      -- Pre-patch, only an empty deck is recycled.
      else if !eligibleDeckRefill && !deck.available.isEmpty then (none, deck)
      else
        let deck := deck.recycle template
        match takeNextQuestion deck.available rustOnly with
        | some (question, rest) => (some question, { deck with available := rest })
        | none => (none, deck)

/-! ## Taking -/

theorem takeNextQuestion_perm {available rest : List Question} {rustOnly : Bool}
    {question : Question} (h : takeNextQuestion available rustOnly = some (question, rest)) :
    available.Perm (question :: rest) := by
  cases rustOnly with
  | false =>
      cases available with
      | nil => simp [takeNextQuestion] at h
      | cons q qs =>
          simp only [takeNextQuestion, Bool.false_eq_true, if_false, Option.some.injEq,
            Prod.mk.injEq] at h
          rw [h.1, h.2]
  | true =>
      simp only [takeNextQuestion, if_true, Option.bind_eq_some_iff, Option.map_eq_some_iff,
        Prod.mk.injEq] at h
      obtain ⟨index, _, question', hget, rfl, rfl⟩ := h
      obtain ⟨hlt, rfl⟩ := List.getElem?_eq_some_iff.mp hget
      exact (List.getElem_cons_eraseIdx_perm hlt).symm

theorem takeNextQuestion_front {available rest : List Question} {question : Question}
    (h : takeNextQuestion available false = some (question, rest)) :
    available = question :: rest := by
  cases available with
  | nil => simp [takeNextQuestion] at h
  | cons q qs =>
      simp only [takeNextQuestion, Bool.false_eq_true, if_false, Option.some.injEq,
        Prod.mk.injEq] at h
      rw [h.1, h.2]

/-- Without the modifier only an empty deck has nothing to deal. -/
theorem takeNextQuestion_false_eq_none {available : List Question} :
    takeNextQuestion available false = none ↔ available = [] := by
  cases available <;> simp [takeNextQuestion]

/-- The Rust-only deal takes Rust questions. -/
theorem takeNextQuestion_rust {available rest : List Question} {question : Question}
    (h : takeNextQuestion available true = some (question, rest)) :
    question.category = "rust" := by
  simp only [takeNextQuestion, if_true, Option.bind_eq_some_iff, Option.map_eq_some_iff,
    Prod.mk.injEq] at h
  obtain ⟨index, hidx, question', hget, rfl, _⟩ := h
  obtain ⟨hlt, hp, _⟩ := List.findIdx?_eq_some_iff_getElem.mp hidx
  obtain ⟨_, rfl⟩ := List.getElem?_eq_some_iff.mp hget
  simpa using hp

/-! ## A cycle is the template again -/

theorem cycleOrder_perm (template : List Question) (cycle : Nat) :
    (cycleOrder template cycle).Perm template := by
  unfold cycleOrder
  split
  · exact .refl _
  · dsimp only
    split
    · exact (List.reverse_perm _).trans (List.rotate_perm _ _)
    · exact List.rotate_perm _ _

theorem refillQuestionDeck_perm (template : List Question) (cycle : Nat) :
    (refillQuestionDeck template cycle).Perm (template.map (suffixId cycle)) :=
  (cycleOrder_perm template cycle).map _

theorem length_refillQuestionDeck (template : List Question) (cycle : Nat) :
    (refillQuestionDeck template cycle).length = template.length := by
  simpa using (refillQuestionDeck_perm template cycle).length_eq

theorem refillQuestionDeck_ne_nil {template : List Question} (h : template ≠ []) (cycle : Nat) :
    refillQuestionDeck template cycle ≠ [] := by
  intro hc
  have hlen := length_refillQuestionDeck template cycle
  rw [hc] at hlen
  exact h (List.length_eq_zero_iff.mp hlen.symm)

/-! ## What one deal can do -/

/-- The five outcomes of a deal, with what held before each. -/
inductive Dealt (deck : Deck) (template : List Question) (rustOnly eligible : Bool) :
    Option Question × Deck → Prop
  | served {question : Question} {rest : List Question}
      (htake : takeNextQuestion deck.available rustOnly = some (question, rest)) :
      Dealt deck template rustOnly eligible (some question, { deck with available := rest })
  | noTemplate (htake : takeNextQuestion deck.available rustOnly = none)
      (hempty : template = []) : Dealt deck template rustOnly eligible (none, deck)
  | heldBack (htake : takeNextQuestion deck.available rustOnly = none)
      (hold : eligible = false) (hleft : deck.available ≠ []) :
      Dealt deck template rustOnly eligible (none, deck)
  | recycled {question : Question} {rest : List Question}
      (hnone : takeNextQuestion deck.available rustOnly = none) (hne : template ≠ [])
      (htake : takeNextQuestion (deck.recycle template).available rustOnly
        = some (question, rest)) :
      Dealt deck template rustOnly eligible
        (some question, { deck.recycle template with available := rest })
  | recycledInVain (hnone : takeNextQuestion deck.available rustOnly = none)
      (hne : template ≠ [])
      (htake : takeNextQuestion (deck.recycle template).available rustOnly = none) :
      Dealt deck template rustOnly eligible (none, deck.recycle template)

theorem dealt_dealQuestion (deck : Deck) (template : List Question) (rustOnly eligible : Bool) :
    Dealt deck template rustOnly eligible (dealQuestion deck template rustOnly eligible) := by
  unfold dealQuestion
  cases htake : takeNextQuestion deck.available rustOnly with
  | some r =>
      obtain ⟨question, rest⟩ := r
      exact .served htake
  | none =>
      dsimp only
      split
      · next hempty => exact .noTemplate htake (List.isEmpty_iff.mp hempty)
      · next hempty =>
          have hne : template ≠ [] := fun hc => hempty (List.isEmpty_iff.mpr hc)
          split
          · next hheld =>
              simp only [Bool.and_eq_true, Bool.not_eq_eq_eq_not, Bool.not_true] at hheld
              exact .heldBack htake hheld.1 fun hc => by simp [hc] at hheld
          · cases hagain : takeNextQuestion (deck.recycle template).available rustOnly with
            | some r =>
                obtain ⟨question, rest⟩ := r
                exact .recycled htake hne hagain
            | none => exact .recycledInVain htake hne hagain

/-- A refused deal of a non-empty template always leaves cards behind:
either the ineligible ones it found, or a fresh cycle. -/
theorem dealQuestion_none_available {deck deck' : Deck} {template : List Question}
    {rustOnly eligible : Bool} (hne : template ≠ [])
    (h : dealQuestion deck template rustOnly eligible = (none, deck')) :
    deck'.available ≠ [] := by
  have hd := dealt_dealQuestion deck template rustOnly eligible
  rw [h] at hd
  cases hd with
  | noTemplate _ hempty => exact absurd hempty hne
  | heldBack _ _ hleft => exact hleft
  | recycledInVain _ _ _ =>
      intro hc
      exact refillQuestionDeck_ne_nil hne _ (List.append_eq_nil_iff.mp hc).2

end DurableTrivia.Web

import DurableTrivia.Web.DeckConservation

/-!
# Refill — the patched recycling rule extends the old one

`eligible_deck_refill` lets a deck with cards, but no eligible one, be
recycled. Replaying a history recorded under the old rule is safe as
long as the old rule never held a deal back: the two rules then take the
same branch at every call, so they share questions, deck and cycle for
the whole run.
-/

namespace DurableTrivia.Web

open DurableTrivia.Shared

/-- The answers of `deal_question` to the calls of a run, one for each
`rust_only` flag, and the deck left at its end. -/
def dealRun (template : List Question) (eligibleDeckRefill : Bool) (deck : Deck) :
    List Bool → List (Option Question) × Deck
  | [] => ([], deck)
  | rustOnly :: flags =>
      let first := dealQuestion deck template rustOnly eligibleDeckRefill
      let rest := dealRun template eligibleDeckRefill first.2 flags
      (first.1 :: rest.1, rest.2)

/-- No call of the run came back empty-handed. -/
def NeverStarved (answers : List (Option Question)) : Prop :=
  ∀ answer ∈ answers, answer.isSome

instance (answers : List (Option Question)) : Decidable (NeverStarved answers) :=
  inferInstanceAs (Decidable (∀ answer ∈ answers, answer.isSome))

theorem neverStarved_cons {answer : Option Question} {answers : List (Option Question)} :
    NeverStarved (answer :: answers) ↔ answer.isSome ∧ NeverStarved answers :=
  List.forall_mem_cons

/-- **One call**: where the old rule serves, the patched rule serves the
same question from the same deck. -/
theorem dealQuestion_eligible_of_isSome {deck : Deck} {template : List Question}
    {rustOnly : Bool} (h : (dealQuestion deck template rustOnly false).1.isSome) :
    dealQuestion deck template rustOnly true = dealQuestion deck template rustOnly false := by
  unfold dealQuestion at h ⊢
  cases htake : takeNextQuestion deck.available rustOnly with
  | some served => rfl
  | none =>
      simp only [htake] at h ⊢
      by_cases hempty : template.isEmpty
      · simp [hempty] at h
      · by_cases hleft : deck.available.isEmpty
        · simp [hleft]
        · -- the old rule holds the deal back here
          simp [hempty, hleft] at h

/-- **The patch keeps a run that did not starve**, and ordinary deals of a
non-empty template never starve. -/
theorem dealRun_eligible_agrees (template : List Question) (deck : Deck) (flags : List Bool) :
    (NeverStarved (dealRun template false deck flags).1 →
        dealRun template true deck flags = dealRun template false deck flags)
      ∧ ((∀ rustOnly ∈ flags, rustOnly = false) → template ≠ [] →
        NeverStarved (dealRun template false deck flags).1) := by
  induction flags generalizing deck with
  | nil =>
      constructor
      · intro _
        rfl
      · intro _ _ answer hmem
        exact absurd hmem List.not_mem_nil
  | cons rustOnly flags ih =>
      constructor
      · intro hserved
        obtain ⟨hfirst, hrest⟩ := neverStarved_cons.mp hserved
        have hsame := dealQuestion_eligible_of_isSome hfirst
        have htail := (ih (dealQuestion deck template rustOnly false).2).1 hrest
        simp only [dealRun, hsame, htail]
      · intro hplain hne
        obtain ⟨rfl, hrest⟩ := List.forall_mem_cons.mp hplain
        refine neverStarved_cons.mpr ⟨dealQuestion_false_isSome deck false hne, ?_⟩
        exact (ih _).2 hrest hne

/-- Two plain deals and one under the modifier, which the second cycle
serves. -/
def plainFlags : List Bool := [false, false, true]

theorem dealRun_eligible_agrees_demo :
    NeverStarved (dealRun demoTemplate false ⟨demoTemplate, 1⟩ plainFlags).1
      ∧ dealRun demoTemplate true ⟨demoTemplate, 1⟩ plainFlags
        = dealRun demoTemplate false ⟨demoTemplate, 1⟩ plainFlags
      ∧ NeverStarved (dealRun demoTemplate false ⟨demoTemplate, 1⟩ [false, false, false]).1 :=
  ⟨by decide, (dealRun_eligible_agrees demoTemplate ⟨demoTemplate, 1⟩ plainFlags).1 (by decide),
    (dealRun_eligible_agrees demoTemplate ⟨demoTemplate, 1⟩ [false, false, false]).2
      (by decide) (by decide)⟩

end DurableTrivia.Web

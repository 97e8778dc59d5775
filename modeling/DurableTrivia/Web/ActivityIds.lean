import DurableTrivia.Web.DeckConservation
import DurableTrivia.Web.RoundInvariant

/-!
# ActivityIds — no two Activities of a round share an id

An Activity is scheduled under the id of its question, so the ids of a
round's Activities are the ids of the cards dealt. The deck is an urn
whose cards all have distinct ids, and the run loop draws from it like
any other sequence of deals: whatever was scheduled so far, together
with what is left, is what was supplied.
-/

namespace DurableTrivia.Web

open DurableTrivia.Shared DurableTrivia.Lib

namespace Round
variable {r : Round}

/-! ## The deck of a running round -/

/-- The deck against the schedule: what was scheduled was drawn from it,
under the ids of the cards. -/
structure Cards (r : Round) (s : State) : Prop where
  ids : s.scheduledIds = s.scheduledQuestions.map (·.id)
  cycle : 1 ≤ s.deck.deckCycle ∧ s.deck.deckCycle ≤ u32Max
  conserved : s.deck.deckCycle < u32Max →
    (deckUrn r.input.questions s.scheduledQuestions s.deck).Conserved

theorem Cards.congr {s s' : State} (h : Cards r s) (hsched : SameSchedule s s')
    (hdeck : s'.deck = s.deck) : Cards r s' := by
  constructor
  · rw [hsched.ids, hsched.questions, h.ids]
  · rw [hdeck]
    exact h.cycle
  · rw [hdeck, hsched.questions]
    exact h.conserved

/-- What a deal does to the cycle counter and the urn. -/
theorem Cards.deal {s : State} {rustOnly : Bool} {question : Option Question} {deck : Deck}
    (h : Cards r s)
    (hdeal : dealQuestion s.deck r.input.questions rustOnly r.eligibleDeckRefill
      = (question, deck)) :
    (1 ≤ deck.deckCycle ∧ deck.deckCycle ≤ u32Max)
      ∧ (deck.deckCycle < u32Max →
        (deckUrn r.input.questions (s.scheduledQuestions ++ question.toList) deck).Conserved) := by
  have hcycle := deckCycle_le_dealQuestion r.input.questions rustOnly r.eligibleDeckRefill
    h.cycle.2
  rw [hdeal] at hcycle
  refine ⟨⟨h.cycle.1.trans hcycle.1, hcycle.2⟩, fun hlt => ?_⟩
  have hbefore := h.conserved (Nat.lt_of_le_of_lt hcycle.1 hlt)
  have hstep := conserved_dealQuestion rustOnly r.eligibleDeckRefill
    h.cycle.1 (by rw [hdeal]; exact hlt) hbefore
  rw [hdeal] at hstep
  exact hstep

theorem cards_scheduleOne {s : State} {deadlineUnixMs : Nat} {rustOnly : Bool}
    {question : Question} {deck : Deck} (h : Cards r s)
    (hdeal : dealQuestion s.deck r.input.questions rustOnly r.eligibleDeckRefill
      = (some question, deck)) :
    Cards r (r.scheduleOne deadlineUnixMs s question deck) := by
  obtain ⟨hcycle, hconserved⟩ := h.deal hdeal
  have hquestions := scheduledQuestions_scheduleOne (r := r) deadlineUnixMs s question deck
  have hids : (r.scheduleOne deadlineUnixMs s question deck).scheduledIds
      = s.scheduledIds ++ [question.id] := by
    simp [State.scheduledIds, scheduleOne, Command.activityId]
  refine ⟨?_, hcycle, fun hlt => ?_⟩
  · rw [hids, hquestions, h.ids, List.map_append]
    rfl
  · rw [hquestions]
    exact hconserved hlt

theorem cards_refused {s : State} {rustOnly : Bool} {deck : Deck} (h : Cards r s)
    (hdeal : dealQuestion s.deck r.input.questions rustOnly r.eligibleDeckRefill = (none, deck)) :
    Cards r { s with deck } := by
  obtain ⟨hcycle, hconserved⟩ := h.deal hdeal
  refine ⟨h.ids, hcycle, fun hlt => ?_⟩
  have hsame := hconserved hlt
  rw [Option.toList_none, List.append_nil] at hsame
  exact hsame

/-- **An iteration deals from the urn.** -/
theorem cards_iterate {s : State} (h : Cards r s) : Cards r (r.iterate s) := by
  have hswept : Cards r s.sweep := h.congr (.of_eq rfl) rfl
  have hsched : Cards r (r.scheduled s) := by
    unfold scheduled schedule
    exact scheduleQuestions_keeps (P := Cards r)
      (fun _ _ _ hs hdeal => cards_scheduleOne hs hdeal)
      (fun _ _ hs hdeal => cards_refused hs hdeal) hswept
  have hit := iterated_iterate r s
  revert hit
  generalize r.iterate s = s'
  intro hit
  cases hit with
  | deadline _ => exact hswept.congr (.of_eq rfl) rfl
  | exhausted _ _ _ => exact hsched.congr (.of_eq rfl) rfl
  | sleeping _ _ _ _ => exact hsched.congr (.of_eq rfl) rfl
  | selecting _ _ _ => exact hsched.congr (.of_eq rfl) rfl

/-- Only the start and an iteration touch the deck. -/
theorem deck_of_transition {s s' : State} {e : Event} (h : Transition r s e s')
    (hstart : e ≠ .start) (hiter : e ≠ .iterate) : s'.deck = s.deck := by
  cases h with
  | start _ => exact absurd rfl hstart
  | iterate _ => exact absurd rfl hiter
  | completed _ _ => exact (locals_complete s _ _ _).2.2.1
  | _ => rfl

/-! ## Every run -/

/-- Before the start nothing is scheduled; from then on the cards balance. -/
structure CardInvariant (r : Round) (s : State) : Prop where
  fresh : s.phase = .unstarted → s.scheduledQuestions = [] ∧ s.scheduledIds = []
  cards : s.phase ≠ .unstarted → Cards r s

theorem cards_start {s : State} (h : s.scheduledQuestions = [] ∧ s.scheduledIds = []) :
    Cards r (r.start s) := by
  have hsame := sameSchedule_start (r := r) s
  constructor
  · rw [hsame.ids, hsame.questions, h.1, h.2]
    rfl
  · exact ⟨Nat.le_refl 1, show 1 ≤ u32Max by decide⟩
  · intro _
    rw [hsame.questions, h.1]
    simp [start, deckUrn, suppliedBatches, Urn.Conserved]

/-- **The step lemma.** -/
theorem cardInvariant_step {s s' : State} {e : Event} (h : CardInvariant r s)
    (hstep : r.step s e = some s') : CardInvariant r s' := by
  have htr := transition_of_step hstep
  by_cases hstart : e = .start
  · subst hstart
    cases htr with
    | start hphase => exact ⟨nofun, fun _ => cards_start (h.fresh hphase)⟩
  · by_cases hiter : e = .iterate
    · subst hiter
      cases htr with
      | iterate hphase =>
          have hstarted : s.phase ≠ .unstarted := by simp [hphase]
          exact ⟨fun hc => absurd hc (started_step hstarted hstep),
            fun _ => cards_iterate (h.cards hstarted)⟩
    · have hsame := sameSchedule_of_transition htr fun hc => absurd hc hiter
      have hdeck := deck_of_transition htr hstart hiter
      by_cases hstarted : s.phase = .unstarted
      · refine ⟨fun _ => ?_, fun hc => ?_⟩
        · rw [hsame.questions, hsame.ids]
          exact h.fresh hstarted
        · -- only the start leaves the first phase
          refine absurd ?_ hc
          cases htr with
          | start _ => exact absurd rfl hstart
          | iterate hphase => simp [hstarted] at hphase
          | tick hphase _ => simp [hstarted, Phase.due] at hphase
          | completed hphase _ => simp [hstarted] at hphase
          | drained hphase _ => simp [hstarted] at hphase
          | close hphase => simp [hstarted] at hphase
          | _ => exact hstarted
      · exact ⟨fun hc => absurd hc (started_step hstarted hstep),
          fun _ => (h.cards hstarted).congr hsame hdeck⟩

theorem cardInvariant_reachable {s : State} (h : r.system.Reachable s) : CardInvariant r s := by
  refine h.invariant ?_ fun s e s' hs hstep => cardInvariant_step hs hstep
  intro s₀ hinit
  rcases hinit with ⟨clock, rfl⟩
  exact ⟨fun _ => ⟨rfl, rfl⟩, fun hc => absurd rfl hc⟩

end Round

/-- **Activity ids are unique for a whole round**: over any sequence of
deals, and so over the Activities any run of a round has scheduled. -/
theorem activity_ids_unique {template : List Question} (hids : PlainIds template) :
    (∀ calls, (dealAll template calls).deck.deckCycle < u32Max →
        ((dealAll template calls).dealt.map (·.id)).Nodup)
      ∧ ∀ (r : Round) (s : State), r.input.questions = template → r.system.Reachable s →
          s.deck.deckCycle < u32Max → s.scheduledIds.Nodup := by
  refine ⟨fun calls hcycle => nodup_ids_of_conserved hids (conserved_dealAll hcycle), ?_⟩
  rintro r s rfl hreach hcycle
  have hinv := Round.cardInvariant_reachable hreach
  by_cases hphase : s.phase = .unstarted
  · rw [(hinv.fresh hphase).2]
    exact List.nodup_nil
  · have hcards := hinv.cards hphase
    rw [hcards.ids]
    exact nodup_ids_of_conserved hids (hcards.conserved hcycle)

theorem activity_ids_unique_demo :
    ((dealAll demoTemplate demoCalls).dealt.map (·.id)) =
        ["demo-rust", "demo-rust-cycle-2", "demo-go"]
      ∧ ((dealAll demoTemplate demoCalls).dealt.map (·.id)).Nodup :=
  ⟨by decide +kernel, (activity_ids_unique
    (by decide +kernel : PlainIds demoTemplate)).1 demoCalls (by decide)⟩

end DurableTrivia.Web

import DurableTrivia.Web.ActivityIds
import DurableTrivia.Web.RustOnly

/-!
# Refusals — what a deal that deals nothing leaves behind

`deal_question` tries, recycles, and tries again. A refusal before the
recycling touches nothing; a refusal after it leaves one more cycle in
the deck, and that is the deal the template cannot serve: Rust-only
without a Rust question anywhere. The loop asks again at every turn, so
such a deck grows for as long as the modifier lasts.
-/

namespace DurableTrivia.Web

open DurableTrivia.Shared DurableTrivia.Lib

/-- The deal recycles the deck and has still nothing to deal. -/
def RecyclesInVain (deck : Deck) (template : List Question) (rustOnly eligible : Bool) : Prop :=
  rustOnly = true ∧ template ≠ [] ∧ ¬ HasRust deck.available ∧ ¬ HasRust template
    ∧ (eligible = true ∨ deck.available = [])

instance (deck : Deck) (template : List Question) (rustOnly eligible : Bool) :
    Decidable (RecyclesInVain deck template rustOnly eligible) :=
  inferInstanceAs (Decidable (_ ∧ _ ∧ _ ∧ _ ∧ _))

variable {deck deck' : Deck} {template : List Question} {rustOnly eligible : Bool}

/-! ## One deal -/

/-- A fresh cycle is something to take unless only Rust may be taken. -/
theorem rustOnly_of_recycled_none (hne : template ≠ [])
    (hnone : takeNextQuestion (deck.recycle template).available rustOnly = none) :
    rustOnly = true := by
  cases rustOnly with
  | true => rfl
  | false =>
      have hempty := takeNextQuestion_false_eq_none.mp hnone
      exact absurd (List.append_eq_nil_iff.mp hempty).2 (refillQuestionDeck_ne_nil hne _)

/-- The cards a recycled deck has more. -/
theorem length_recycle (deck : Deck) (template : List Question) :
    (deck.recycle template).available.length = deck.available.length + template.length := by
  show (deck.available ++ refillQuestionDeck _ _).length = _
  rw [List.length_append, length_refillQuestionDeck]

/-- A deal that recycles in vain deals nothing and leaves the new cycle. -/
theorem dealQuestion_of_recyclesInVain (h : RecyclesInVain deck template rustOnly eligible) :
    dealQuestion deck template rustOnly eligible = (none, deck.recycle template) := by
  obtain ⟨rfl, hne, havailable, htemplate, hrecycles⟩ := h
  have hfirst : takeNextQuestion deck.available true = none :=
    takeNextQuestion_true_eq_none.mpr havailable
  have hsecond : takeNextQuestion (deck.recycle template).available true = none := by
    rw [takeNextQuestion_true_eq_none, hasRust_recycle]
    exact not_or.mpr ⟨havailable, htemplate⟩
  unfold dealQuestion
  rw [hfirst]
  dsimp only
  rw [if_neg (by simpa using hne), if_neg, hsecond]
  rcases hrecycles with heligible | hempty
  · simp [heligible]
  · simp [hempty]

/-- **A refused deal has recycled in vain or touched nothing.** -/
theorem refused_deal (h : dealQuestion deck template rustOnly eligible = (none, deck')) :
    RecyclesInVain deck template rustOnly eligible ∧ deck' = deck.recycle template
      ∨ ¬ RecyclesInVain deck template rustOnly eligible ∧ deck' = deck := by
  by_cases hvain : RecyclesInVain deck template rustOnly eligible
  · rw [dealQuestion_of_recyclesInVain hvain] at h
    cases h
    exact .inl ⟨hvain, rfl⟩
  · refine .inr ⟨hvain, ?_⟩
    by_cases hheld : eligible = false ∧ deck.available ≠ []
    · unfold dealQuestion at h
      cases htake : takeNextQuestion deck.available rustOnly with
      | some taken =>
          rw [htake] at h
          cases h
      | none =>
          rw [htake] at h
          dsimp only at h
          split at h
          · exact (Prod.mk.inj h).2.symm
          · rw [if_pos (by simp [hheld])] at h
            exact (Prod.mk.inj h).2.symm
    · have hdealt := dealt_dealQuestion deck template rustOnly eligible
      rw [h] at hdealt
      cases hdealt with
      | noTemplate _ _ => rfl
      | heldBack _ _ _ => rfl
      | recycledInVain hnone hne hagain =>
          exfalso
          obtain rfl : rustOnly = true := rustOnly_of_recycled_none hne hagain
          have htemplate : ¬ HasRust template := fun hrust =>
            takeNextQuestion_true_eq_none.mp hagain (hasRust_recycle.mpr (.inr hrust))
          refine hvain ⟨rfl, hne, takeNextQuestion_true_eq_none.mp hnone, htemplate, ?_⟩
          cases heligible : eligible with
          | true => exact .inl rfl
          | false =>
              right
              by_contra hleft
              exact hheld ⟨heligible, hleft⟩

namespace Round
variable {r : Round}

/-! ## The loop asks again -/

/-- An iteration whose first deal recycles in vain. -/
def RetriesInVain (r : Round) (t : State × Event) : Prop :=
  t.2 = .iterate ∧ t.1.clock < effectiveDeadline t.1
    ∧ t.1.pendingActivities
      < activityTarget t.1.wf.snapshot r.input.backlogOverride r.fullParticipantBacklog
    ∧ RecyclesInVain t.1.deck r.input.questions
      (inForce t.1.wf.snapshot.chaos.rustOnlyUntilUnixMs t.1.clock) r.eligibleDeckRefill

/-- The loop only adds to what is scheduled. -/
theorem scheduledQuestions_scheduleQuestions (deadlineUnixMs : Nat) (rustOnly : Bool) (slots : Nat)
    (s : State) :
    s.scheduledQuestions
      <+: (r.scheduleQuestions deadlineUnixMs rustOnly slots s).scheduledQuestions := by
  refine scheduleQuestions_keeps (P := fun s' => s.scheduledQuestions <+: s'.scheduledQuestions)
    ?_ ?_ (List.prefix_rfl)
  · intro s' question deck hs' _
    rw [scheduledQuestions_scheduleOne]
    exact hs'.trans (List.prefix_append ..)
  · intro s' deck hs' _
    exact hs'

/-- A loop that schedules nothing was refused its first deal, if it asked
for one. -/
theorem deck_of_nothing_scheduled {deadlineUnixMs : Nat} {slots : Nat} {s : State}
    (h : (r.scheduleQuestions deadlineUnixMs rustOnly slots s).scheduledQuestions
      = s.scheduledQuestions) :
    (r.scheduleQuestions deadlineUnixMs rustOnly slots s).deck
      = if 0 < slots ∧ RecyclesInVain s.deck r.input.questions rustOnly r.eligibleDeckRefill then
          s.deck.recycle r.input.questions
        else s.deck := by
  cases slots with
  | zero => rfl
  | succ slots =>
      cases hdeal : dealQuestion s.deck r.input.questions rustOnly r.eligibleDeckRefill with
      | mk question deck =>
          rw [scheduleQuestions, hdeal] at h ⊢
          cases question with
          | none =>
              rcases refused_deal hdeal with ⟨hvain, rfl⟩ | ⟨hvain, rfl⟩
              · rw [if_pos ⟨Nat.succ_pos slots, hvain⟩]
              · rw [if_neg fun hboth => hvain hboth.2]
          | some question =>
              exfalso
              have hmore := (scheduledQuestions_scheduleQuestions (r := r) deadlineUnixMs rustOnly
                slots (r.scheduleOne deadlineUnixMs s question deck)).length_le
              dsimp only at h
              rw [h, scheduledQuestions_scheduleOne] at hmore
              simp at hmore

theorem scheduledQuestions_step {s s' : State} {e : Event} (hstep : r.step s e = some s') :
    s.scheduledQuestions <+: s'.scheduledQuestions := by
  have htransition := transition_of_step hstep
  by_cases hiter : e = .iterate
  · subst hiter
    cases htransition with
    | iterate _ =>
        have hscheduled : s.scheduledQuestions <+: (r.scheduled s).scheduledQuestions :=
          scheduledQuestions_scheduleQuestions _ _ _ s.sweep
        have hit := iterated_iterate r s
        generalize r.iterate s = s' at hit ⊢
        cases hit with
        | deadline _ => exact List.prefix_rfl
        | exhausted _ _ _ => exact hscheduled
        | sleeping _ _ _ _ => exact hscheduled
        | selecting _ _ _ => exact hscheduled
  · rw [(sameSchedule_of_transition htransition fun h => absurd h hiter).questions]

/-- A pass of the loop that schedules nothing. -/
theorem deck_of_silent_pass {s : State} (hlt : s.clock < effectiveDeadline s)
    (hsilent : (r.scheduled s).scheduledQuestions = s.scheduledQuestions) :
    (r.RetriesInVain (s, .iterate) ∧ (r.scheduled s).deck = s.deck.recycle r.input.questions)
      ∨ (¬ r.RetriesInVain (s, .iterate) ∧ (r.scheduled s).deck = s.deck) := by
  have hflag : inForce s.sweep.wf.snapshot.chaos.rustOnlyUntilUnixMs s.sweep.clock
      = inForce s.wf.snapshot.chaos.rustOnlyUntilUnixMs s.clock :=
    inForce_keepUnexpired (Nat.le_refl s.clock)
  have hdeck : (r.scheduled s).deck
      = if 0 < activityTarget s.wf.snapshot r.input.backlogOverride r.fullParticipantBacklog
            - s.pendingActivities
          ∧ RecyclesInVain s.deck r.input.questions
            (inForce s.sweep.wf.snapshot.chaos.rustOnlyUntilUnixMs s.sweep.clock)
            r.eligibleDeckRefill then
          s.deck.recycle r.input.questions
        else s.deck := deck_of_nothing_scheduled (s := s.sweep) hsilent
  rw [hdeck, hflag]
  by_cases hvain : r.RetriesInVain (s, .iterate)
  · obtain ⟨_, _, hslots, hrecycles⟩ := hvain
    rw [if_pos ⟨Nat.sub_pos_of_lt hslots, hrecycles⟩]
    exact .inl ⟨⟨rfl, hlt, hslots, hrecycles⟩, rfl⟩
  · rw [if_neg]
    · exact .inr ⟨hvain, rfl⟩
    · intro ⟨hslots, hrecycles⟩
      exact hvain ⟨rfl, hlt, Nat.lt_of_sub_pos hslots, hrecycles⟩

/-- **A step that schedules nothing** leaves the deck, but for a deal that
recycled in vain. -/
theorem deck_of_silent_step {s s' : State} {e : Event} (hstarted : s.phase ≠ .unstarted)
    (hstep : r.step s e = some s') (hsilent : s'.scheduledQuestions = s.scheduledQuestions) :
    (r.RetriesInVain (s, e) ∧ s'.deck = s.deck.recycle r.input.questions)
      ∨ (¬ r.RetriesInVain (s, e) ∧ s'.deck = s.deck) := by
  have htransition := transition_of_step hstep
  by_cases hiter : e = .iterate
  · subst hiter
    cases htransition with
    | iterate _ =>
        have hit := iterated_iterate r s
        generalize r.iterate s = s' at hit hsilent ⊢
        cases hit with
        | deadline hdue => exact .inr ⟨fun hvain => absurd hvain.2.1 (Nat.not_lt.mpr hdue), rfl⟩
        | exhausted hlt _ _ => exact deck_of_silent_pass hlt hsilent
        | sleeping hlt _ _ _ => exact deck_of_silent_pass hlt hsilent
        | selecting hlt _ _ => exact deck_of_silent_pass hlt hsilent
  · refine .inr ⟨fun hvain => hiter hvain.1, deck_of_transition htransition ?_ hiter⟩
    intro hstart
    subst hstart
    cases htransition with
    | start hphase => exact hstarted hphase

theorem started_path {s s' : State} {hist : List (State × Event)} (hpath : r.system.Path s hist s')
    (hstarted : s.phase ≠ .unstarted) : s'.phase ≠ .unstarted :=
  hpath.preserves hstarted fun _ _ _ h hstep => started_step h hstep

theorem scheduledQuestions_path {s s' : State} {hist : List (State × Event)}
    (hpath : r.system.Path s hist s') : s.scheduledQuestions <+: s'.scheduledQuestions := by
  induction hpath with
  | nil => exact List.prefix_rfl
  | snoc _ hstep ih => exact ih.trans (scheduledQuestions_step hstep)

/-- While nothing is scheduled the deck stays, or has grown by the cycles
recycled in vain. -/
theorem deck_of_silent_path {s s' : State} {hist : List (State × Event)}
    (hstarted : s.phase ≠ .unstarted)
    (hpath : r.system.Path s hist s') (hsilent : s'.scheduledQuestions = s.scheduledQuestions) :
    (s'.deck = s.deck ∧ ∀ t ∈ hist, ¬ r.RetriesInVain t)
      ∨ (s.deck.available.length < s'.deck.available.length ∧ ∃ t ∈ hist, r.RetriesInVain t) := by
  induction hpath with
  | nil => exact .inl ⟨rfl, fun _ ht => by cases ht⟩
  | @snoc hist mid s' e hpath hstep ih =>
      -- nothing was scheduled on the way either
      have hmid : mid.scheduledQuestions = s.scheduledQuestions := by
        have hafter := (scheduledQuestions_step hstep).length_le
        rw [hsilent] at hafter
        exact ((scheduledQuestions_path hpath).eq_of_length_le hafter).symm
      have hbefore := ih hmid
      have hgrown : s.deck.available.length ≤ mid.deck.available.length := by
        rcases hbefore with ⟨hsame, _⟩ | ⟨hlonger, _⟩
        · rw [hsame]
        · exact Nat.le_of_lt hlonger
      rcases deck_of_silent_step (started_path hpath hstarted) hstep (hsilent.trans hmid.symm)
        with ⟨hvain, hdeck⟩ | ⟨hkept, hdeck⟩
      · right
        rw [hdeck, length_recycle]
        have hcards : 0 < r.input.questions.length := List.length_pos_of_ne_nil hvain.2.2.2.2.1
        exact ⟨by omega, _, List.mem_cons_self, hvain⟩
      · rw [hdeck]
        rcases hbefore with ⟨hsame, hnone⟩ | ⟨hlonger, t, ht, hvain⟩
        · refine .inl ⟨hsame, fun t ht => ?_⟩
          rcases List.mem_cons.mp ht with rfl | ht
          · exact hkept
          · exact hnone t ht
        · exact .inr ⟨hlonger, t, List.mem_cons_of_mem _ ht, hvain⟩

/-- **A refused deal leaves the deck intact exactly when it does not
recycle in vain**, and so do all the refusals of a stretch of a run. -/
theorem refused_deal_intact_iff (deck : Deck) (template : List Question) (rustOnly eligible : Bool)
    (r : Round) :
    ((∀ deck', dealQuestion deck template rustOnly eligible = (none, deck') → deck' = deck)
        ↔ ¬ RecyclesInVain deck template rustOnly eligible)
      ∧ ∀ s hist s', s.phase ≠ .unstarted → r.system.Path s hist s' →
        s'.scheduledQuestions = s.scheduledQuestions →
        (s'.deck = s.deck ↔ ∀ t ∈ hist, ¬ r.RetriesInVain t) := by
  constructor
  · constructor
    · intro hintact hvain
      have hdeck := hintact _ (dealQuestion_of_recyclesInVain hvain)
      have hlength := length_recycle deck template
      have hcards : 0 < template.length := List.length_pos_of_ne_nil hvain.2.1
      rw [hdeck] at hlength
      omega
    · intro hvain deck' hdeal
      rcases refused_deal hdeal with ⟨hrecycles, _⟩ | ⟨_, hdeck⟩
      · exact absurd hrecycles hvain
      · exact hdeck
  · intro s hist s' hstarted hpath hsilent
    rcases deck_of_silent_path hstarted hpath hsilent with ⟨hsame, hnone⟩ | ⟨hlonger, t, ht, hvain⟩
    · exact ⟨fun _ => hnone, fun _ => hsame⟩
    · constructor
      · intro hsame
        rw [hsame] at hlonger
        exact absurd hlonger (Nat.lt_irrefl _)
      · intro hnone
        exact absurd hvain (hnone t ht)

/-- A template without a Rust question, under Rust-only. -/
theorem refused_deal_grows_deck :
    ¬ ∀ deck template rustOnly eligible deck',
      dealQuestion deck template rustOnly eligible = (none, deck') → deck' = deck := by
  intro hclaim
  have hdeck := hclaim ⟨[], 1⟩ (demoTemplate.take 1) true true
    ((⟨[], 1⟩ : Deck).recycle (demoTemplate.take 1)) (by decide)
  exact absurd hdeck (by decide)

end Round

end DurableTrivia.Web

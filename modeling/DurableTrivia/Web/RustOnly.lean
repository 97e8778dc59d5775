import DurableTrivia.Web.Modifiers

/-!
# RustOnly — the modifier that deals one category

Under Rust-only a deck without Rust questions has nothing eligible, and
is recycled; a template with a Rust question puts one into every cycle,
so the second attempt serves. From the single deal to the loop: every
slot is filled, and only with what the modifier allows.
-/

namespace DurableTrivia.Web

open DurableTrivia.Shared DurableTrivia.Lib

/-- Some question is of the category Rust-only deals. -/
def HasRust (questions : List Question) : Prop := ∃ question ∈ questions, question.category = "rust"

instance (questions : List Question) : Decidable (HasRust questions) :=
  inferInstanceAs (Decidable (∃ question ∈ questions, _))

/-! ## One deal -/

theorem takeNextQuestion_true_eq_none {available : List Question} :
    takeNextQuestion available true = none ↔ ¬ HasRust available := by
  constructor
  · intro hnone ⟨question, hmem, hrust⟩
    unfold takeNextQuestion at hnone
    rw [if_pos rfl] at hnone
    cases hindex : available.findIdx? fun question => question.category == "rust" with
    | none =>
        rw [List.findIdx?_eq_none_iff] at hindex
        simpa [hrust] using hindex question hmem
    | some index =>
        have hlt := (List.findIdx?_eq_some_iff_findIdx_eq.mp hindex).1
        rw [hindex, Option.bind_some, List.getElem?_eq_getElem hlt] at hnone
        cases hnone
  · intro hrust
    unfold takeNextQuestion
    rw [if_pos rfl, List.findIdx?_eq_none_iff.mpr]
    · rfl
    · intro question hmem
      rw [beq_eq_false_iff_ne]
      intro hcategory
      exact hrust ⟨question, hmem, hcategory⟩

/-- What has a Rust question can serve a deal of either kind. -/
theorem takeNextQuestion_of_hasRust {available : List Question} (h : HasRust available)
    (rustOnly : Bool) : ∃ taken, takeNextQuestion available rustOnly = some taken := by
  rw [← Option.isSome_iff_exists, Option.isSome_iff_ne_none]
  cases rustOnly with
  | true =>
      intro hnone
      exact takeNextQuestion_true_eq_none.mp hnone h
  | false =>
      intro hnone
      obtain ⟨question, hmem, _⟩ := h
      rw [takeNextQuestion_false_eq_none.mp hnone] at hmem
      cases hmem

/-- A cycle keeps the categories of the template. -/
theorem hasRust_refillQuestionDeck {template : List Question} {cycle : Nat} :
    HasRust (refillQuestionDeck template cycle) ↔ HasRust template := by
  have hperm := refillQuestionDeck_perm template cycle
  constructor
  · intro ⟨question, hmem, hrust⟩
    obtain ⟨card, hcard, rfl⟩ := List.mem_map.mp (hperm.mem_iff.mp hmem)
    exact ⟨card, hcard, hrust⟩
  · intro ⟨card, hcard, hrust⟩
    exact ⟨suffixId cycle card, hperm.mem_iff.mpr (List.mem_map_of_mem hcard), hrust⟩

theorem hasRust_append {a b : List Question} : HasRust (a ++ b) ↔ HasRust a ∨ HasRust b := by
  unfold HasRust
  simp only [List.mem_append, or_and_right, exists_or]

theorem hasRust_recycle {deck : Deck} {template : List Question} :
    HasRust (deck.recycle template).available ↔ HasRust deck.available ∨ HasRust template := by
  show HasRust (deck.available ++ refillQuestionDeck _ _) ↔ _
  rw [hasRust_append, hasRust_refillQuestionDeck]

/-- **A template with a Rust question always serves.** -/
theorem dealQuestion_of_hasRust {template : List Question} (h : HasRust template) (deck : Deck)
    (rustOnly : Bool) :
    ∃ question deck', dealQuestion deck template rustOnly true = (some question, deck') := by
  have hdealt := dealt_dealQuestion deck template rustOnly true
  generalize dealQuestion deck template rustOnly true = result at hdealt
  cases hdealt with
  | served _ => exact ⟨_, _, rfl⟩
  | recycled _ _ _ => exact ⟨_, _, rfl⟩
  | noTemplate _ hempty =>
      obtain ⟨question, hmem, _⟩ := h
      rw [hempty] at hmem
      cases hmem
  | heldBack _ hold _ => cases hold
  | recycledInVain _ _ hnone =>
      obtain ⟨taken, htake⟩ := takeNextQuestion_of_hasRust
        (hasRust_recycle.mpr (.inr h) : HasRust (deck.recycle template).available) rustOnly
      rw [htake] at hnone
      cases hnone

/-- **Rust-only deals Rust questions**, whatever the deck and the patch. -/
theorem dealQuestion_category {deck deck' : Deck} {template : List Question} {eligible : Bool}
    {question : Question} (h : dealQuestion deck template true eligible = (some question, deck')) :
    question.category = "rust" := by
  have hdealt := dealt_dealQuestion deck template true eligible
  rw [h] at hdealt
  cases hdealt with
  | served htake => exact takeNextQuestion_rust htake
  | recycled _ _ htake => exact takeNextQuestion_rust htake

namespace Round
variable {r : Round}

/-! ## The scheduling loop -/

/-- Every slot is filled when every deal is served. -/
theorem scheduleQuestions_fills (heligible : r.eligibleDeckRefill = true)
    (hrust : HasRust r.input.questions) (deadlineUnixMs : Nat) (rustOnly : Bool) (slots : Nat)
    (s : State) :
    (r.scheduleQuestions deadlineUnixMs rustOnly slots s).pendingActivities
      = s.pendingActivities + slots := by
  induction slots generalizing s with
  | zero => rfl
  | succ slots ih =>
      obtain ⟨question, deck, hdeal⟩ := dealQuestion_of_hasRust hrust s.deck rustOnly
      rw [← heligible] at hdeal
      rw [scheduleQuestions, hdeal]
      dsimp only
      rw [ih]
      show s.pendingActivities + 1 + slots = _
      omega

theorem schedule_fills (heligible : r.eligibleDeckRefill = true)
    (hrust : HasRust r.input.questions) (s : State) (deadlineUnixMs : Nat) :
    (r.schedule s deadlineUnixMs).pendingActivities = max s.pendingActivities
      (activityTarget s.wf.snapshot r.input.backlogOverride r.fullParticipantBacklog) := by
  unfold schedule
  rw [scheduleQuestions_fills heligible hrust]
  omega

/-- A pass that meets the deadline ahead ends with its slots full. -/
theorem iterate_fills (heligible : r.eligibleDeckRefill = true)
    (hrust : HasRust r.input.questions) {s : State} (hlt : s.clock < effectiveDeadline s) :
    (r.iterate s).pendingActivities = max s.pendingActivities
      (activityTarget s.wf.snapshot r.input.backlogOverride r.fullParticipantBacklog) := by
  have hfilled : (r.scheduled s).pendingActivities = max s.pendingActivities
      (activityTarget s.wf.snapshot r.input.backlogOverride r.fullParticipantBacklog) :=
    schedule_fills heligible hrust s.sweep (effectiveDeadline s)
  have hit := iterated_iterate r s
  generalize r.iterate s = s' at hit ⊢
  cases hit with
  | deadline hdue => exact absurd hlt (Nat.not_lt.mpr hdue)
  | exhausted _ _ _ => exact hfilled
  | sleeping _ _ _ _ => exact hfilled
  | selecting _ _ _ => exact hfilled

/-! ## What is scheduled under the modifier -/

/-- `s'` has scheduled more than `s`, and only Rust questions. -/
def OnlyRustSince (s s' : State) : Prop :=
  ∃ more, s'.scheduledQuestions = s.scheduledQuestions ++ more
    ∧ ∀ question ∈ more, question.category = "rust"

theorem OnlyRustSince.of_sameSchedule {s s' : State} (h : SameSchedule s s') :
    OnlyRustSince s s' :=
  ⟨[], by rw [h.questions, List.append_nil], fun _ hmem => by cases hmem⟩

theorem onlyRustSince_scheduleQuestions (deadlineUnixMs : Nat) (slots : Nat) (s : State) :
    OnlyRustSince s (r.scheduleQuestions deadlineUnixMs true slots s) := by
  refine scheduleQuestions_keeps (P := OnlyRustSince s) ?_ ?_ (.of_sameSchedule (.of_eq rfl))
  · intro s' question deck ⟨more, hmore, hrust⟩ hdeal
    refine ⟨more ++ [question], ?_, fun other hother => ?_⟩
    · rw [scheduledQuestions_scheduleOne, hmore, List.append_assoc]
    · rcases List.mem_append.mp hother with hother | hother
      · exact hrust other hother
      · rw [List.mem_singleton.mp hother]
        exact dealQuestion_category hdeal
  · intro s' deck h _
    exact h

theorem onlyRustSince_iterate {s : State}
    (hforce : inForce s.wf.snapshot.chaos.rustOnlyUntilUnixMs s.clock = true) :
    OnlyRustSince s (r.iterate s) := by
  have hscheduled : OnlyRustSince s (r.scheduled s) := by
    have hflag : inForce s.sweep.wf.snapshot.chaos.rustOnlyUntilUnixMs s.sweep.clock = true :=
      (inForce_keepUnexpired (Nat.le_refl s.clock)).trans hforce
    unfold scheduled schedule
    rw [hflag]
    exact onlyRustSince_scheduleQuestions _ _ s.sweep
  have hit := iterated_iterate r s
  generalize r.iterate s = s' at hit ⊢
  cases hit with
  | deadline _ => exact .of_sameSchedule (.of_eq rfl)
  | exhausted _ _ _ => exact hscheduled
  | sleeping _ _ _ _ => exact hscheduled
  | selecting _ _ _ => exact hscheduled

/-- **No other category leaks**: while the modifier is in force a
transition schedules Rust questions or nothing. -/
theorem onlyRustSince_step {s s' : State} {e : Event} (hstep : r.step s e = some s')
    (hforce : inForce s.wf.snapshot.chaos.rustOnlyUntilUnixMs s.clock = true) :
    OnlyRustSince s s' := by
  have htransition := transition_of_step hstep
  by_cases hiter : e = .iterate
  · subst hiter
    cases htransition with
    | iterate _ => exact onlyRustSince_iterate hforce
  · exact .of_sameSchedule (sameSchedule_of_transition htransition fun h => absurd h hiter)

/-- **Rust-only never starves the field and never leaks**: with a Rust
question in the template every deal is served, a Rust-only one with a
Rust question; a scheduling pass fills its slots; and whatever a run
schedules while the modifier is in force is a Rust question. -/
theorem rust_only_never_starves (r : Round) (heligible : r.eligibleDeckRefill = true)
    (hrust : HasRust r.input.questions) :
    (∀ deck rustOnly, ∃ question deck',
        dealQuestion deck r.input.questions rustOnly true = (some question, deck')
          ∧ (rustOnly = true → question.category = "rust"))
      ∧ (∀ s deadlineUnixMs, (r.schedule s deadlineUnixMs).pendingActivities
        = max s.pendingActivities
          (activityTarget s.wf.snapshot r.input.backlogOverride r.fullParticipantBacklog))
      ∧ (∀ s, s.clock < effectiveDeadline s → (r.iterate s).pendingActivities
        = max s.pendingActivities
          (activityTarget s.wf.snapshot r.input.backlogOverride r.fullParticipantBacklog))
      ∧ ∀ hist s, r.system.Run hist s → ∀ t ∈ hist, ∀ s' untilUnixMs,
        r.step t.1 t.2 = some s' →
        t.1.wf.snapshot.chaos.rustOnlyUntilUnixMs = some untilUnixMs → t.1.clock < untilUnixMs →
        ∃ more, s'.scheduledQuestions = t.1.scheduledQuestions ++ more
          ∧ ∀ question ∈ more, question.category = "rust" := by
  refine ⟨fun deck rustOnly => ?_, schedule_fills heligible hrust,
    fun s hlt => iterate_fills heligible hrust hlt, ?_⟩
  · obtain ⟨question, deck', hdeal⟩ := dealQuestion_of_hasRust hrust deck rustOnly
    refine ⟨question, deck', hdeal, fun honly => ?_⟩
    rw [honly] at hdeal
    exact dealQuestion_category hdeal
  · intro hist s _ t _ s' untilUnixMs hstep huntil hlt
    refine onlyRustSince_step hstep ?_
    rw [huntil]
    simpa [inForce] using hlt

/-- With nothing but other cards left, the cycle brings a Rust question. -/
theorem rust_only_never_starves_quiet :
    quietRound.eligibleDeckRefill = true ∧ HasRust quietRound.input.questions
      ∧ ∃ question deck', dealQuestion ⟨demoTemplate.take 1, 1⟩ quietRound.input.questions true true
        = (some question, deck') ∧ question.category = "rust" := by
  have hrust : HasRust quietRound.input.questions := by decide
  obtain ⟨question, deck', hdeal, hcategory⟩ :=
    (rust_only_never_starves quietRound rfl hrust).1 ⟨demoTemplate.take 1, 1⟩ true
  exact ⟨rfl, hrust, question, deck', hdeal, hcategory rfl⟩

end Round

end DurableTrivia.Web

import DurableTrivia.Web.ControllerInvariant
import DurableTrivia.Web.EndRound

/-!
# Slot — who will give the single-game slot back

`active_workflow` is given back by the `start_game` that reserved it, or
by the observer that it hands the game to. Everything else leaves the
slot alone, so it is never stolen. But the reservation is a plain value,
not a guard: a handler whose client disconnects behind its reservation is
dropped with nobody to clear it, and from then on the slot is taken for
good.
-/

namespace DurableTrivia.Web

open DurableTrivia.Shared DurableTrivia.Lib

/-- `start_game` behind its reservation. -/
def Task.reserved : Task → Bool
  | .starting _ | .startSent _ => true
  | .observing _ _ | .updating _ | .answered _ => false

namespace Controller

/-! ## Ownership -/

/-- The game in the slot has a task that will give it back. -/
def OwnedBy (active : Option String) (tasks : Tasks Task) : Prop :=
  ∀ gameId, active = some gameId → ∃ i t, tasks.task i = some t ∧ t.owns = some gameId

/-- `start_game` behind its reservation, or `observe_workflow`, runs for
the game in the slot. -/
def Owned (c : Controller) : Prop := OwnedBy c.activeWorkflow c.tasks

/-- A client disconnects from a `start_game` that reserved the slot. -/
def abandons (c : Controller) : ControllerEvent → Bool
  | .drop i => (c.tasks.task i).any Task.reserved
  | _ => false

/-- Every event that takes a game out of the slot is a step of the task
that owns it. -/
def NotStolen (c : Controller) (e : ControllerEvent) : Prop :=
  ∀ c' gameId, c.step e = some c' → c.activeWorkflow = some gameId →
    c'.activeWorkflow ≠ some gameId →
      c'.activeWorkflow = none ∧ ∃ i t, (e = .startFailed i ∨ e = .release i)
        ∧ c.tasks.task i = some t ∧ t.owns = some gameId

/-- The slot is taken, and no task owns it. -/
structure Orphaned (gameId : String) (c : Controller) : Prop where
  taken : c.activeWorkflow = some gameId
  booted : c.boot = .done
  ownerless : Tasks.All (fun t => t.owns = none) c.tasks

/-! ## Keeping an owner -/

theorem OwnedBy.become {active : Option String} {tasks : Tasks Task} {i : Nat} {old : Task}
    {new : Option Task} (h : OwnedBy active tasks) (hi : tasks.task i = some old)
    (hnew : ∀ gameId, old.owns = some gameId → ∃ t, new = some t ∧ t.owns = some gameId) :
    OwnedBy active (tasks.become i new) := by
  intro gameId hactive
  obtain ⟨j, t, hj, howns⟩ := h gameId hactive
  by_cases hij : i = j
  · subst hij
    rw [hi] at hj
    cases hj
    obtain ⟨t, hsome, howns⟩ := hnew gameId howns
    exact ⟨i, t, by rw [Tasks.task_become new hi, if_pos rfl, hsome], howns⟩
  · exact ⟨j, t, by rw [Tasks.task_become new hi, if_neg hij, hj], howns⟩

theorem OwnedBy.spawn {active : Option String} {tasks : Tasks Task} (h : OwnedBy active tasks)
    (t : Task) : OwnedBy active (tasks.spawn t) := by
  intro gameId hactive
  obtain ⟨i, old, hi, howns⟩ := h gameId hactive
  have hlt : i ≠ tasks.length := by
    intro hc
    unfold Tasks.task at hi
    rw [hc, List.getElem?_eq_none (Nat.le_refl _)] at hi
    cases hi
  exact ⟨i, old, by rw [Tasks.task_spawn, if_neg hlt, hi], howns⟩

/-- A task that is spawned for the game in the slot owns it. -/
theorem ownedBy_spawn {gameId : String} {tasks : Tasks Task} {t : Task}
    (howns : t.owns = some gameId) : OwnedBy (some gameId) (tasks.spawn t) := by
  intro other hactive
  cases hactive
  exact ⟨tasks.length, t, by rw [Tasks.task_spawn, if_pos rfl], howns⟩

theorem ownedBy_none (tasks : Tasks Task) : OwnedBy none tasks := by
  intro gameId hactive
  cases hactive

/-- The owner of the slot gives it back. -/
theorem releaseSlot_active {c : Controller} {i : Nat} {t : Task} {gameId : String}
    (hinv : ControllerInvariant c) (hi : c.tasks.task i = some t)
    (howns : t.owns = some gameId) :
    c.activeWorkflow = some gameId ∧ (c.releaseSlot gameId).activeWorkflow = none := by
  have hactive : c.activeWorkflow = some gameId := (hinv.fits i t hi).slot howns
  refine ⟨hactive, ?_⟩
  unfold releaseSlot
  rw [if_pos hactive]

/-- **The step lemma**: only a disconnect behind the reservation loses
the owner. -/
theorem owned_step {c c' : Controller} {e : ControllerEvent} (hinv : ControllerInvariant c)
    (h : Owned c) (hkept : c.abandons e = false) (hstep : c.step e = some c') : Owned c' := by
  cases move_of_step hstep with
  | workflow _ _ => exact h
  | bootFailed _ => exact h
  | bootAnswered _ _ => exact h
  | @bootPublish snapshot hboot =>
      unfold resume
      split
      · exact h
      · next gameId hgame =>
          split
          · exact ownedBy_spawn rfl
          · exact h
  | reserve _ _ _ => exact ownedBy_spawn rfl
  | startWorkflow hi _ => exact h.become hi fun gameId howns => ⟨_, rfl, howns⟩
  | @startFailed i round hi =>
      show OwnedBy (c.releaseSlot round.input.gameId).activeWorkflow _
      rcases hi with hi | hi
      · rw [(releaseSlot_active hinv hi rfl).2]
        exact ownedBy_none _
      · rw [(releaseSlot_active hinv hi rfl).2]
        exact ownedBy_none _
  | announce hi => exact h.become hi fun gameId howns => ⟨_, rfl, howns⟩
  | checked hi _ => exact h.become hi fun gameId howns => ⟨_, rfl, howns⟩
  | checkedOut hi hactive => exact absurd ((hinv.fits _ _ hi).slot rfl) hactive
  | queryAnswered hi _ => exact h.become hi fun gameId howns => ⟨_, rfl, howns⟩
  | queryFailed hi => exact h.become hi fun gameId howns => ⟨_, rfl, howns⟩
  | publish hi => exact h.become hi fun gameId howns => ⟨_, rfl, howns⟩
  | @release i gameId hi =>
      show OwnedBy (c.releaseSlot gameId).activeWorkflow _
      rw [(releaseSlot_active hinv hi rfl).2]
      exact ownedBy_none _
  | request _ _ => exact h.spawn _
  | execute hi _ _ => exact h.become hi fun gameId howns => by cases howns
  | refuse hi => exact h.become hi fun gameId howns => by cases howns
  | answer hi => exact h.become hi fun gameId howns => by cases howns
  | @drop i t hi hhandler =>
      refine h.become hi fun gameId howns => ?_
      have hfree : t.reserved = false := by simpa [abandons, hi] using hkept
      cases t with
      | starting _ => cases hfree
      | startSent _ => cases hfree
      | observing game phase => exact absurd rfl (hhandler game phase)
      | updating _ => cases howns
      | answered _ => cases howns

/-! ## Losing the owner -/

/-- **A disconnect behind the reservation orphans the slot.** -/
theorem orphaned_of_abandons {c c' : Controller} {e : ControllerEvent}
    (hinv : ControllerInvariant c) (hlost : c.abandons e = true) (hstep : c.step e = some c') :
    ∃ gameId, Orphaned gameId c' := by
  cases move_of_step hstep with
  | @drop i t hi _ =>
      have hreserved : t.reserved = true := by simpa [abandons, hi] using hlost
      obtain ⟨gameId, howns⟩ : ∃ gameId, t.owns = some gameId := by
        cases t with
        | starting round => exact ⟨_, rfl⟩
        | startSent round => exact ⟨_, rfl⟩
        | observing _ _ => cases hreserved
        | updating _ => cases hreserved
        | answered _ => cases hreserved
      refine ⟨gameId, (hinv.fits i t hi).slot howns, hinv.done hi, ?_⟩
      intro j tj hj
      have hj : (c.tasks.become i none).task j = some tj := hj
      rw [Tasks.task_become none hi] at hj
      by_cases hij : i = j
      · rw [if_pos hij] at hj
        cases hj
      · rw [if_neg hij] at hj
        have hother := hinv.one.other hi (by rw [howns]; rfl) hj hij
        simpa using hother
  | _ => cases hlost

/-- **An orphaned slot stays taken**: no step gives it back. -/
theorem Orphaned.step {gameId : String} {c c' : Controller} {e : ControllerEvent}
    (h : Orphaned gameId c) (hstep : c.step e = some c') : Orphaned gameId c' := by
  have hnone : ∀ {i : Nat} {t : Task}, c.tasks.task i = some t → t.owns = none :=
    fun hi => h.ownerless _ _ hi
  have hbecome : ∀ {i : Nat} {old : Task} {new : Option Task}, c.tasks.task i = some old →
      (∀ t, new = some t → t.owns = none) →
      Tasks.All (fun t => t.owns = none) (c.tasks.become i new) :=
    fun hi hnew => h.ownerless.become hi hnew
  cases move_of_step hstep with
  | workflow _ _ => exact ⟨h.taken, h.booted, h.ownerless⟩
  | bootFailed hboot => rw [h.booted] at hboot; cases hboot
  | bootAnswered hboot _ => rw [h.booted] at hboot; cases hboot
  | bootPublish hboot => rw [h.booted] at hboot; cases hboot
  | reserve _ hfree _ => rw [h.taken] at hfree; cases hfree
  | startWorkflow hi _ => cases hnone hi
  | startFailed hi =>
      rcases hi with hi | hi
      · cases hnone hi
      · cases hnone hi
  | announce hi => cases hnone hi
  | checked hi _ => cases hnone hi
  | checkedOut hi _ => cases hnone hi
  | queryAnswered hi _ => cases hnone hi
  | queryFailed hi => cases hnone hi
  | publish hi => cases hnone hi
  | release hi => cases hnone hi
  | request _ _ => exact ⟨h.taken, h.booted, h.ownerless.spawn rfl⟩
  | execute hi _ _ =>
      refine ⟨h.taken, h.booted, hbecome hi ?_⟩
      intro t ht
      cases ht
      rfl
  | refuse hi => exact ⟨h.taken, h.booted, hbecome hi (by simp)⟩
  | answer hi => exact ⟨h.taken, h.booted, hbecome hi (by simp)⟩
  | drop hi _ => exact ⟨h.taken, h.booted, hbecome hi (by simp)⟩

/-- An orphaned slot has no owner. -/
theorem Orphaned.not_owned {gameId : String} {c : Controller} (h : Orphaned gameId c) :
    ¬ Owned c := by
  intro howned
  obtain ⟨i, t, hi, howns⟩ := howned gameId h.taken
  rw [h.ownerless i t hi] at howns
  cases howns

/-- Before the server accepts requests the slot is free. -/
theorem free_while_booting {c : Controller} (h : system.Reachable c) (hboot : c.boot ≠ .done) :
    c.activeWorkflow = none := by
  have hfree : c.boot = .done ∨ c.activeWorkflow = none := by
    refine h.invariant (I := fun c => c.boot = .done ∨ c.activeWorkflow = none) ?_ ?_
    · intro c₀ hinit
      obtain ⟨current, usedIds, rfl, _⟩ := hinit
      exact .inr rfl
    · intro c e c' hc hstep
      cases move_of_step (show c.step e = some c' from hstep) with
      | bootFailed _ => exact .inl rfl
      | bootPublish _ =>
          left
          unfold resume
          split
          · rfl
          · split <;> rfl
      | reserve hdone _ _ => exact .inl hdone
      | startFailed _ =>
          unfold releaseSlot
          split
          · exact hc.imp id fun _ => rfl
          · exact hc
      | release _ =>
          unfold releaseSlot
          split
          · exact hc.imp id fun _ => rfl
          · exact hc
      | bootAnswered hquery _ =>
          rcases hc with hdone | hnone
          · rw [hdone] at hquery
            cases hquery
          · exact .inr hnone
      | _ => exact hc
  exact hfree.resolve_left hboot

/-- **The slot is never stolen.** -/
theorem notStolen {c : Controller} (h : system.Reachable c) (e : ControllerEvent) :
    NotStolen c e := by
  have hinv := controllerInvariant_reachable h
  intro c' gameId hstep hactive hgone
  have hgives : ∀ {i : Nat} {t : Task} {game : String}, (e = .startFailed i ∨ e = .release i) →
      c.tasks.task i = some t → t.owns = some game →
      c'.activeWorkflow = (c.releaseSlot game).activeWorkflow →
      c'.activeWorkflow = none ∧ ∃ i t, (e = .startFailed i ∨ e = .release i)
        ∧ c.tasks.task i = some t ∧ t.owns = some gameId := by
    intro i t game he hi howns hafter
    obtain ⟨hslot, hfree⟩ := releaseSlot_active hinv hi howns
    rw [hactive] at hslot
    cases hslot
    exact ⟨hafter.trans hfree, i, t, he, hi, howns⟩
  cases move_of_step hstep with
  | bootPublish hboot =>
      rw [free_while_booting h (by simp [hboot])] at hactive
      cases hactive
  | reserve _ hfree _ =>
      rw [hactive] at hfree
      cases hfree
  | @startFailed i round hi =>
      rcases hi with hi | hi
      · exact hgives (.inl rfl) hi rfl rfl
      · exact hgives (.inl rfl) hi rfl rfl
  | release hi => exact hgives (.inr rfl) hi rfl rfl
  | _ => exact absurd hactive hgone

/-! ## Every run -/

/-- **The slot had an owner throughout exactly when no client left a
`start_game` behind its reservation.** -/
theorem owned_throughout_iff {hist : List (Controller × ControllerEvent)} {c : Controller}
    (hrun : system.Run hist c) :
    StepSystem.Throughout (fun _ c => Owned c) hist c ↔
      ∀ t ∈ hist, t.1.abandons t.2 = false := by
  obtain ⟨c₀, hinit, hpath⟩ := hrun
  induction hpath with
  | nil =>
      have howned : Owned c₀ := by
        obtain ⟨current, usedIds, rfl, _⟩ := hinit
        exact ownedBy_none _
      exact ⟨fun _ t ht => absurd ht List.not_mem_nil, fun _ => howned⟩
  | @snoc hist c c' e hpath hstep ih =>
      have hstep : c.step e = some c' := hstep
      have hinv := controllerInvariant_reachable ⟨hist, c₀, hinit, hpath⟩
      show Owned c' ∧ StepSystem.Throughout (fun _ c => Owned c) hist c ↔ _
      rw [ih, List.forall_mem_cons]
      constructor
      · intro h
        refine ⟨?_, h.2⟩
        by_contra hlost
        rw [Bool.not_eq_false] at hlost
        obtain ⟨gameId, horphaned⟩ := orphaned_of_abandons hinv hlost hstep
        exact horphaned.not_owned h.1
      · intro h
        have howned : Owned c := by
          have hbefore := ih.mpr h.2
          cases hist with
          | nil => exact hbefore
          | cons t hist => exact hbefore.1
        exact ⟨owned_step hinv howned h.1 hstep, h.2⟩

/-- **The single-game slot is never orphaned exactly in the runs in which
no client leaves a `start_game` behind its reservation**, and it is never
stolen in any run. -/
theorem slot_owned_iff {hist : List (Controller × ControllerEvent)} {c : Controller}
    (hrun : system.Run hist c) :
    (StepSystem.Throughout (fun _ c => Owned c) hist c ↔
        ∀ t ∈ hist, t.1.abandons t.2 = false)
      ∧ (∀ t ∈ hist, NotStolen t.1 t.2) ∧ ∀ e, NotStolen c e :=
  ⟨owned_throughout_iff hrun, fun t ht => notStolen (hrun.reachable_of_mem ht) t.2,
    notStolen hrun.reachable⟩

/-- The next game of the same operator. -/
def nextRound : Round :=
  { Round.busyRound with input := { Round.busyRound.input with gameId := "next" } }

/-- A failed start, and then a game that is started, ended and observed to
its end. -/
theorem slot_owned_iff_demo :
    ∃ hist c, system.Run hist c ∧ hist.length = 20 ∧ c.activeWorkflow = none
      ∧ StepSystem.Throughout (fun _ c => Owned c) hist c := by
  obtain ⟨hist, c, hrun, htest⟩ := StepSystem.exists_run_of_exec (S := system) {}
    [.bootQuery false, .reserve Round.busyRound, .startFailed 0, .reserve nextRound,
      .startWorkflow 1 0, .announce 1, .workflow .start, .workflow .iterate, .check 1,
      .query 1 true, .publish 1, .workflow .endRound, .workflow (.advance 1000), .workflow .tick,
      .workflow .iterate, .workflow (.close none), .check 1, .query 1 true, .publish 1, .release 1]
    (fun result => result.1.all (fun t => !t.1.abandons t.2) && result.1.length == 20
      && result.2.activeWorkflow == none)
    ⟨none, [], rfl, fun x hx => by cases hx⟩ (by decide +kernel)
  simp only [Bool.and_eq_true, beq_iff_eq, List.all_eq_true, Bool.not_eq_true'] at htest
  obtain ⟨⟨hkept, hlength⟩, hfree⟩ := htest
  exact ⟨hist, c, hrun, hlength, hfree, (slot_owned_iff hrun).1.mpr hkept⟩

/-- **A disconnect takes the slot for good**: the client leaves while
`start_workflow` is under way, the game is in the slot with no task to
give it back, and no later run of the server does. -/
theorem disconnect_orphans_slot :
    ∃ hist c, system.Run hist c ∧ c.activeWorkflow = some "quiet" ∧ ¬ Owned c
      ∧ ∀ later c', system.Path c later c' → c'.activeWorkflow = some "quiet" ∧ ¬ Owned c' := by
  obtain ⟨hist, c, hrun, htest⟩ := StepSystem.exists_run_of_exec (S := system) {}
    [.bootQuery false, .reserve Round.busyRound, .startWorkflow 0 0, .drop 0]
    (fun result => result.2.activeWorkflow == some "quiet" && result.2.tasks.every (fun _ => false))
    ⟨none, [], rfl, fun x hx => by cases hx⟩ (by decide +kernel)
  simp only [Bool.and_eq_true, beq_iff_eq] at htest
  obtain ⟨hactive, htasks⟩ := htest
  have hbooted : c.boot = .done := by
    by_contra hboot
    rw [free_while_booting hrun.reachable hboot] at hactive
    cases hactive
  have horphaned : Orphaned "quiet" c :=
    ⟨hactive, hbooted, (Tasks.every_iff.mp htasks).imp fun t ht => by cases ht⟩
  refine ⟨hist, c, hrun, hactive, horphaned.not_owned, ?_⟩
  intro later c' hpath
  have hlater := hpath.preserves (I := Orphaned "quiet") horphaned
    fun _ _ _ h hstep => h.step hstep
  exact ⟨hlater.taken, hlater.not_owned⟩

end Controller

end DurableTrivia.Web

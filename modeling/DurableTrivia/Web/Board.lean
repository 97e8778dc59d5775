import DurableTrivia.Web.ControllerInvariant
import DurableTrivia.Web.EndRound

/-!
# Board — does the board stay finished

`publish` has no version check: the last writer wins, and the observer
that would repair a stale write returns after the Finished snapshot. A
handler that still holds the snapshot of an accepted update then puts
the board back to Running. The board stays finished in every run where
no handler holds one when the observer publishes the end of its game,
and every other run is one publish away from a board that does not.
-/

namespace DurableTrivia.Web

open DurableTrivia.Shared DurableTrivia.Lib

/-- A handler is about to publish a snapshot of this game. -/
def Task.answers (gameId : Option String) : Task → Bool
  | .answered snapshot => snapshot.gameId == gameId
  | .starting _ | .startSent _ | .observing _ _ | .updating _ => false

namespace Controller

/-- When the event publishes a Finished snapshot, no handler holds an
unpublished one of the same game. -/
def orderly (c : Controller) : ControllerEvent → Bool
  | .publish i =>
      match c.tasks.task i with
      | some (.observing _ (.holding snapshot)) =>
          snapshot.status != .finished || c.tasks.every fun t => !t.answers snapshot.gameId
      | _ => true
  | _ => true

/-- An observer of the game gives the slot back. -/
def releases (gameId : String) (t : Controller × ControllerEvent) : Bool :=
  match t.2 with
  | .release i =>
      match t.1.tasks.task i with
      | some (.observing observed .releasing) => observed == gameId
      | _ => false
  | _ => false

/-- Some observer of the game has released its slot. -/
def Released (hist : List (Controller × ControllerEvent)) (gameId : String) : Prop :=
  ∃ t ∈ hist, releases gameId t = true

/-- Once finished, a game is Running on the board never again; after a
round, while no game has the slot, the board shows its end. -/
structure BoardFinal (hist : List (Controller × ControllerEvent)) (c : Controller) : Prop where
  stays : ∀ gameId, c.facts.ShownFinished gameId → c.snapshot.gameId = some gameId →
    c.snapshot.status = .finished
  free : c.activeWorkflow = none → ∀ gameId, Released hist gameId →
    c.snapshot.gameId = some gameId → c.snapshot.status = .finished

@[simp] theorem releaseSlot_tasks (c : Controller) (gameId : String) :
    (c.releaseSlot gameId).tasks = c.tasks := by
  unfold releaseSlot
  split <;> rfl

/-! ## What every run keeps -/

/-- What was published stays in the record. -/
theorem published_step {c c' : Controller} {e : ControllerEvent} (h : c.step e = some c') :
    c.published <:+ c'.published := by
  cases move_of_step h with
  | workflow _ _ | bootFailed _ | bootAnswered _ _ | reserve _ _ _ | startWorkflow _ _
  | checked _ _ | checkedOut _ _ | queryAnswered _ _ | queryFailed _ | request _ _
  | execute _ _ _ | refuse _ | drop _ _ => exact List.suffix_rfl
  | announce _ | publish _ | answer _ => exact List.suffix_cons _ _
  | startFailed _ | release _ =>
      simp only [releaseSlot, become]
      split <;> exact List.suffix_rfl
  | bootPublish _ =>
      unfold resume
      split
      · exact List.suffix_rfl
      · split <;> exact List.suffix_cons _ _

theorem of_releases {c : Controller} {e : ControllerEvent} {gameId : String}
    (h : releases gameId (c, e) = true) :
    ∃ i, c.tasks.task i = some (.observing gameId .releasing) := by
  unfold releases at h
  split at h
  · next i _ =>
      split at h
      · next hi => exact ⟨i, by rw [hi, beq_iff_eq.mp h]⟩
      · cases h
  · cases h

/-- A game whose observer gave the slot back was shown finished. -/
theorem shownFinished_of_released {hist : List (Controller × ControllerEvent)} {c : Controller}
    (hrun : system.Run hist c) {gameId : String} (h : Released hist gameId) :
    c.facts.ShownFinished gameId := by
  have hboth := hrun.invariant
    (I := fun hist c => ControllerInvariant c
      ∧ ∀ gameId, Released hist gameId → c.facts.ShownFinished gameId)
    (fun c₀ hinit => ⟨.init hinit, fun gameId ⟨_, hmem, _⟩ => absurd hmem List.not_mem_nil⟩)
    fun hist c e c' hc hstep => ?_
  · exact hboth.2 gameId h
  · have hstep : c.step e = some c' := hstep
    obtain ⟨hinv, hreleased⟩ := hc
    refine ⟨hinv.step hstep, fun gameId ⟨t, hmem, ht⟩ => ?_⟩
    have hshown : c.facts.ShownFinished gameId := by
      rcases List.mem_cons.mp hmem with rfl | hmem
      · obtain ⟨i, hi⟩ := of_releases ht
        exact (hinv.fits i _ hi).2
      · exact hreleased gameId ⟨t, hmem, ht⟩
    obtain ⟨snapshot, hsnapshot, hgame⟩ := hshown
    exact ⟨snapshot, (published_step hstep).mem hsnapshot, hgame⟩

/-! ## What an orderly run keeps -/

/-- No handler can take the board back from an end it shows. -/
structure Settled (c : Controller) : Prop where
  board : ∀ gameId, c.facts.ShownFinished gameId → c.snapshot.gameId = some gameId →
    c.snapshot.status = .finished
  handlers : ∀ gameId, c.facts.ShownFinished gameId →
    Tasks.All (fun t => t.answers (some gameId) = false) c.tasks

namespace Settled
variable {c c' : Controller} {i : Nat} {t : Task}

/-- Steps that publish nothing. -/
theorem keep (h : c.Settled) (hsnapshot : c'.snapshot = c.snapshot)
    (hpublished : c'.published = c.published)
    (htasks : ∀ gameId, c.facts.ShownFinished gameId →
      Tasks.All (fun t => t.answers (some gameId) = false) c.tasks →
      Tasks.All (fun t => t.answers (some gameId) = false) c'.tasks) : c'.Settled := by
  have hshown (gameId : String) :
      c'.facts.ShownFinished gameId ↔ c.facts.ShownFinished gameId := by
    simp only [Facts.ShownFinished, facts, hpublished]
  refine ⟨fun gameId hgame => ?_, fun gameId hgame => ?_⟩
  · rw [hsnapshot]
    exact h.board gameId ((hshown gameId).mp hgame)
  · have hbefore := (hshown gameId).mp hgame
    exact htasks gameId hbefore (h.handlers gameId hbefore)

/-- One task moves, to a place from which it publishes no answer. -/
theorem become (h : c.Settled) (hi : c.tasks.task i = some t) {new : Option Task}
    (hnew : ∀ t', new = some t' → ∀ gameId, t'.answers gameId = false) :
    (c.become i new).Settled :=
  h.keep rfl rfl fun gameId _ hall => hall.become hi fun t' ht' => hnew t' ht' (some gameId)

theorem finish (h : c.Settled) (hi : c.tasks.task i = some t) : (c.become i none).Settled :=
  h.become hi fun _ hnone => by cases hnone

theorem releaseSlot (h : c.Settled) (gameId : String) : (c.releaseSlot gameId).Settled := by
  unfold Controller.releaseSlot
  split
  · exact h.keep rfl rfl fun _ _ hall => hall
  · exact h

/-- A snapshot of a game that is not shown finished may be published. -/
theorem publish (h : c.Settled) {snapshot : GameSnapshot} (hrun : snapshot.status ≠ .finished)
    (hopen : ∀ gameId, snapshot.gameId = some gameId → ¬ c.facts.ShownFinished gameId) :
    (c.publish snapshot).Settled := by
  refine ⟨fun gameId hshown hgame => ?_, fun gameId hshown => ?_⟩
  · exact absurd ((Facts.shownFinished_publish_of_ne (f := c.facts) hrun).mp hshown)
      (hopen gameId hgame)
  · exact h.handlers gameId ((Facts.shownFinished_publish_of_ne (f := c.facts) hrun).mp hshown)

/-- The end of a game may be published when no handler answers for it. -/
theorem publishEnd (h : c.Settled) {snapshot : GameSnapshot} (hend : snapshot.status = .finished)
    (hquiet : Tasks.All (fun t => t.answers snapshot.gameId = false) c.tasks) :
    (c.publish snapshot).Settled := by
  refine ⟨fun gameId _ _ => hend, fun gameId hshown => ?_⟩
  rcases (Facts.shownFinished_publish (f := c.facts)).mp hshown with ⟨hgame, _⟩ | hbefore
  · rw [← hgame]
    exact hquiet
  · exact h.handlers gameId hbefore

/-- The startup publishes before any handler runs. -/
theorem resume (h : c.Settled) (hbooting : c.Booting) (snapshot : GameSnapshot) :
    (c.resume snapshot).Settled := by
  unfold Controller.resume
  split
  · exact h.keep rfl rfl fun _ _ hall => hall
  · next gameId hgame =>
      by_cases hrun : snapshot.status = .running
      · rw [if_pos hrun]
        refine Settled.keep (c := c.publish snapshot) ?_ rfl rfl fun _ _ hall => hall.spawn rfl
        exact h.publish (by rw [hrun]; decide) fun gameId _ => hbooting.unshown gameId
      · rw [if_neg hrun]
        refine Settled.keep (c := c.publish snapshot) ?_ rfl rfl fun _ _ hall => hall
        by_cases hend : snapshot.status = .finished
        · exact h.publishEnd hend hbooting.no_task
        · exact h.publish hend fun gameId _ => hbooting.unshown gameId

end Settled

/-- What an orderly publication of the observer found. -/
theorem quiet_of_orderly {c : Controller} {i : Nat} {gameId : String} {snapshot : GameSnapshot}
    (hi : c.tasks.task i = some (.observing gameId (.holding snapshot))) :
    c.orderly (.publish i) = true ↔ (snapshot.status = .finished →
      Tasks.All (fun t => t.answers snapshot.gameId = false) c.tasks) := by
  simp only [orderly, hi, Bool.or_eq_true, bne_iff_ne, Tasks.every_iff, Bool.not_eq_true']
  exact Decidable.imp_iff_not_or.symm

/-- **The step lemma**: an orderly step leaves the board settled. -/
theorem settled_step {c c' : Controller} {e : ControllerEvent} (hinv : ControllerInvariant c)
    (h : c.Settled) (horderly : c.orderly e = true) (hnext : c.step e = some c') :
    c'.Settled := by
  cases move_of_step hnext with
  | workflow _ _ | bootFailed _ | bootAnswered _ _ => exact h.keep rfl rfl fun _ _ hall => hall
  | bootPublish hboot => exact h.resume (hinv.booting (by simp [hboot])) _
  | reserve _ _ _ | request _ _ => exact h.keep rfl rfl fun _ _ hall => hall.spawn rfl
  | @startWorkflow i clock round hi _ =>
      refine h.keep rfl rfl fun gameId _ hall => hall.become hi ?_
      intro t' heq
      cases heq
      rfl
  | startFailed hi =>
      rcases hi with hi | hi
      · exact (h.releaseSlot _).finish (by rwa [releaseSlot_tasks])
      · exact (h.releaseSlot _).finish (by rwa [releaseSlot_tasks])
  | @announce i round hi =>
      have hlive : c.facts.Live round.input.gameId := hinv.fits i _ hi
      have hpublish : (c.publish (startingSnapshot round)).Settled := by
        refine h.publish (by simp [startingSnapshot]) ?_
        intro gameId heq
        cases heq
        exact hlive.unfinished
      refine hpublish.become hi ?_
      rintro t' ⟨⟩ gameId
      rfl
  | checked hi _ | queryAnswered hi _ | queryFailed hi =>
      refine h.become hi ?_
      rintro t' ⟨⟩ gameId
      rfl
  | checkedOut hi _ | refuse hi | drop hi _ => exact h.finish hi
  | @publish i gameId snapshot hi =>
      obtain ⟨hlive, x, hx, htook⟩ := hinv.fits i _ hi
      have hpublish : (c.publish snapshot).Settled := by
        by_cases hend : snapshot.status = .finished
        · exact h.publishEnd hend ((quiet_of_orderly hi).mp horderly hend)
        · refine h.publish hend fun named hnamed => ?_
          obtain ⟨y, hy, rfl⟩ := hlive.current
          rw [hx] at hy
          cases hy
          rw [htook.game named hnamed]
          exact hlive.unfinished
      refine hpublish.become hi ?_
      rintro t' ⟨⟩ gameId
      rfl
  | release hi => exact (h.releaseSlot _).finish (by rwa [releaseSlot_tasks])
  | @execute i update x state hi hx hstep =>
      refine h.keep rfl rfl fun gameId hshown hall => hall.become hi ?_
      intro t' heq
      cases heq
      -- the game of a closed execution accepts no update
      have htook := Execution.took_now (x := ⟨x.round, state⟩)
        ((hinv.sound.current x hx).1.next hstep)
      simp only [Task.answers, beq_eq_false_iff_ne]
      intro hgame
      have hclosed := hinv.sound.ended gameId hshown x hx (htook.game gameId hgame).symm
      exact Execution.no_step_of_closed hclosed hstep
  | @answer i snapshot hi =>
      obtain ⟨hrun, hnamed⟩ := hinv.fits i _ hi
      refine Settled.finish (h.publish (by rw [hrun]; decide) fun gameId hgame hshown => ?_) hi
      have hquiet := h.handlers gameId hshown i _ hi
      simp [Task.answers, hgame] at hquiet

/-! ## When the board stays finished -/

theorem settled_of_orderly {hist : List (Controller × ControllerEvent)} {c : Controller}
    (hrun : system.Run hist c) (horderly : ∀ t ∈ hist, t.1.orderly t.2 = true) : c.Settled := by
  obtain ⟨c₀, hinit, hpath⟩ := hrun
  have hboth := hpath.preserves_guarded (I := fun c => ControllerInvariant c ∧ c.Settled)
    (C := fun c e => c.orderly e = true) horderly ?_ ?_
  · exact hboth.2
  · refine ⟨.init hinit, ?_⟩
    obtain ⟨current, usedIds, rfl, _⟩ := hinit
    have hunshown (gameId : String) :
        ¬ ({ current, usedIds } : Controller).facts.ShownFinished gameId := by
      simp [Facts.ShownFinished, facts]
    exact ⟨fun gameId hc => absurd hc (hunshown gameId),
      fun gameId hc => absurd hc (hunshown gameId)⟩
  · intro c e c' h hC hstep
    have hstep : c.step e = some c' := hstep
    exact ⟨h.1.step hstep, settled_step h.1 h.2 hC hstep⟩

/-- The handler that was disorderly passed over puts the board back. -/
theorem answer_of_not_orderly {c c' : Controller} {e : ControllerEvent}
    (hinv : ControllerInvariant c) (hnext : c.step e = some c') (h : c.orderly e = false) :
    ∃ j c'' gameId, c'.step (.answer j) = some c'' ∧ c''.facts.ShownFinished gameId
      ∧ c''.snapshot.gameId = some gameId ∧ c''.snapshot.status = .running := by
  cases move_of_step hnext with
  | @publish i gameId snapshot hi =>
      have hnot : ¬ c.orderly (.publish i) = true := by simp [h]
      rw [quiet_of_orderly hi] at hnot
      obtain ⟨hend, hsome⟩ := Classical.not_imp.mp hnot
      simp only [Tasks.All, not_forall, Bool.not_eq_false] at hsome
      obtain ⟨j, t, hj, hanswers⟩ := hsome
      have hij : i ≠ j := by
        rintro rfl
        rw [hi] at hj
        cases hj
        cases hanswers
      cases t with
      | starting _ | startSent _ | observing _ _ | updating _ => cases hanswers
      | answered late =>
          have hgame : late.gameId = snapshot.gameId := by simpa [Task.answers] using hanswers
          obtain ⟨hrun, hnamed⟩ := hinv.fits j _ hj
          obtain ⟨g, hg⟩ := Option.isSome_iff_exists.mp hnamed
          have hlater := Tasks.task_become (some (.observing gameId
            (if snapshot.status = .finished then .releasing else .checking))) hi j
          rw [if_neg hij, hj] at hlater
          refine ⟨j, _, g, by simp only [step, become, publish, hlater]; rfl, ?_, hg, hrun⟩
          exact ⟨snapshot, by simp [facts], hgame.symm.trans hg, hend⟩
  | workflow _ _ | bootFailed _ | bootAnswered _ _ | bootPublish _ | reserve _ _ _
  | startWorkflow _ _ | startFailed _ | announce _ | checked _ _ | checkedOut _ _
  | queryAnswered _ _ | queryFailed _ | release _ | request _ _ | execute _ _ _ | refuse _
  | answer _ | drop _ _ => cases h

/-- **The board stays finished in every orderly run**, and after a step
that is not orderly one publication takes it back to Running. -/
theorem board_final_while_orderly {hist : List (Controller × ControllerEvent)} {c : Controller}
    (hrun : system.Run hist c) :
    ((∀ t ∈ hist, t.1.orderly t.2 = true) → BoardFinal hist c)
      ∧ ∀ e c', c.step e = some c' → c.orderly e = false →
        ∃ j c'', c'.step (.answer j) = some c''
          ∧ ¬ BoardFinal ((c', .answer j) :: (c, e) :: hist) c'' := by
  refine ⟨fun horderly => ?_, fun e c' hnext hdisorder => ?_⟩
  · have hsettled := settled_of_orderly hrun horderly
    exact ⟨hsettled.board,
      fun _ gameId hreleased => hsettled.board gameId (shownFinished_of_released hrun hreleased)⟩
  · have hinv := controllerInvariant_reachable hrun.reachable
    obtain ⟨j, c'', gameId, hanswer, hshown, hgame, hstatus⟩ :=
      answer_of_not_orderly hinv hnext hdisorder
    refine ⟨j, c'', hanswer, fun hfinal => ?_⟩
    have hend := hfinal.stays gameId hshown hgame
    rw [hstatus] at hend
    cases hend

/-- The process starts and Temporal has no execution yet. -/
theorem init_idle : system.init {} := by
  refine ⟨none, [], rfl, fun x hx => ?_⟩
  cases hx

/-- One game: the operator ends it, and the observer sees its end before
the handler of `end_round` published. -/
def demoGame : List ControllerEvent :=
  [.bootQuery false, .reserve Round.quietRound, .startWorkflow 0 0, .announce 0,
    .workflow .start, .workflow .iterate, .request .endRound, .execute 1,
    .workflow (.advance 1000), .workflow .tick, .workflow .iterate, .workflow (.close none),
    .check 0, .query 0 true]

/-- The handler publishes first. -/
theorem board_final_while_orderly_demo :
    ∃ hist c, system.Run hist c ∧ c.activeWorkflow = none
      ∧ c.snapshot.gameId = some "quiet" ∧ c.snapshot.status = .finished
      ∧ BoardFinal hist c := by
  obtain ⟨hist, c, hrun, htest⟩ := StepSystem.exists_run_of_exec (S := system) {}
    (demoGame ++ [.answer 1, .publish 0, .release 0])
    (fun result => result.1.all (fun t => t.1.orderly t.2)
      && result.2.activeWorkflow == none && result.2.snapshot.gameId == some "quiet"
      && result.2.snapshot.status == .finished)
    init_idle (by decide +kernel)
  simp only [Bool.and_eq_true, beq_iff_eq, List.all_eq_true] at htest
  obtain ⟨⟨⟨horderly, hfree⟩, hgame⟩, hstatus⟩ := htest
  exact ⟨hist, c, hrun, hfree, hgame, hstatus, (board_final_while_orderly hrun).1 horderly⟩

/-- **The handler publishes last**: the round is over, nothing holds the
slot, and the board shows it Running. -/
theorem late_update_reopens_board :
    ∃ hist c, system.Run hist c ∧ c.activeWorkflow = none ∧ Released hist "quiet"
      ∧ c.facts.ShownFinished "quiet" ∧ c.snapshot.gameId = some "quiet"
      ∧ c.snapshot.status = .running ∧ ¬ BoardFinal hist c := by
  obtain ⟨hist, c, hrun, htest⟩ := StepSystem.exists_run_of_exec (S := system) {}
    (demoGame ++ [.publish 0, .release 0, .answer 1])
    (fun result => result.2.activeWorkflow == none
      && result.1.any (releases "quiet")
      && result.2.snapshot.gameId == some "quiet" && result.2.snapshot.status == .running)
    init_idle (by decide +kernel)
  simp only [Bool.and_eq_true, beq_iff_eq, List.any_eq_true] at htest
  obtain ⟨⟨⟨hfree, hreleased⟩, hgame⟩, hstatus⟩ := htest
  have hshown := shownFinished_of_released hrun hreleased
  refine ⟨hist, c, hrun, hfree, hreleased, hshown, hgame, hstatus, fun hfinal => ?_⟩
  have hend := hfinal.stays "quiet" hshown hgame
  rw [hstatus] at hend
  cases hend

end Controller

end DurableTrivia.Web

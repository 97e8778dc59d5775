import DurableTrivia.Firmware.Choices
import DurableTrivia.Firmware.Custody
import DurableTrivia.Firmware.Watcher

/-!
# LiveQuestion — who may take a question off the screen

A question is live from the request that shows it to the next screen
request of an Activity. Standings are refused while a question is on the
screen, but `Waiting` is not: the watcher asks `answering` first, and the
UI thread sets it when it receives the question. A watcher whose hold
ends while the question is still in the channel finds nothing answering,
and its `Waiting` arrives behind the question. Where that does not
happen, a live question keeps the screen.
-/

namespace DurableTrivia.Firmware

open DurableTrivia.Shared DurableTrivia.Lib

namespace Device

/-- A run of the device: its states and events, the latest first. -/
abbrev History := List (Device × DeviceEvent)

/-- The screen request an Activity makes at a transition. -/
def asks (t : Device × DeviceEvent) : Option UiRequest :=
  match t.2, t.1.badge.activity with
  | .ask _, .showing task => some (.question (t.1.badge.asked + 1) task)
  | .activity (.joined points _), .joining task (.ok (.answer selectedIndex)) =>
      some (Badge.verdict task selectedIndex points)
  | .activity (.joined _ saves), .joining task (.ok .panic) =>
      (t.1.badge.session.abandon task.gameId task.question.id saves).map fun _ => .crashed
  | .activity .held, .feedback _ _ => some .waiting
  | .activity .blackoutOver, .blackout _ => some .recovered
  | _, _ => none

/-- The question an Activity showed, when that is the last request an
Activity made. -/
def liveQuestion : History → Option (Nat × QuestionTask)
  | [] => none
  | t :: earlier =>
    match asks t with
    | some (.question number task) => some (number, task)
    | some _ => none
    | none => liveQuestion earlier

/-- The UI thread shows the question and hears its answers. -/
structure Owns (b : Badge) (number : Nat) (task : QuestionTask) : Prop where
  screen : b.ui.screen = .question number task
  answering : b.ui.shared.answering = true
  awake : b.turn ≠ .asleep
  /-- the buttons go to the recogniser -/
  recogniser : ∀ buttons now, (b.ui.advanceButtons buttons now).buttons
    = (b.ui.buttons.advance buttons b.ui.overlayUntil.isSome now panicHold).1
  /-- and what it recognises is queued for the question -/
  recognises : ∀ buttons now choice,
    (b.ui.buttons.advance buttons b.ui.overlayUntil.isSome now panicHold).2 = some choice →
    (b.ui.advanceButtons buttons now).shared
      = b.ui.shared.push { choice, screen := .question number task }

/-- A live question the UI thread has received owns the screen. -/
def Kept (hist : History) (d : Device) : Prop :=
  ∀ number task, liveQuestion hist = some (number, task) → d.badge.CaughtUp →
    Owns d.badge number task

/-- The watcher's hold ends, nothing is answering, and the last request
of the Activity is a question still in the channel. -/
def outrun (t : Device × DeviceEvent) : Bool :=
  match t.2 with
  | .holdOver =>
      !t.1.badge.ui.shared.answering
        && (t.1.badge.lastOwn t.1.badge.asked).any UiRequest.isQuestion
  | _ => false

/-! ## Where a live question is -/

/-- A request that is neither the Activity's own nor takes the screen. -/
def Quiet (number : Nat) (envelope : Envelope) : Prop :=
  envelope.sender ≠ .activity number ∧ envelope.request.yields = false
    ∧ envelope.request.isQuestion = false

/-- The question is on its way to the screen or on it, and nothing that
takes it off comes behind it. -/
inductive Safe (b : Badge) (number : Nat) (task : QuestionTask) : Prop
  | coming {before after : List Envelope}
      (hinbox : b.inbox = before ++ { sender := .activity number, request := .question number task }
        :: after)
      (hafter : ∀ envelope ∈ after, Quiet number envelope)
  | shown (hscreen : b.ui.screen = .question number task)
      (hinbox : ∀ envelope ∈ b.inbox, Quiet number envelope)

/-- What holds of live questions when none was outrun. -/
structure LiveInvariant (hist : History) (d : Device) : Prop where
  live : ∀ number task, liveQuestion hist = some (number, task) →
    number = d.badge.asked ∧ Safe d.badge number task
  leaving : d.leaving = true → liveQuestion hist = none
  booting : d.booted = false → liveQuestion hist = none

variable {hist : History} {d d' : Device} {number : Nat} {task : QuestionTask}

theorem liveQuestion_of_none {t : Device × DeviceEvent} (h : asks t = none) :
    liveQuestion (t :: hist) = liveQuestion hist := by
  simp [liveQuestion, h]

theorem liveQuestion_of_other {t : Device × DeviceEvent} {request : UiRequest}
    (h : asks t = some request) (hrequest : request.isQuestion = false) :
    liveQuestion (t :: hist) = none := by
  cases request with
  | question number task => cases hrequest
  | _ => simp [liveQuestion, h]

/-! ## What a step does to it -/

namespace Safe
variable {b b' : Badge}

/-- Steps that leave the channel and the screen alone. -/
theorem keep (h : Safe b number task) (hinbox : b'.inbox = b.inbox)
    (hscreen : b'.ui.screen = b.ui.screen) : Safe b' number task := by
  cases h with
  | coming hbefore hafter => exact .coming (hinbox.trans hbefore) hafter
  | shown hshown hquiet => exact .shown (hscreen.trans hshown) (hinbox ▸ hquiet)

theorem send (h : Safe b number task) {sender : Sender} {request : UiRequest}
    (hquiet : Quiet number { sender, request }) : Safe (b.send sender request) number task := by
  have hlast {envelopes : List Envelope} (hall : ∀ envelope ∈ envelopes, Quiet number envelope) :
      ∀ envelope ∈ envelopes ++ [(⟨sender, request⟩ : Envelope)], Quiet number envelope := by
    intro envelope hmem
    rcases List.mem_append.mp hmem with hmem | hmem
    · exact hall envelope hmem
    · rw [List.mem_singleton.mp hmem]
      exact hquiet
  cases h with
  | @coming before after hinbox hafter =>
      have hsent : (b.send sender request).inbox = before
          ++ { sender := .activity number, request := .question number task }
          :: (after ++ [⟨sender, request⟩]) := by
        simp [Badge.send, hinbox]
      exact .coming hsent (hlast hafter)
  | shown hscreen hinbox => exact .shown hscreen (hlast hinbox)

/-- A quiet request leaves the screen as it is. -/
theorem screenAfter_quiet {envelope : Envelope} (hquiet : Quiet number envelope) (screen : Screen) :
    envelope.request.screenAfter screen = screen := by
  rcases UiRequest.cases_screen envelope.request with ⟨n, t, hquestion⟩ | hyields | hother
  · have hnone := hquiet.2.2
    rw [hquestion] at hnone
    cases hnone
  · rw [hquiet.2.1] at hyields
    cases hyields
  · exact hother screen

theorem receive (h : Safe b number task) {envelope : Envelope} {rest : List Envelope}
    {pins : Buttons} {now : Nat} (hinbox : b.inbox = envelope :: rest) :
    Safe { b with ui := b.ui.apply envelope.request pins now, inbox := rest } number task := by
  cases h with
  | @coming before after hbefore hafter =>
      cases before with
      | nil =>
          -- the question itself arrives
          obtain ⟨rfl, rfl⟩ := List.cons.inj (hinbox.symm.trans hbefore)
          exact .shown UiThread.apply_screen hafter
      | cons first others =>
          obtain ⟨rfl, hrest⟩ := List.cons.inj (hinbox.symm.trans hbefore)
          exact .coming hrest hafter
  | shown hscreen hquiet =>
      rw [hinbox] at hquiet
      refine .shown ?_ fun other hother => hquiet other (List.mem_cons_of_mem _ hother)
      dsimp only
      rw [UiThread.apply_screen, screenAfter_quiet (hquiet envelope List.mem_cons_self), hscreen]

/-- A step of the UI thread. -/
theorem ui (h : Safe b number task) {e : Event} (hui : e.isUi = true)
    (hstep : b.step e = some b') : Safe b' number task := by
  cases Badge.move_of_step hstep with
  | receive _ hinbox => exact h.receive hinbox
  | wake _ | drained _ _ | sleepFailed _ => exact h.keep rfl rfl
  | sample _ _ => exact h.keep rfl (b.ui.finishTurn_frame _ _ _).1
  | _ => cases hui

/-- Once received, the question is on the screen. -/
theorem screen (h : Safe b number task) (hup : b.CaughtUp) :
    b.ui.screen = .question number task := by
  cases h with
  | coming hinbox _ =>
      have hquestion := hup { sender := .activity number, request := .question number task }
        (by simp [hinbox])
      cases hquestion
  | shown hscreen _ => exact hscreen

/-- Before, it is the last request of its Activity in the channel. -/
theorem lastOwn (h : Safe b number task) :
    b.ui.screen = .question number task ∨ b.lastOwn number = some (.question number task) := by
  cases h with
  | @coming before after hinbox hafter =>
      right
      have hnone : (after.filter fun envelope => envelope.sender == .activity number) = [] := by
        rw [List.filter_eq_nil_iff]
        intro envelope hmem
        simpa using (hafter envelope hmem).1
      simp [Badge.lastOwn, hinbox, hnone]
  | shown hscreen _ => exact .inl hscreen

end Safe

/-- A step of the Activity makes a request or leaves everything where it
is. -/
theorem activity_step {e : Event} {badge : Badge} (hactivity : e.isActivity = true)
    (hstep : d.badge.step e = some badge) :
    (∃ request, asks (d, .activity e) = some request ∧ request.isQuestion = false)
      ∨ (asks (d, .activity e) = none ∧ badge.inbox = d.badge.inbox
        ∧ badge.asked = d.badge.asked ∧ badge.ui.screen = d.badge.ui.screen) := by
  cases Badge.move_of_step hstep with
  | assign _ | checked _ _ | refused _ | prepared _ | unprepared _ _ | gaveUp _ _ | took _ _ _
  | idled _ _ _ | reported _ => exact .inr ⟨rfl, rfl, rfl, rfl⟩
  | failed hat => exact .inr ⟨by simp [asks, hat], rfl, rfl, rfl⟩
  | uncrashed hat hsession => exact .inr ⟨by simp [asks, hat, hsession], rfl, rfl, rfl⟩
  | answered hat => exact .inl ⟨_, by simp [asks, hat]; rfl, rfl⟩
  | crashed hat hsession => exact .inl ⟨_, by simp [asks, hat, hsession]; rfl, rfl⟩
  | held hat => exact .inl ⟨.waiting, by simp [asks, hat], rfl⟩
  | blackoutOver hat => exact .inl ⟨.recovered, by simp [asks, hat], rfl⟩
  | showQuestion _ | others _ | wake _ | receive _ _ | drained _ _ | sample _ _ | sleepFailed _ =>
      cases hactivity

theorem asks_aside {e : DeviceEvent} (h : e.isAside = true) : asks (d, e) = none := by
  cases e with
  | activity _ | ask _ => cases h
  | _ => rfl

theorem asked_ui {b b' : Badge} {e : Event} (hui : e.isUi = true) (hstep : b.step e = some b') :
    b'.asked = b.asked := by
  cases Badge.move_of_step hstep with
  | receive _ _ | wake _ | drained _ _ | sleepFailed _ | sample _ _ => rfl
  | _ => cases hui

theorem leaving_start {watcher : Option ResultWatcher} {handle : Bool} {b : Badge}
    (h : d.leaving = false) (hwatcher : watcher = d.watcher) :
    ({ d with badge := b, watcher := startResultWatcher watcher task handle } : Device).leaving
      = false := by
  unfold leaving at h ⊢
  unfold startResultWatcher
  rw [hwatcher]
  split
  · split
    · exact h
    · rfl
  · exact h

namespace LiveInvariant

theorem of_none (h : liveQuestion hist = none) : LiveInvariant hist d where
  live := by simp [h]
  leaving _ := h
  booting _ := h

/-- Steps that make no request of an Activity and leave what is live
safe. -/
theorem same {e : DeviceEvent} (h : LiveInvariant hist d) (hasks : asks (d, e) = none)
    (hasked : d'.badge.asked = d.badge.asked)
    (hsafe : ∀ number task, liveQuestion hist = some (number, task) →
      Safe d.badge number task → Safe d'.badge number task)
    (hleaving : d'.leaving = true → d.leaving = true ∨ liveQuestion hist = none)
    (hbooted : d.booted = true → d'.booted = true) : LiveInvariant ((d, e) :: hist) d' := by
  have hsame : liveQuestion ((d, e) :: hist) = liveQuestion hist := liveQuestion_of_none hasks
  refine ⟨?_, ?_, ?_⟩
  · intro number task hlive
    rw [hsame] at hlive
    obtain ⟨hnumber, hsafe'⟩ := h.live number task hlive
    exact ⟨hnumber.trans hasked.symm, hsafe number task hlive hsafe'⟩
  · intro hleaves
    rw [hsame]
    rcases hleaving hleaves with hbefore | hnone
    · exact h.leaving hbefore
    · exact hnone
  · intro hbooting
    rw [hsame]
    refine h.booting ?_
    by_contra hbefore
    rw [hbooted (by simpa using hbefore)] at hbooting
    cases hbooting

/-- **The step lemma.** -/
theorem step {e : DeviceEvent} {seen : Nat} (h : LiveInvariant hist d)
    (hnumbered : d.badge.Numbered seen) (hnext : d.step e = some d')
    (hpatient : outrun (d, e) = false) : LiveInvariant ((d, e) :: hist) d' := by
  cases move_of_step hnext with
  | activity _ hactivity hstep =>
      rcases activity_step hactivity hstep with ⟨request, hasks, hrequest⟩ |
        ⟨hasks, hinbox, hasked, hscreen⟩
      · exact .of_none (liveQuestion_of_other hasks hrequest)
      · exact h.same hasks hasked (fun _ _ _ hsafe => hsafe.keep hinbox hscreen) Or.inl id
  | @ask handle task hruns hat =>
      have hask : asks (d, .ask handle) = some (.question (d.badge.asked + 1) task) := by
        simp [asks, hat]
      simp only [runs, Bool.and_eq_true, Bool.not_eq_true'] at hruns
      refine ⟨?_, ?_, ?_⟩
      · intro number shown hlive
        simp only [liveQuestion, hask, Option.some.injEq, Prod.mk.injEq] at hlive
        obtain ⟨rfl, rfl⟩ := hlive
        exact ⟨rfl, @Safe.coming _ _ _ d.badge.inbox [] rfl (by simp)⟩
      · intro hleaves
        rw [leaving_start hruns.2 rfl] at hleaves
        cases hleaves
      · intro hbooting
        rw [hruns.1] at hbooting
        cases hbooting
  | ui hui hstep =>
      exact h.same rfl (asked_ui hui hstep) (fun _ _ _ hsafe => hsafe.ui hui hstep) Or.inl id
  | @sends _ sender request _ hsends hbadge hbooted hleaving =>
      have hasks : asks (d, e) = none := by
        cases hsends <;> rfl
      refine h.same hasks (by rw [hbadge]; rfl) (fun number task hlive hsafe => ?_)
        (fun hleaves => Or.inl (hleaving hleaves)) hbooted
      have hquiet : Quiet number { sender, request } := by
        cases hsends with
        | boot hbooting | ready hbooting =>
            rw [h.booting hbooting] at hlive
            cases hlive
        | waiting hphase =>
            rw [h.leaving (leaving_of_phase hphase)] at hlive
            cases hlive
        | powerup _ | results _ _ | resultPending _ =>
            exact ⟨by simp, rfl, rfl⟩
      rw [hbadge]
      exact hsafe.send hquiet
  | holdOver hphase =>
      refine h.same rfl rfl (fun _ _ _ hsafe => hsafe) (fun hleaves => Or.inr ?_) id
      by_cases hanswering : d.badge.ui.shared.answering = true
      · rw [hanswering] at hleaves
        have hphase := leaving_watch d _ hleaves
        cases hphase
      · -- whatever is live is on the screen or still in the channel
        rw [Option.eq_none_iff_forall_ne_some]
        rintro ⟨number, task⟩ hlive
        obtain ⟨rfl, hsafe⟩ := h.live number task hlive
        rcases hsafe.lastOwn with hscreen | hlast
        · rw [hnumbered.answering, hscreen] at hanswering
          exact hanswering rfl
        · simp [outrun, hanswering, hlast, UiRequest.isQuestion] at hpatient
  | watches haside hphase =>
      refine h.same (asks_aside haside) rfl (fun _ _ _ hsafe => hsafe) (fun hleaves => ?_) id
      exact absurd (leaving_watch d _ hleaves) hphase

end LiveInvariant

/-! ## The UI thread stays awake -/

theorem sleeps_idle {ui : UiThread} (buttons : Buttons) (now later : Nat)
    (h : (ui.finishTurn buttons now later).2 = true) : ui.screen.isQuestion = false := by
  have hscreen : ((ui.expireOverlay now).advanceButtons buttons now).screen = ui.screen := by
    rw [(UiThread.advanceButtons_frame _ _ _).1, (UiThread.expireOverlay_frame _ _).1]
  rw [← hscreen]
  by_contra hquestion
  rw [Bool.not_eq_false] at hquestion
  simp [UiThread.finishTurn, UiThread.advanceSleep, hquestion] at h

/-- The UI thread powers down on an idle screen only. -/
theorem asleep_idle {b : Badge} (h : Badge.system.Reachable b) :
    b.turn = .asleep → b.ui.screen.isQuestion = false := by
  refine h.invariant (I := fun b => b.turn = .asleep → b.ui.screen.isQuestion = false) ?_ ?_
  · rintro b₀ ⟨identity, flash, rfl⟩ hasleep
    cases hasleep
  · intro b e b' hb hstep
    have hstep : b.step e = some b' := hstep
    cases Badge.move_of_step hstep with
    | receive hat _ | drained hat _ =>
        intro hasleep
        first | (rw [hat] at hasleep; cases hasleep) | cases hasleep
    | wake _ | sleepFailed _ =>
        intro hasleep
        cases hasleep
    | @sample buttons now later _ _ =>
        intro hasleep
        show (b.ui.finishTurn buttons now later).1.screen.isQuestion = false
        rw [(b.ui.finishTurn_frame buttons now later).1]
        refine sleeps_idle buttons now later ?_
        by_contra hsleeps
        simp [Badge.finish, hsleeps] at hasleep
    | _ => exact hb

/-! ## Every run -/

theorem owns_of_screen {b : Badge} (h : Badge.system.Reachable b)
    (hscreen : b.ui.screen = .question number task) : Owns b number task := by
  obtain ⟨seen, hnumbered⟩ := Badge.numbered_reachable h
  refine ⟨hscreen, ?_, ?_, ?_, ?_⟩
  · rw [hnumbered.answering, hscreen]
    rfl
  · intro hasleep
    have hidle := asleep_idle h hasleep
    rw [hscreen] at hidle
    cases hidle
  · intro buttons now
    unfold UiThread.advanceButtons
    rw [hscreen]
    dsimp only
    split <;> rfl
  · intro buttons now choice hchoice
    unfold UiThread.advanceButtons
    rw [hscreen]
    dsimp only
    rw [hchoice]

theorem LiveInvariant.kept (h : LiveInvariant hist d) (hreach : system.Reachable d) :
    Kept hist d := by
  intro number task hlive hup
  obtain ⟨-, hsafe⟩ := h.live number task hlive
  exact owns_of_screen (badge_reachable hreach) (hsafe.screen hup)

/-- **A live question keeps the screen** in every run in which no hold
ends behind one that is still in the channel. -/
theorem live_question_kept (hrun : system.Run hist d) (hpatient : ∀ t ∈ hist, outrun t = false) :
    StepSystem.Throughout Kept hist d := by
  refine hrun.throughout (I := LiveInvariant) (C := fun d e => outrun (d, e) = false) hpatient
    ?_ ?_ ?_
  · intro d₀ _
    exact .of_none rfl
  · intro hist d e d' hreach hlive hpatient hstep
    obtain ⟨seen, hnumbered⟩ := Badge.numbered_reachable (badge_reachable hreach)
    exact hlive.step hnumbered hstep hpatient
  · intro hist d hreach hlive
    exact hlive.kept hreach

/-! ## A hold that ends too early -/

/-- A device to test with. -/
def demoDevice : Device := { badge := Badge.demoBadge }

theorem init_demoDevice : system.init demoDevice := ⟨Badge.demoBadge, Badge.init_demoBadge, rfl⟩

/-- One turn of the UI thread. -/
def uiTurn (ms requests : Nat) (buttons : Buttons) : List DeviceEvent :=
  (Badge.uiTurn ms requests buttons).map .ui

/-- A badge boots, answers its first question, and the watcher of the
game shows the standings. -/
def standingsShown : List DeviceEvent :=
  List.flatten [
    [.boot .booting, .ready],
    uiTurn 0 2 {},
    [.activity (.assign (Badge.demoQuestion "first")), .activity .check, .ask true,
      .activity (.prepare true 0)],
    uiTurn 5 1 {},
    uiTurn 10 0 { up := true },
    [.activity (Badge.pollAt 20), .activity (.joined 1 true), .activity .held],
    uiTurn 1200 2 {},
    [.deadline, .queried (some { gameId := some "game", status := .finished })],
    uiTurn 61000 1 {}]

/-- One more question of the game, with the first poll of its Activity. -/
def secondQuestion : List DeviceEvent :=
  [.activity (.assign (Badge.demoQuestion "second")), .activity .check, .ask true,
    .activity (.prepare true (66000 * 10 ^ 6)), .activity (Badge.pollAt 66000)]

/-- Whether the UI thread received every question. -/
def caughtUp (b : Badge) : Bool := b.inbox.all fun envelope => !envelope.request.isQuestion

/-- The UI thread receives the second question before the hold ends. -/
theorem live_question_kept_demo :
    ∃ hist d, system.Run hist d ∧ liveQuestion hist = some (2, Badge.demoQuestion "second")
      ∧ StepSystem.Throughout Kept hist d := by
  obtain ⟨hist, d, hrun, htest⟩ := StepSystem.exists_run_of_exec (S := system) demoDevice
    (standingsShown ++ secondQuestion ++ uiTurn 66005 1 {} ++ [.holdOver])
    (fun result => decide (liveQuestion result.1 = some (2, Badge.demoQuestion "second"))
      && result.1.all fun t => !outrun t)
    init_demoDevice (by decide +kernel)
  simp only [Bool.and_eq_true, decide_eq_true_eq, List.all_eq_true, Bool.not_eq_true'] at htest
  exact ⟨hist, d, hrun, htest.1, live_question_kept hrun htest.2⟩

/-- **The hold ends first**: the watcher of the same game finds nothing
answering, its `Waiting` stands behind the question, and the UI thread
goes back to idle while the Activity waits for an answer. -/
theorem waiting_erases_live_question :
    ∃ hist d, system.Run hist d ∧ liveQuestion hist = some (2, Badge.demoQuestion "second")
      ∧ d.badge.CaughtUp ∧ d.badge.ui.screen = .idle
      ∧ d.badge.activity.holds = some (Badge.demoQuestion "second")
      ∧ ¬ Kept hist d := by
  obtain ⟨hist, d, hrun, htest⟩ := StepSystem.exists_run_of_exec (S := system) demoDevice
    (standingsShown ++ secondQuestion ++ [.holdOver, .leave] ++ uiTurn 66005 2 {})
    (fun result => decide (liveQuestion result.1 = some (2, Badge.demoQuestion "second"))
      && caughtUp result.2.badge && decide (result.2.badge.ui.screen = .idle)
      && decide (result.2.badge.activity.holds = some (Badge.demoQuestion "second")))
    init_demoDevice (by decide +kernel)
  simp only [Bool.and_eq_true, decide_eq_true_eq, caughtUp, List.all_eq_true,
    Bool.not_eq_true'] at htest
  obtain ⟨⟨⟨hlive, hup⟩, hidle⟩, hholds⟩ := htest
  refine ⟨hist, d, hrun, hlive, hup, hidle, hholds, ?_⟩
  intro hkept
  have hscreen := (hkept 2 _ hlive hup).screen
  rw [hidle] at hscreen
  cases hscreen

end Device

end DurableTrivia.Firmware

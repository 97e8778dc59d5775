import DurableTrivia.Firmware.Badge

/-!
# Questions — which question is where

The questions shown so far are numbered. Those the UI thread has not
received stand in the channel in order; the screen and the queue only
know the last one received, because receiving a question empties the
queue.
-/

namespace DurableTrivia.Firmware

open DurableTrivia.Shared DurableTrivia.Lib

/-- The number of the question a request shows. -/
def UiRequest.number : UiRequest → Option Nat
  | .question number _ => some number
  | _ => none

theorem UiRequest.number_eq_none {request : UiRequest} :
    request.number = none ↔ request.isQuestion = false := by
  cases request <;> simp [number, isQuestion]

theorem UiRequest.number_eq_some {request : UiRequest} {number : Nat} :
    request.number = some number ↔ ∃ task, request = .question number task := by
  cases request <;> simp [UiRequest.number]

namespace Badge

/-- The numbers of the questions in the channel, oldest first. -/
def inFlight (b : Badge) : List Nat := b.inbox.filterMap fun envelope => envelope.request.number

/-- The number of the last question the UI thread received. -/
def received (b : Badge) : Nat := b.asked - b.inFlight.length

/-- The UI thread has received every question shown so far. -/
def CaughtUp (b : Badge) : Prop := ∀ envelope ∈ b.inbox, envelope.request.isQuestion = false

theorem inFlight_eq_nil {b : Badge} : b.inFlight = [] ↔ b.CaughtUp := by
  simp only [inFlight, CaughtUp, List.filterMap_eq_nil_iff, UiRequest.number_eq_none]

/-- A screen with the latest number shows the task its Activity holds. -/
def Agrees (b : Badge) (screen : Screen) : Prop :=
  ∀ held task, b.activity.holds = some held → screen = .question b.asked task → task = held

/-- The last question received is number `seen`. -/
structure Numbered (b : Badge) (seen : Nat) : Prop where
  inFlight : b.inFlight = List.range' (seen + 1) (b.asked - seen)
  bound : seen ≤ b.asked
  screen : ∀ number task, b.ui.screen = .question number task → number = seen
  choices : ∀ gesture ∈ b.ui.shared.choices, ∃ task, gesture.screen = .question seen task
  tasks : (∀ envelope ∈ b.inbox, b.Agrees (envelope.request.screenAfter .idle))
    ∧ b.Agrees b.ui.screen ∧ ∀ gesture ∈ b.ui.shared.choices, b.Agrees gesture.screen
  senders : ∀ envelope ∈ b.inbox, ∀ number task, envelope.request = .question number task →
    envelope.sender = .activity number
  answering : b.ui.shared.answering = b.ui.screen.isQuestion

namespace Numbered
variable {b b' : Badge} {seen : Nat}

theorem received_eq (h : b.Numbered seen) : b.received = seen := by
  have hbound := h.bound
  rw [received, h.inFlight, List.length_range']
  omega

/-- Nothing is in flight exactly when the last question received is the
last one shown. -/
theorem caughtUp_iff (h : b.Numbered seen) : b.CaughtUp ↔ seen = b.asked := by
  have hbound := h.bound
  rw [← inFlight_eq_nil, h.inFlight, List.range'_eq_nil_iff]
  omega

/-- Steps of the Activity that send nothing; at most a gesture is
taken. -/
theorem keep (h : b.Numbered seen) (hinbox : b'.inbox = b.inbox) (hasked : b'.asked = b.asked)
    (hscreen : b'.ui.screen = b.ui.screen)
    (hchoices : b'.ui.shared.choices ⊆ b.ui.shared.choices)
    (hanswering : b'.ui.shared.answering = b.ui.shared.answering)
    (hholds : ∀ task, b'.activity.holds = some task → b.activity.holds = some task) :
    b'.Numbered seen := by
  have hagrees {screen : Screen} (ha : b.Agrees screen) : b'.Agrees screen :=
    fun held task hheld hs => ha held task (hholds held hheld) (hasked ▸ hs)
  refine ⟨?_, ?_, ?_, fun g hg => h.choices g (hchoices hg), ⟨?_, ?_, ?_⟩, ?_, ?_⟩
  · rw [Badge.inFlight, hinbox, hasked]
    exact h.inFlight
  · rw [hasked]
    exact h.bound
  · rw [hscreen]
    exact h.screen
  · rw [hinbox]
    exact fun envelope hmem => hagrees (h.tasks.1 envelope hmem)
  · rw [hscreen]
    exact hagrees h.tasks.2.1
  · exact fun g hg => hagrees (h.tasks.2.2 g (hchoices hg))
  · rw [hinbox]
    exact h.senders
  · rw [hanswering, hscreen]
    exact h.answering

theorem become (h : b.Numbered seen) {activity : Activity}
    (hholds : ∀ task, activity.holds = some task → b.activity.holds = some task) :
    (b.become activity).Numbered seen :=
  h.keep rfl rfl rfl (List.Subset.refl _) rfl hholds

/-- Requests other than questions. -/
theorem send (h : b.Numbered seen) (sender : Sender) {request : UiRequest}
    (hrequest : request.isQuestion = false) : (b.send sender request).Numbered seen := by
  refine ⟨?_, h.bound, h.screen, h.choices, ⟨?_, h.tasks.2⟩, ?_, h.answering⟩
  · have hnone := UiRequest.number_eq_none.mpr hrequest
    simp only [Badge.inFlight, Badge.send, List.filterMap_append, List.filterMap_cons, hnone,
      List.filterMap_nil, List.append_nil]
    exact h.inFlight
  · intro envelope hmem
    rcases List.mem_append.mp hmem with hold | hnew
    · exact h.tasks.1 envelope hold
    · cases List.mem_singleton.mp hnew
      intro held task _ hs
      cases request <;> first | cases hs | cases hrequest
  · intro envelope hmem number task hquestion
    rcases List.mem_append.mp hmem with hold | hnew
    · exact h.senders envelope hold number task hquestion
    · cases List.mem_singleton.mp hnew
      cases hquestion
      cases hrequest

/-- The next question gets the next number. -/
theorem showQuestion (h : b.Numbered seen) (task : QuestionTask) :
    (b.showQuestion task).Numbered seen := by
  have hseen := h.bound
  -- no number given so far is the new one
  have hold (number : Nat) {screen : Screen} (hle : number ≤ b.asked)
      (hs : ∀ n t, screen = .question n t → n = number) :
      (b.showQuestion task).Agrees screen := by
    intro held t _ hscreen
    have hnumber : b.asked + 1 = number := hs _ _ hscreen
    omega
  refine ⟨?_, Nat.le_succ_of_le hseen, h.screen, h.choices, ⟨?_, ?_, ?_⟩, ?_, h.answering⟩
  · have hflight := h.inFlight
    have hsub : b.asked + 1 - seen = (b.asked - seen) + 1 := by omega
    have hlast : b.asked + 1 = seen + 1 + 1 * (b.asked - seen) := by omega
    simp only [Badge.inFlight, Badge.showQuestion, Badge.send, Badge.become,
      List.filterMap_append] at hflight ⊢
    rw [hflight, hsub, List.range'_concat, ← hlast]
    rfl
  · intro envelope hmem
    rcases List.mem_append.mp hmem with hbefore | hnew
    · cases hrequest : envelope.request.number with
      | none =>
          have hidle : envelope.request.screenAfter .idle = .idle := by
            cases hr : envelope.request <;> simp [hr, UiRequest.number, UiRequest.screenAfter] at *
          rw [hidle]
          intro held t _ hs
          cases hs
      | some number =>
          have hmemFlight : number ∈ b.inFlight :=
            List.mem_filterMap.mpr ⟨envelope, hbefore, hrequest⟩
          rw [h.inFlight, List.mem_range'_1] at hmemFlight
          refine hold number (by omega) fun n t hs => ?_
          cases hr : envelope.request <;>
            simp_all [UiRequest.number, UiRequest.screenAfter]
    · cases List.mem_singleton.mp hnew
      intro held t hheld hs
      cases hheld
      cases hs
      rfl
  · exact hold seen hseen h.screen
  · intro gesture hmem
    obtain ⟨t, ht⟩ := h.choices gesture hmem
    refine hold seen hseen fun n t' hs => ?_
    rw [ht] at hs
    cases hs
    rfl
  · intro envelope hmem number asked hquestion
    rcases List.mem_append.mp hmem with hbefore | hnew
    · exact h.senders envelope hbefore number asked hquestion
    · cases List.mem_singleton.mp hnew
      cases hquestion
      rfl

/-- The question at the head of the channel is the first one not
received. -/
theorem head (h : b.Numbered seen) {envelope : Envelope} {rest : List Envelope} {number : Nat}
    {task : QuestionTask} (hinbox : b.inbox = envelope :: rest)
    (hrequest : envelope.request = .question number task) :
    number = seen + 1 ∧ seen + 1 ≤ b.asked
      ∧ (rest.filterMap fun envelope => envelope.request.number)
        = List.range' (seen + 1 + 1) (b.asked - (seen + 1)) := by
  have hhead : envelope.request.number = some number := by
    rw [hrequest]
    rfl
  have hflight := h.inFlight
  rw [Badge.inFlight, hinbox, List.filterMap_cons, hhead] at hflight
  dsimp only at hflight
  obtain ⟨k, hk⟩ : ∃ k, b.asked - seen = k + 1 := by
    refine Nat.exists_eq_succ_of_ne_zero fun hzero => ?_
    rw [hzero] at hflight
    cases hflight
  rw [hk, List.range'_succ] at hflight
  obtain ⟨hnumber, htail⟩ := List.cons.inj hflight
  refine ⟨hnumber, by omega, ?_⟩
  rw [htail, show b.asked - (seen + 1) = k by omega]

/-- The UI thread receives one request. -/
theorem receive (h : b.Numbered seen) {envelope : Envelope} {rest : List Envelope}
    {pins : Buttons} {now : Nat} (hinbox : b.inbox = envelope :: rest) :
    ∃ seen', ({ b with ui := b.ui.apply envelope.request pins now, inbox := rest } :
      Badge).Numbered seen' := by
  have hrest : ∀ e ∈ rest, e ∈ b.inbox := fun e he => hinbox ▸ List.mem_cons_of_mem _ he
  have hhead : envelope ∈ b.inbox := hinbox ▸ List.mem_cons_self
  have hflight := h.inFlight
  have hseen := h.bound
  rw [Badge.inFlight, hinbox, List.filterMap_cons] at hflight
  cases hr : envelope.request with
  | question number task =>
      obtain ⟨hnumber, hbound, htail⟩ := h.head hinbox hr
      have hagrees := h.tasks.1 envelope hhead
      rw [hr] at hagrees
      refine ⟨seen + 1, htail, hbound, ?_, ?_, ⟨fun e he => h.tasks.1 e (hrest e he), ?_, ?_⟩,
        fun e he => h.senders e (hrest e he), UiThread.apply_answering h.answering⟩
      · intro n t hs
        rw [UiThread.apply_screen] at hs
        cases hs
        exact hnumber
      · intro gesture hmem
        rw [UiThread.apply_choices] at hmem
        cases hmem
      · dsimp only
        rw [UiThread.apply_screen]
        exact hagrees
      · intro gesture hmem
        rw [UiThread.apply_choices] at hmem
        cases hmem
  | status _ | waiting | feedback _ _ | crashed | recovered | results _ | resultPending
  | powerup _ =>
      simp only [hr, UiRequest.number] at hflight
      refine ⟨seen, hflight, hseen, ?_, ?_, ⟨fun e he => h.tasks.1 e (hrest e he), ?_, ?_⟩,
        fun e he => h.senders e (hrest e he), UiThread.apply_answering h.answering⟩
      · intro n t hs
        rw [UiThread.apply_screen] at hs
        first | exact h.screen n t hs | cases hs
      · rw [UiThread.apply_choices]
        exact h.choices
      · dsimp only
        rw [UiThread.apply_screen]
        first | exact h.tasks.2.1 | exact fun held t _ hs => by cases hs
      · rw [UiThread.apply_choices]
        exact h.tasks.2.2

/-- The UI thread ends a turn. -/
theorem finish (h : b.Numbered seen) (buttons : Buttons) (now later : Nat) :
    (b.finish buttons now later).Numbered seen := by
  obtain ⟨hscreen, hanswering, hchoices⟩ :=
    b.ui.finishTurn_frame buttons now later
  -- what is in the queue was there, or was recognised on the screen
  have hqueue : ∀ g ∈ (b.ui.finishTurn buttons now later).1.shared.choices,
      g ∈ b.ui.shared.choices ∨ (b.ui.screen.isQuestion = true ∧ g.screen = b.ui.screen) := by
    intro g hg
    rcases hchoices with hsame | ⟨choice, hquestion, hpush⟩
    · rw [hsame] at hg
      exact .inl hg
    · rw [hpush] at hg
      rcases Shared.mem_push hg with rfl | hold
      · exact .inr ⟨hquestion, rfl⟩
      · exact .inl hold
  refine ⟨h.inFlight, h.bound, ?_, ?_, ⟨h.tasks.1, ?_, ?_⟩, h.senders, ?_⟩
  · intro n t hs
    exact h.screen n t (hscreen ▸ hs)
  · intro g hg
    rcases hqueue g hg with hold | ⟨hquestion, hg⟩
    · exact h.choices g hold
    · cases hs : b.ui.screen with
      | idle => simp [hs, Screen.isQuestion] at hquestion
      | question n t =>
          rw [hg, hs, h.screen n t hs]
          exact ⟨t, rfl⟩
  · intro held t hheld hs
    exact h.tasks.2.1 held t hheld (hscreen ▸ hs)
  · intro g hg
    rcases hqueue g hg with hold | ⟨_, hg⟩
    · exact h.tasks.2.2 g hold
    · rw [hg]
      exact h.tasks.2.1
  · exact hanswering.trans (h.answering.trans (congrArg Screen.isQuestion hscreen.symm))

/-- **The step lemma.** -/
theorem step {e : Event} (h : b.Numbered seen) (hnext : b.step e = some b') :
    ∃ seen', b'.Numbered seen' := by
  have none_holds {activity : Activity} (hnone : activity.holds = none) :
      ∀ task, activity.holds = some task → b.activity.holds = some task := by
    intro task hc
    rw [hnone] at hc
    cases hc
  -- the execution goes on with its task
  have same_task {activity : Activity} {task : QuestionTask}
      (hbefore : b.activity.holds = some task) (hafter : activity.holds = some task) :
      ∀ t, activity.holds = some t → b.activity.holds = some t := by
    intro t ht
    rw [hbefore, ← hafter]
    exact ht
  cases move_of_step hnext with
  | assign _ | refused _ | unprepared _ _ | failed _ | uncrashed _ _ | reported _ =>
      exact ⟨seen, h.become (none_holds rfl)⟩
  | checked _ hactivity =>
      rcases hactivity with rfl | rfl <;> exact ⟨seen, h.become (none_holds rfl)⟩
  | showQuestion _ => exact ⟨seen, h.showQuestion _⟩
  | prepared hat =>
      refine ⟨seen, h.keep rfl rfl rfl (List.Subset.refl _) rfl ?_⟩
      exact same_task (by rw [hat]; rfl) rfl
  | gaveUp hat _ => exact ⟨seen, h.become (same_task (by rw [hat]; rfl) rfl)⟩
  | took hat _ hqueue =>
      refine ⟨seen, h.keep rfl rfl rfl ?_ rfl (same_task (by rw [hat]; rfl) rfl)⟩
      rw [hqueue]
      exact List.subset_cons_self _ _
  | idled _ _ _ => exact ⟨seen, h⟩
  | answered hat | blackoutOver hat =>
      exact ⟨seen, (h.become (same_task (by rw [hat]; rfl) rfl)).send _ rfl⟩
  | @crashed task _ _ session hat _ =>
      have hbefore : ({ b with session }.become (.blackout task)).Numbered seen :=
        h.keep rfl rfl rfl (List.Subset.refl _) rfl (same_task (by rw [hat]; rfl) rfl)
      exact ⟨seen, hbefore.send _ rfl⟩
  | held _ => exact ⟨seen, (h.become (none_holds rfl)).send _ rfl⟩
  | @others sender request hmay =>
      refine ⟨seen, h.send sender ?_⟩
      cases sender <;> cases request <;> first | rfl | cases hmay
  | wake _ | drained _ _ | sleepFailed _ =>
      exact ⟨seen, h.keep rfl rfl rfl (List.Subset.refl _) rfl fun _ ht => ht⟩
  | receive _ hinbox => exact h.receive hinbox
  | sample _ _ => exact ⟨seen, h.finish _ _ _⟩

end Numbered

theorem numbered_reachable {b : Badge} (h : system.Reachable b) : ∃ seen, b.Numbered seen := by
  refine h.invariant (I := fun b => ∃ seen, b.Numbered seen) ?_ ?_
  · intro b₀ hinit
    rcases hinit with ⟨identity, flash, rfl⟩
    refine ⟨0, rfl, Nat.le_refl 0, ?_, ?_, ⟨?_, ?_, ?_⟩, ?_, rfl⟩
    · intro number task heq
      cases heq
    · intro gesture heq
      cases heq
    · intro envelope heq
      cases heq
    · intro held task heq
      cases heq
    · intro gesture heq
      cases heq
    · intro envelope heq
      cases heq
  · rintro b e b' ⟨seen, hb⟩ hnext
    exact hb.step hnext

end Badge

end DurableTrivia.Firmware

import DurableTrivia.Firmware.Session
import DurableTrivia.Firmware.Ui
import DurableTrivia.Lib.System

/-!
# Badge — the Activity and the UI thread, joined by a channel

`answer_question` and `wait_for_choice` of `firmware/src/main.rs` as one
task, `UiThread::run` as another; requests go through the channel
`inbox`, choices come back through the shared queue. A turn of the UI
thread wakes, receives until the channel is empty, and samples; the other
task may act between any two of these. The Worker has one Activity slot,
so executions follow each other.

Left to the environment: what an execution reads from Temporal and the
clocks (`Observation`), whether a save succeeds, the pins, and the
requests of everyone else, at any time (`Sender.mayAsk`).
-/

namespace DurableTrivia.Firmware

open DurableTrivia.Shared DurableTrivia.Lib

/-! ## The Activity -/

/-- How long an attempt waits for an answer at most, in nanoseconds. -/
def maxActivityRuntime : Nat := 120 * 10 ^ 9

/-- Who the badge is. -/
structure Identity where
  id : String
  callsign : String
  deriving DecidableEq, Repr

/-- How an Activity can fail. -/
inductive ActivityError where
  | cancelled
  | failed (message : String)
  /-- the session store's own error, passed on by `?` -/
  | session
  deriving DecidableEq, Repr

/-- What one turn of `wait_for_choice` reads. -/
structure Observation where
  cancelled : Bool := false
  nowUnixMs : Nat
  now : Nat
  stopped : Bool := false
  silentMs : Nat := 0
  deriving DecidableEq, Repr

/-- The checks a turn makes before it looks at the queue, in their
order. -/
def Observation.givesUp (o : Observation) (task : QuestionTask) (localDeadline : Nat) :
    Option ActivityError :=
  if o.cancelled then some .cancelled
  else if o.nowUnixMs ≥ task.latestPossibleDeadlineUnixMs then some .cancelled
  else if o.now ≥ localDeadline then some .cancelled
  else if o.stopped then some .cancelled
  else if heartbeatBudgetExhausted o.silentMs then
    some (.failed ("no Activity heartbeat acknowledged for " ++ toString o.silentMs ++ " ms"))
  else none

/-- A turn goes on when no check stops it. -/
theorem Observation.givesUp_eq_none {o : Observation} {task : QuestionTask} {localDeadline : Nat} :
    o.givesUp task localDeadline = none ↔ o.cancelled = false
      ∧ o.nowUnixMs < task.latestPossibleDeadlineUnixMs ∧ o.now < localDeadline
      ∧ o.stopped = false ∧ heartbeatBudgetExhausted o.silentMs = false := by
  unfold givesUp
  cases o.cancelled
  · by_cases hdeadline : o.nowUnixMs ≥ task.latestPossibleDeadlineUnixMs
    · simp [hdeadline]
    · by_cases hceiling : o.now ≥ localDeadline
      · simp [hdeadline, hceiling]
      · cases o.stopped <;> cases heartbeatBudgetExhausted o.silentMs <;>
          simp [hdeadline, hceiling, Nat.lt_of_not_le hdeadline, Nat.lt_of_not_le hceiling]
  · simp

/-- Where `answer_question` stands. -/
inductive Activity where
  /-- the slot has not been used yet -/
  | free
  | checking (task : QuestionTask)
  /-- an abandoned question: the attempt is reported, then refused -/
  | refusing (task : QuestionTask)
  /-- at `start_result_watcher` and `show` -/
  | showing (task : QuestionTask)
  /-- at `begin_game` -/
  | preparing (task : QuestionTask)
  /-- in the loop of `wait_for_choice` -/
  | waiting (task : QuestionTask) (localDeadline : Nat)
  /-- the wait is over, the report of the attempt may not be -/
  | joining (task : QuestionTask) (choice : Except ActivityError Choice)
  /-- in `FEEDBACK_HOLD` -/
  | feedback (task : QuestionTask) (selectedIndex : UInt8)
  | blackout (task : QuestionTask)
  | recovering (task : QuestionTask)
  | ended (result : Except ActivityError BadgeAnswer)

/-- The task of an execution that showed its question and has not
returned. -/
def Activity.holds : Activity → Option QuestionTask
  | .free | .checking _ | .refusing _ | .showing _ | .ended _ => none
  | .preparing task | .waiting task _ | .joining task _ | .feedback task _ | .blackout task
  | .recovering task => some task

/-- The error the latest execution returned. -/
def Activity.error : Activity → Option ActivityError
  | .ended (.error error) => some error
  | _ => none

theorem Activity.error_eq_some {activity : Activity} {error : ActivityError} :
    activity.error = some error ↔ activity = .ended (.error error) := by
  unfold Activity.error
  split <;> simp_all

/-! ## The badge -/

/-- The thread or task that sent a request to the UI. -/
inductive Sender where
  /-- the execution that showed question `number` -/
  | activity (number : Nat)
  | boot | watcher | powerups
  deriving DecidableEq, Repr

/-- What the others ask for; only an Activity shows questions. -/
def Sender.mayAsk : Sender → UiRequest → Bool
  | .boot, .status _ | .boot, .waiting | .watcher, .results _ | .watcher, .waiting
  | .watcher, .resultPending | .powerups, .powerup _ => true
  | _, _ => false

/-- A request in the UI channel, with its sender. -/
structure Envelope where
  sender : Sender
  request : UiRequest

/-- Where the UI thread is in its turn. -/
inductive Turn where
  | resting
  | draining (now : Nat)
  /-- the channel was empty, the buttons are next -/
  | sampling (now : Nat)
  /-- in `sleep_now` -/
  | asleep
  deriving DecidableEq, Repr

/-- `asked` counts the questions shown so far, so it is the number of the
execution that holds the screen. -/
structure Badge where
  identity : Identity
  ui : UiThread := {}
  turn : Turn := .resting
  inbox : List Envelope := []
  activity : Activity := .free
  asked : Nat := 0
  session : SessionStore := {}

/-- One event of a badge: of its Activity, of the others that send to the
screen, or of the UI thread. -/
inductive Event where
  /-- Temporal hands the free slot a task -/
  | assign (task : QuestionTask)
  | check
  | refused
  | showQuestion
  | prepare (saves : Bool) (now : Nat)
  | poll (o : Observation)
  /-- both halves of the `join` are done -/
  | joined (points : Int) (saves : Bool)
  /-- `FEEDBACK_HOLD` is over -/
  | held
  | blackoutOver
  | reported
  | others (sender : Sender) (request : UiRequest)
  | wake (now : Nat)
  | receive (pins : Buttons)
  | drained
  | sample (buttons : Buttons) (later : Nat)
  /-- `enter_deep_sleep` returned -/
  | sleepFailed

namespace Badge

/-- Put a request at the end of the UI channel. -/
def send (b : Badge) (sender : Sender) (request : UiRequest) : Badge :=
  { b with inbox := b.inbox ++ [{ sender, request }] }

/-- The Activity is at its next stage. -/
def become (b : Badge) (activity : Activity) : Badge := { b with activity }

/-- The Activity shows its question, which gets the next number. -/
def showQuestion (b : Badge) (task : QuestionTask) : Badge :=
  ({ b with asked := b.asked + 1 }.become (.preparing task)).send (.activity (b.asked + 1))
    (.question (b.asked + 1) task)

/-- The feedback an answer gets. -/
def verdict (task : QuestionTask) (selectedIndex : UInt8) (points : Int) : UiRequest :=
  let correct := selectedIndex == task.question.correctIndex
  .feedback correct (if correct then points else -points)

/-- What the Activity returns to Temporal. -/
def answer (b : Badge) (task : QuestionTask) (selectedIndex : UInt8) : BadgeAnswer :=
  { badgeId := b.identity.id
    callsign := b.identity.callsign
    questionId := task.question.id
    selectedIndex }

/-- Behind the `join`: `match choice?`. -/
def resolve (b : Badge) (task : QuestionTask) (choice : Except ActivityError Choice)
    (points : Int) (saves : Bool) : Badge :=
  match choice with
  | .error error => b.become (.ended (.error error))
  | .ok (.answer selectedIndex) =>
      (b.become (.feedback task selectedIndex)).send (.activity b.asked)
        (verdict task selectedIndex points)
  | .ok .panic =>
      match b.session.abandon task.gameId task.question.id saves with
      | some session =>
          ({ b with session }.become (.blackout task)).send (.activity b.asked) .crashed
      | none => b.become (.ended (.error .session))

/-- The end of a turn. -/
def finish (b : Badge) (buttons : Buttons) (now later : Nat) : Badge :=
  let (ui, sleeps) := b.ui.finishTurn buttons now later
  { b with ui, turn := if sleeps then .asleep else .resting }

/-- One event; `none` where it cannot occur. -/
def step (b : Badge) : Event → Option Badge
  | .assign task =>
      match b.activity with
      | .free | .ended _ => some (b.become (.checking task))
      | _ => none
  | .check =>
      match b.activity with
      | .checking task =>
          if b.session.isAbandoned task.gameId task.question.id then
            some (b.become (.refusing task))
          else some (b.become (.showing task))
      | _ => none
  | .refused =>
      match b.activity with
      | .refusing _ =>
          some (b.become (.ended (.error (.failed "badge already abandoned this question"))))
      | _ => none
  | .showQuestion =>
      match b.activity with
      | .showing task => some (b.showQuestion task)
      | _ => none
  | .prepare saves now =>
      match b.activity with
      | .preparing task =>
          match b.session.beginGame task.gameId task.deadlineUnixMs saves with
          | some session =>
              some ({ b with session }.become (.waiting task (now + maxActivityRuntime)))
          | none => some (b.become (.ended (.error .session)))
      | _ => none
  | .poll o =>
      match b.activity with
      | .waiting task localDeadline =>
          match o.givesUp task localDeadline with
          | some error => some (b.become (.joining task (.error error)))
          | none =>
              match b.ui.shared.choices with
              | gesture :: rest =>
                  some ({ b with ui.shared.choices := rest }.become
                    (.joining task (.ok gesture.choice)))
              | [] => some b
      | _ => none
  | .joined points saves =>
      match b.activity with
      | .joining task choice => some (b.resolve task choice points saves)
      | _ => none
  | .held =>
      match b.activity with
      | .feedback task selectedIndex =>
          some ((b.become (.ended (.ok (b.answer task selectedIndex)))).send
            (.activity b.asked) .waiting)
      | _ => none
  | .blackoutOver =>
      match b.activity with
      | .blackout task => some ((b.become (.recovering task)).send (.activity b.asked) .recovered)
      | _ => none
  | .reported =>
      match b.activity with
      | .recovering _ =>
          some (b.become (.ended (.error
            (.failed "simulated badge Worker crash after heartbeat timeout"))))
      | _ => none
  | .others sender request => if sender.mayAsk request then some (b.send sender request) else none
  | .wake now =>
      match b.turn with
      | .resting => some { b with turn := .draining now }
      | _ => none
  | .receive pins =>
      match b.turn, b.inbox with
      | .draining now, envelope :: rest =>
          some { b with ui := b.ui.apply envelope.request pins now, inbox := rest }
      | _, _ => none
  | .drained =>
      match b.turn, b.inbox with
      | .draining now, [] => some { b with turn := .sampling now }
      | _, _ => none
  | .sample buttons later =>
      match b.turn with
      | .sampling now => if now ≤ later then some (b.finish buttons now later) else none
      | _ => none
  | .sleepFailed =>
      match b.turn with
      | .asleep => some { b with ui := b.ui.draw .off, turn := .resting }
      | _ => none

/-- A badge that booted, with the session its flash held. -/
def system : StepSystem Badge Event where
  init b := ∃ identity flash, b = { identity, session := { session := flash, flash } }
  step := step

/-! ## What one event can do -/

/-- What one event can do. -/
inductive Move (b : Badge) : Event → Badge → Prop
  | assign {task : QuestionTask} (hfree : b.activity.holds = none) :
      Move b (.assign task) (b.become (.checking task))
  | checked {task : QuestionTask} {activity : Activity} (hat : b.activity = .checking task)
      (hnext : activity = .refusing task ∨ activity = .showing task) :
      Move b .check (b.become activity)
  | refused {task : QuestionTask} {error : ActivityError} (hat : b.activity = .refusing task) :
      Move b .refused (b.become (.ended (.error error)))
  | showQuestion {task : QuestionTask} (hat : b.activity = .showing task) :
      Move b .showQuestion (b.showQuestion task)
  | prepared {task : QuestionTask} {saves : Bool} {now : Nat} {session : SessionStore}
      (hat : b.activity = .preparing task) :
      Move b (.prepare saves now)
        ({ b with session }.become (.waiting task (now + maxActivityRuntime)))
  | unprepared {task : QuestionTask} {saves : Bool} {now : Nat}
      (hat : b.activity = .preparing task)
      (hsession : b.session.beginGame task.gameId task.deadlineUnixMs saves = none) :
      Move b (.prepare saves now) (b.become (.ended (.error .session)))
  | gaveUp {o : Observation} {task : QuestionTask} {localDeadline : Nat} {error : ActivityError}
      (hat : b.activity = .waiting task localDeadline)
      (hcheck : o.givesUp task localDeadline = some error) :
      Move b (.poll o) (b.become (.joining task (.error error)))
  | took {o : Observation} {task : QuestionTask} {localDeadline : Nat} {gesture : Gesture}
      {rest : List Gesture} (hat : b.activity = .waiting task localDeadline)
      (hcheck : o.givesUp task localDeadline = none)
      (hqueue : b.ui.shared.choices = gesture :: rest) :
      Move b (.poll o)
        ({ b with ui.shared.choices := rest }.become (.joining task (.ok gesture.choice)))
  | idled {o : Observation} {task : QuestionTask} {localDeadline : Nat}
      (hat : b.activity = .waiting task localDeadline)
      (hcheck : o.givesUp task localDeadline = none) (hqueue : b.ui.shared.choices = []) :
      Move b (.poll o) b
  | failed {task : QuestionTask} {error : ActivityError} {points : Int} {saves : Bool}
      (hat : b.activity = .joining task (.error error)) :
      Move b (.joined points saves) (b.become (.ended (.error error)))
  | answered {task : QuestionTask} {selectedIndex : UInt8} {points : Int} {saves : Bool}
      (hat : b.activity = .joining task (.ok (.answer selectedIndex))) :
      Move b (.joined points saves)
        ((b.become (.feedback task selectedIndex)).send (.activity b.asked)
          (verdict task selectedIndex points))
  | crashed {task : QuestionTask} {points : Int} {saves : Bool} {session : SessionStore}
      (hat : b.activity = .joining task (.ok .panic))
      (hsession : b.session.abandon task.gameId task.question.id saves = some session) :
      Move b (.joined points saves)
        (({ b with session }.become (.blackout task)).send (.activity b.asked) .crashed)
  | uncrashed {task : QuestionTask} {points : Int} {saves : Bool}
      (hat : b.activity = .joining task (.ok .panic))
      (hsession : b.session.abandon task.gameId task.question.id saves = none) :
      Move b (.joined points saves) (b.become (.ended (.error .session)))
  | held {task : QuestionTask} {selectedIndex : UInt8}
      (hat : b.activity = .feedback task selectedIndex) :
      Move b .held
        ((b.become (.ended (.ok (b.answer task selectedIndex)))).send (.activity b.asked) .waiting)
  | blackoutOver {task : QuestionTask} (hat : b.activity = .blackout task) :
      Move b .blackoutOver ((b.become (.recovering task)).send (.activity b.asked) .recovered)
  | reported {task : QuestionTask} {error : ActivityError} (hat : b.activity = .recovering task) :
      Move b .reported (b.become (.ended (.error error)))
  | others {sender : Sender} {request : UiRequest} (hmay : sender.mayAsk request = true) :
      Move b (.others sender request) (b.send sender request)
  | wake {now : Nat} (hat : b.turn = .resting) : Move b (.wake now) { b with turn := .draining now }
  | receive {pins : Buttons} {now : Nat} {envelope : Envelope} {rest : List Envelope}
      (hat : b.turn = .draining now) (hinbox : b.inbox = envelope :: rest) :
      Move b (.receive pins)
        { b with ui := b.ui.apply envelope.request pins now, inbox := rest }
  | drained {now : Nat} (hat : b.turn = .draining now) (hinbox : b.inbox = []) :
      Move b .drained { b with turn := .sampling now }
  | sample {buttons : Buttons} {now later : Nat} (hat : b.turn = .sampling now)
      (hlater : now ≤ later) : Move b (.sample buttons later) (b.finish buttons now later)
  | sleepFailed (hat : b.turn = .asleep) :
      Move b .sleepFailed { b with ui := b.ui.draw .off, turn := .resting }

/-- **Inversion.** -/
theorem move_of_step {b b' : Badge} {e : Event} (h : b.step e = some b') : Move b e b' := by
  cases e with
  | assign task =>
      simp only [step] at h
      split at h
      · next hat =>
          cases h
          exact .assign (by simp [hat, Activity.holds])
      · next hat =>
          cases h
          exact .assign (by simp [hat, Activity.holds])
      · cases h
  | check =>
      simp only [step] at h
      split at h
      · next hat =>
          split at h
          · cases h
            exact .checked hat (.inl rfl)
          · cases h
            exact .checked hat (.inr rfl)
      · cases h
  | refused =>
      simp only [step] at h
      split at h
      · next hat =>
          cases h
          exact .refused hat
      · cases h
  | showQuestion =>
      simp only [step] at h
      split at h
      · next hat =>
          cases h
          exact .showQuestion hat
      · cases h
  | prepare saves now =>
      simp only [step] at h
      split at h
      · next hat =>
          split at h
          · cases h
            exact .prepared hat
          · next hsession =>
              cases h
              exact .unprepared hat hsession
      · cases h
  | poll o =>
      simp only [step] at h
      split at h
      · next hat =>
          split at h
          · next hcheck =>
              cases h
              exact .gaveUp hat hcheck
          · next hcheck =>
              split at h
              · next hqueue =>
                  cases h
                  exact .took hat hcheck hqueue
              · next hqueue =>
                  cases h
                  exact .idled hat hcheck hqueue
      · cases h
  | joined points saves =>
      simp only [step] at h
      split at h
      · next task choice hat =>
          cases h
          unfold resolve
          split
          · exact .failed hat
          · exact .answered hat
          · split
            · next hsession => exact .crashed hat hsession
            · next hsession => exact .uncrashed hat hsession
      · cases h
  | held =>
      simp only [step] at h
      split at h
      · next hat =>
          cases h
          exact .held hat
      · cases h
  | blackoutOver =>
      simp only [step] at h
      split at h
      · next hat =>
          cases h
          exact .blackoutOver hat
      · cases h
  | reported =>
      simp only [step] at h
      split at h
      · next hat =>
          cases h
          exact .reported hat
      · cases h
  | others sender request =>
      simp only [step] at h
      split at h
      · next hmay =>
          cases h
          exact .others hmay
      · cases h
  | wake now =>
      simp only [step] at h
      split at h
      · next hat =>
          cases h
          exact .wake hat
      · cases h
  | receive pins =>
      simp only [step] at h
      split at h
      · next hat hinbox =>
          cases h
          exact .receive hat hinbox
      · cases h
  | drained =>
      simp only [step] at h
      split at h
      · next hat hinbox =>
          cases h
          exact .drained hat hinbox
      · cases h
  | sample buttons later =>
      simp only [step] at h
      split at h
      · next hat =>
          split at h
          · next hlater =>
              cases h
              exact .sample hat hlater
          · cases h
      · cases h
  | sleepFailed =>
      simp only [step] at h
      split at h
      · next hat =>
          cases h
          exact .sleepFailed hat
      · cases h

end Badge

end DurableTrivia.Firmware

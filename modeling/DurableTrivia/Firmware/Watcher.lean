import DurableTrivia.Firmware.Questions

/-!
# Watcher — the tasks beside the Activity

`start_result_watcher` and the watcher's task of `firmware/src/main.rs`,
the power-up poller and the requests of the boot, around the Activity and
the UI thread of `Badge`. All of them run on one Tokio thread, so between
two awaits of a task no other one acts; the UI thread is a thread of its
own and may act at any point. Arming a watcher and showing the question
have no await between them, and neither have the watcher's last check and
what it sends.

How long the tasks sleep and what their queries return is left to the
environment. The result watcher is retired by the next one unless it
watches the same game and is not finished.
-/

namespace DurableTrivia.Firmware

open DurableTrivia.Shared DurableTrivia.Lib

/-- How often a watcher asks for the result at most. -/
def resultWatchPolls : Nat := 45

/-- Where a watcher's task stands. -/
inductive WatchPhase where
  /-- asleep until the deadline of its game -/
  | armed
  /-- a query is under way, and `left` polls come behind it -/
  | querying (left : Nat)
  /-- in `RESULT_WATCH_INTERVAL` -/
  | pausing (left : Nat)
  /-- in `RESULT_HOLD` -/
  | holding
  /-- no question was answering, and `Waiting` is sent next -/
  | leaving
  | finished
  deriving DecidableEq, Repr

/-- The watcher of a game's result. -/
structure ResultWatcher where
  gameId : String
  phase : WatchPhase
  deriving DecidableEq, Repr

/-- `watcher` is the last one started that was not aborted. -/
structure Device where
  badge : Badge
  booted : Bool := false
  watcher : Option ResultWatcher := none

/-- One event of a badge with its boot and its watcher. -/
inductive DeviceEvent where
  | boot (status : Status)
  /-- the Worker is set up -/
  | ready
  /-- a step of the Activity, but for the next one -/
  | activity (e : Event)
  /-- `start_result_watcher` and `show`; without a Workflow handle no
  watcher is started -/
  | ask (handle : Bool)
  /-- a step of the UI thread -/
  | ui (e : Event)
  | powerup (command : ChaosCommand)
  /-- the deadline has passed -/
  | deadline
  | queried (snapshot : Option GameSnapshot)
  /-- `RESULT_WATCH_INTERVAL` is over -/
  | interval
  /-- `RESULT_HOLD` is over: `answering` is read -/
  | holdOver
  /-- the watcher sends `Waiting` -/
  | leave

/-- The event is a step of the Activity, other than to show a question. -/
def Event.isActivity : Event → Bool
  | .assign _ | .check | .refused | .prepare _ _ | .poll _ | .joined _ _ | .held | .blackoutOver
  | .reported => true
  | .showQuestion | .others _ _ | .wake _ | .receive _ | .drained | .sample _ _ | .sleepFailed =>
      false

/-- The event is a step of the UI thread. -/
def Event.isUi : Event → Bool
  | .wake _ | .receive _ | .drained | .sample _ _ | .sleepFailed => true
  | .assign _ | .check | .refused | .showQuestion | .prepare _ _ | .poll _ | .joined _ _ | .held
  | .blackoutOver | .reported | .others _ _ => false

/-- Not a step of the Activity. -/
def DeviceEvent.isAside : DeviceEvent → Bool
  | .activity _ | .ask _ => false
  | .boot _ | .ready | .ui _ | .powerup _ | .deadline | .queried _ | .interval | .holdOver
  | .leave => true

/-- A watcher of the same game that is not finished goes on; any other is
aborted and replaced. -/
def startResultWatcher (watcher : Option ResultWatcher) (task : QuestionTask) (handle : Bool) :
    Option ResultWatcher :=
  if handle then
    if watcher.any fun current => current.gameId == task.gameId && current.phase != .finished then
      watcher
    else some { gameId := task.gameId, phase := .armed }
  else watcher

namespace Device

/-- The watcher stands between its last check and what it sends. -/
def leaving (d : Device) : Bool := d.watcher.any fun watcher => watcher.phase == .leaving

/-- Another task of the Tokio thread can go on. -/
def runs (d : Device) : Bool := d.booted && !d.leaving

/-- Put a request at the end of the UI channel. -/
def send (d : Device) (sender : Sender) (request : UiRequest) : Device :=
  { d with badge := d.badge.send sender request }

/-- The watcher goes on. -/
def watch (d : Device) (phase : WatchPhase) : Device :=
  { d with watcher := d.watcher.map fun watcher => { watcher with phase } }

/-- Where the watcher is, if there is one. -/
def phase (d : Device) : Option WatchPhase := d.watcher.map ResultWatcher.phase

/-- One event; `none` where it cannot occur. -/
def step (d : Device) : DeviceEvent → Option Device
  | .boot status => if d.booted then none else some (d.send .boot (.status status))
  | .ready => if d.booted then none else some ({ d with booted := true }.send .boot .waiting)
  | .activity e =>
      if d.runs && e.isActivity then (d.badge.step e).map fun badge => { d with badge } else none
  | .ask handle =>
      match d.badge.activity with
      | .showing task =>
          if d.runs then
            some { d with
              badge := d.badge.showQuestion task
              watcher := startResultWatcher d.watcher task handle }
          else none
      | _ => none
  | .ui e => if e.isUi then (d.badge.step e).map fun badge => { d with badge } else none
  | .powerup command => if d.runs then some (d.send .powerups (.powerup command)) else none
  | .deadline =>
      match d.phase with
      | some .armed => some (d.watch (.querying (resultWatchPolls - 1)))
      | _ => none
  | .queried snapshot =>
      match d.phase, snapshot with
      | some (.querying left), some snapshot =>
          if snapshot.status = .finished then
            some ((d.send .watcher (.results snapshot)).watch .holding)
          else some (d.watch (.pausing left))
      | some (.querying left), none => some (d.watch (.pausing left))
      | _, _ => none
  | .interval =>
      match d.phase with
      | some (.pausing (left + 1)) => some (d.watch (.querying left))
      | some (.pausing 0) => some ((d.send .watcher .resultPending).watch .finished)
      | _ => none
  | .holdOver =>
      match d.phase with
      | some .holding =>
          some (d.watch (if d.badge.ui.shared.answering then .finished else .leaving))
      | _ => none
  | .leave =>
      match d.phase with
      | some .leaving => some ((d.send .watcher .waiting).watch .finished)
      | _ => none

/-- A badge that was switched on, with the session its flash held. -/
def system : StepSystem Device DeviceEvent where
  init d := ∃ badge, Badge.system.init badge ∧ d = { badge }
  step := step

/-! ## What one event can do -/

/-- What the watcher, the poller and the boot send. -/
inductive Sends (d : Device) : DeviceEvent → Sender → UiRequest → Prop
  | boot {status : Status} (hbooting : d.booted = false) :
      Sends d (.boot status) .boot (.status status)
  | ready (hbooting : d.booted = false) : Sends d .ready .boot .waiting
  | powerup {command : ChaosCommand} (hruns : d.runs = true) :
      Sends d (.powerup command) .powerups (.powerup command)
  | results {snapshot : GameSnapshot} {left : Nat} (hphase : d.phase = some (.querying left))
      (hstatus : snapshot.status = .finished) :
      Sends d (.queried (some snapshot)) .watcher (.results snapshot)
  | resultPending (hphase : d.phase = some (.pausing 0)) : Sends d .interval .watcher .resultPending
  | waiting (hphase : d.phase = some .leaving) : Sends d .leave .watcher .waiting

/-- Where an event takes the badge; the watcher and the boot are told
apart where the badge is. -/
inductive Move (d : Device) : DeviceEvent → Device → Prop
  | activity {e : Event} {badge : Badge} (hruns : d.runs = true) (hactivity : e.isActivity = true)
      (hstep : d.badge.step e = some badge) : Move d (.activity e) { d with badge }
  | ask {handle : Bool} {task : QuestionTask} (hruns : d.runs = true)
      (hat : d.badge.activity = .showing task) :
      Move d (.ask handle)
        { d with
          badge := d.badge.showQuestion task
          watcher := startResultWatcher d.watcher task handle }
  | ui {e : Event} {badge : Badge} (hui : e.isUi = true) (hstep : d.badge.step e = some badge) :
      Move d (.ui e) { d with badge }
  | sends {e : DeviceEvent} {sender : Sender} {request : UiRequest} {d' : Device}
      (hsends : Sends d e sender request) (hbadge : d'.badge = d.badge.send sender request)
      (hbooted : d.booted = true → d'.booted = true)
      (hleaving : d'.leaving = true → d.leaving = true) :
      Move d e d'
  | holdOver (hphase : d.phase = some .holding) :
      Move d .holdOver (d.watch (if d.badge.ui.shared.answering then .finished else .leaving))
  | watches {e : DeviceEvent} {phase : WatchPhase} (haside : e.isAside = true)
      (hphase : phase ≠ .leaving) : Move d e (d.watch phase)

theorem leaving_watch (d : Device) (phase : WatchPhase) :
    (d.watch phase).leaving = true → phase = .leaving := by
  unfold leaving watch
  cases d.watcher with
  | none => simp
  | some watcher => simp

theorem leaving_of_phase {d : Device} (h : d.phase = some .leaving) : d.leaving = true := by
  obtain ⟨watcher, hwatcher, hphase⟩ := Option.map_eq_some_iff.mp h
  simp [leaving, hwatcher, hphase]

/-- **Inversion.** -/
theorem move_of_step {d d' : Device} {e : DeviceEvent} (h : d.step e = some d') : Move d e d' := by
  have hwatched {b : Device} {phase : WatchPhase} (hphase : phase ≠ .leaving) :
      (b.watch phase).leaving = true → d.leaving = true := by
    intro hleaving
    exact absurd (leaving_watch b phase hleaving) hphase
  cases e with
  | boot status =>
      simp only [step] at h
      split at h
      · cases h
      · next hbooted =>
          cases h
          exact .sends (.boot (by simpa using hbooted)) rfl id id
  | ready =>
      simp only [step] at h
      split at h
      · cases h
      · next hbooted =>
          cases h
          exact .sends (.ready (by simpa using hbooted)) rfl (fun _ => rfl) id
  | activity e =>
      simp only [step] at h
      split at h
      · next hguard =>
          obtain ⟨badge, hstep, rfl⟩ := Option.map_eq_some_iff.mp h
          rw [Bool.and_eq_true] at hguard
          exact .activity hguard.1 hguard.2 hstep
      · cases h
  | ask handle =>
      simp only [step] at h
      split at h
      · next hat =>
          split at h
          · next hruns =>
              cases h
              exact .ask hruns hat
          · cases h
      · cases h
  | ui e =>
      simp only [step] at h
      split at h
      · next hui =>
          obtain ⟨badge, hstep, rfl⟩ := Option.map_eq_some_iff.mp h
          exact .ui hui hstep
      · cases h
  | powerup command =>
      simp only [step] at h
      split at h
      · next hruns =>
          cases h
          exact .sends (.powerup hruns) rfl id id
      · cases h
  | deadline =>
      simp only [step] at h
      split at h
      · cases h
        exact .watches rfl (by simp)
      · cases h
  | queried snapshot =>
      simp only [step] at h
      split at h
      · next hphase =>
          split at h
          · next hstatus =>
              cases h
              exact .sends (.results hphase hstatus) rfl id (hwatched (by simp))
          · cases h
            exact .watches rfl (by simp)
      · cases h
        exact .watches rfl (by simp)
      · cases h
  | interval =>
      simp only [step] at h
      split at h
      · cases h
        exact .watches rfl (by simp)
      · next hphase =>
          cases h
          exact .sends (.resultPending hphase) rfl id (hwatched (by simp))
      · cases h
  | holdOver =>
      simp only [step] at h
      split at h
      · next hphase =>
          cases h
          exact .holdOver hphase
      · cases h
  | leave =>
      simp only [step] at h
      split at h
      · next hphase =>
          cases h
          exact .sends (.waiting hphase) rfl id (hwatched (by simp))
      · cases h

/-! ## The badge of a device -/

/-- What is sent is what the others may ask for. -/
theorem Sends.mayAsk {d : Device} {e : DeviceEvent} {sender : Sender} {request : UiRequest}
    (h : Sends d e sender request) : sender.mayAsk request = true := by
  cases h <;> rfl

/-- **A device is a badge** whose others are the watcher, the poller and
the boot. -/
theorem badge_step {d d' : Device} {e : DeviceEvent} (h : d.step e = some d') :
    d'.badge = d.badge ∨ ∃ e', d.badge.step e' = some d'.badge := by
  cases move_of_step h with
  | activity _ _ hstep => exact .inr ⟨_, hstep⟩
  | ui _ hstep => exact .inr ⟨_, hstep⟩
  | ask _ hat => exact .inr ⟨.showQuestion, by simp only [Badge.step, hat]⟩
  | @sends _ sender request _ hsends hbadge _ _ =>
      refine .inr ⟨.others sender request, ?_⟩
      rw [hbadge]
      simp only [Badge.step, hsends.mayAsk, if_true]
  | holdOver _ => exact .inl rfl
  | watches _ _ => exact .inl rfl

theorem badge_reachable {d : Device} (h : system.Reachable d) : Badge.system.Reachable d.badge := by
  refine h.invariant (I := fun d => Badge.system.Reachable d.badge) ?_ ?_
  · rintro d₀ ⟨badge, hinit, rfl⟩
    exact ⟨[], .nil hinit⟩
  · intro d e d' hd hstep
    rcases badge_step hstep with hsame | ⟨e', hnext⟩
    · rw [hsame]
      exact hd
    · exact hd.next hnext

end Device

end DurableTrivia.Firmware

import DurableTrivia.Lib.Window
import DurableTrivia.Shared.Contract

/-!
# EventWindow — what the snapshot keeps of all the events of a round

`push_kind` looks at the window only, never at what it has dropped. Seen
from the whole sequence of pushes it keeps the closed form of
`Lib.Window`: the last events that are not answers, and the last answers
in the room these leave.
-/

namespace DurableTrivia.Shared

open DurableTrivia.Lib DurableTrivia.Lib.Window

/-- The event is about an answer. -/
def GameEvent.isAnswer (event : GameEvent) : Bool := event.kind == .answer

/-- The answers among the events. -/
def answers (events : List GameEvent) : Nat := events.countP GameEvent.isAnswer

/-- The faults, handoffs, chaos and lifecycle events. -/
def durables (events : List GameEvent) : Nat := events.countP (other GameEvent.isAnswer)

/-- A call that records an event. -/
inductive Push where
  | pushKind (kind : EventKind) (text : String)
  | pushEvent (text : String)
  deriving DecidableEq, Repr

namespace Push

/-- What a push does to the snapshot. -/
def on (s : GameSnapshot) : Push → GameSnapshot
  | .pushKind kind text => s.pushKind kind text
  | .pushEvent text => s.pushEvent text

/-- The event a push appends. -/
def recorded : Push → GameEvent
  | .pushKind kind text => { text, kind }
  | .pushEvent text => { text }

theorem on_events (s : GameSnapshot) (push : Push) :
    (push.on s).events = pushWindow s.events push.recorded := by
  cases push with
  | pushKind kind text => rfl
  | pushEvent text => rfl

end Push

theorem evictOne_eq_evict (events : List GameEvent) :
    evictOne events = evict GameEvent.isAnswer events := by
  have herase := @List.eraseP_eq_eraseIdx _ events GameEvent.isAnswer
  show events.eraseIdx ((events.findIdx? GameEvent.isAnswer).getD 0) = _
  unfold evict
  cases hanswer : events.findIdx? GameEvent.isAnswer with
  | none =>
      have hnone : events.any GameEvent.isAnswer = false := by
        rw [List.any_eq_false]
        simpa using List.findIdx?_eq_none_iff.mp hanswer
      rw [hnone, if_neg Bool.false_ne_true]
      simp
  | some i =>
      rw [hanswer] at herase
      have hsome : events.any GameEvent.isAnswer = true := by
        rw [← List.findIdx?_isSome, hanswer]
        rfl
      rw [hsome, if_pos rfl, herase]
      rfl

/-- **One push on the closed form is the closed form of one more event.** -/
theorem pushWindow_window (events : List GameEvent) (event : GameEvent) :
    pushWindow (window GameEvent.isAnswer eventWindow events) event
      = window GameEvent.isAnswer eventWindow (events ++ [event]) := by
  have hlength := @length_window _ GameEvent.isAnswer eventWindow events
  unfold pushWindow
  rw [List.length_append, List.length_singleton, hlength]
  by_cases hroom : events.length < eventWindow
  · have hnone : min eventWindow events.length + 1 - eventWindow = 0 := by omega
    rw [hnone, trimEvents, window_of_room (Nat.le_of_lt hroom), window_of_room]
    rw [List.length_append, List.length_singleton]
    omega
  · have hone : min eventWindow events.length + 1 - eventWindow = 1 := by omega
    rw [hone, trimEvents, trimEvents, evictOne_eq_evict, window_push (Nat.le_of_not_lt hroom)]

/-- **The window after any pushes is the closed form of the events.** -/
theorem events_of_pushes {s : GameSnapshot} (hempty : s.events = []) (pushes : List Push) :
    (pushes.foldl Push.on s).events
      = window GameEvent.isAnswer eventWindow (pushes.map Push.recorded) := by
  induction pushes using List.reverseRecOn with
  | nil =>
      rw [List.foldl_nil, hempty]
      rfl
  | append_singleton pushes push ih =>
      rw [List.foldl_append, List.foldl_cons, List.foldl_nil, Push.on_events, ih,
        pushWindow_window, List.map_append]
      rfl

/-- **The exact content of the event window.** -/
theorem event_window_exact (s : GameSnapshot) (pushes : List Push) (events : List GameEvent)
    (hempty : s.events = []) (hevents : events = pushes.map Push.recorded) :
    (pushes.foldl Push.on s).events
        = keepLast GameEvent.isAnswer
          (min (answers events) (eventWindow - min eventWindow (durables events)))
          (keepLast (other GameEvent.isAnswer) (min eventWindow (durables events)) events)
      ∧ (pushes.foldl Push.on s).events.length
        = min eventWindow (durables events + answers events)
      ∧ (pushes.foldl Push.on s).events.Sublist events
      ∧ ∀ before event after, events = before ++ event :: after → event.kind ≠ .answer →
        durables after < eventWindow →
        ∃ kept later, (pushes.foldl Push.on s).events = kept ++ event :: later
          ∧ kept.Sublist before ∧ later.Sublist after := by
  have hwindow := events_of_pushes hempty pushes
  rw [← hevents] at hwindow
  rw [hwindow]
  refine ⟨rfl, ?_, window_sublist events, fun before event after hsplit hkind hfew => ?_⟩
  · rw [length_window, @length_eq _ GameEvent.isAnswer, Nat.add_comm]
    rfl
  · rw [hsplit]
    exact window_around (by simpa [GameEvent.isAnswer] using hkind) hfew

theorem event_window_exact_demo :
    ({} : GameSnapshot).events = []
      ∧ ((Push.pushKind .fault "crash"
          :: List.replicate 30 (.pushKind .answer "right")).foldl Push.on
        {}).events.length = 24 := by
  obtain ⟨_, hlength, _⟩ := event_window_exact {}
    (Push.pushKind .fault "crash" :: List.replicate 30 (.pushKind .answer "right")) _ rfl rfl
  exact ⟨rfl, hlength.trans (by decide)⟩

end DurableTrivia.Shared

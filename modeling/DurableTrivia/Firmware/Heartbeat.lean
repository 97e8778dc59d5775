import DurableTrivia.Firmware.Badge

/-!
# Heartbeat — one attempt, its heartbeats and Temporal's timeout

`spawn_heartbeat`, `heartbeat_once` and `ActivityHeartbeat` of
`firmware/src/main.rs` beside the loop of `wait_for_choice`, and the
server's side of the attempt. Heartbeats and answers travel through
`heartbeats` and `responses`; one that is never taken out is lost. A call
sends a heartbeat of its own, the client may repeat it, and Core sends more
beside it. The clocks of both sides run at the same rate and are read as
one, `now`, in nanoseconds.
-/

namespace DurableTrivia.Firmware

open DurableTrivia.Shared DurableTrivia.Lib

/-! ## The heartbeat task -/

/-- What one Activity heartbeat means for the attempt that sent it. -/
inductive Heartbeat where
  | acknowledged | missed | stopped
  deriving DecidableEq, Repr

/-- Temporal's answer to a heartbeat call. -/
inductive HeartbeatResponse where
  | notFound
  | status (cancelRequested activityPaused activityReset : Bool)
  deriving DecidableEq, Repr

/-- What the answer to a heartbeat says to the Activity. -/
def HeartbeatResponse.heartbeat : HeartbeatResponse → Heartbeat
  | .notFound => .stopped
  | .status cancelRequested activityPaused activityReset =>
      if cancelRequested || activityPaused || activityReset then .stopped else .acknowledged

/-- Where the task stands. -/
inductive HeartbeatTask where
  /-- at `record_heartbeat` -/
  | recording
  /-- the call under way -/
  | calling (call : Nat)
  | sleeping (wakesAt : Nat)
  | returned
  deriving DecidableEq, Repr

/-- What the Activity shares with its heartbeat task, and where that task
is. -/
structure ActivityHeartbeat where
  stopped : Bool := false
  /-- milliseconds since `base`, in 32 bits -/
  lastAckMs : Nat := 0
  base : Nat
  task : HeartbeatTask := .recording
  deriving DecidableEq, Repr

namespace ActivityHeartbeat

/-- `base.elapsed().as_millis() as u32` -/
def elapsedMs (h : ActivityHeartbeat) (now : Nat) : Nat := (now - h.base) / 10 ^ 6 % 2 ^ 32

/-- The instant the 32 bits start again at zero. -/
def wrapsAt (h : ActivityHeartbeat) : Nat := h.base + 2 ^ 32 * 10 ^ 6

/-- Milliseconds since the last acknowledgement. -/
def silentMs (h : ActivityHeartbeat) (now : Nat) : Nat := h.elapsedMs now - h.lastAckMs

/-- The heartbeat task sleeps until the next heartbeat is due. -/
def rest (h : ActivityHeartbeat) (now : Nat) : ActivityHeartbeat :=
  { h with task := .sleeping (now + badgeHeartbeatIntervalMs * 10 ^ 6) }

/-- What `heartbeat_once` returned. -/
def report (h : ActivityHeartbeat) (heartbeat : Heartbeat) (now : Nat) : ActivityHeartbeat :=
  match heartbeat with
  | .acknowledged => { h with lastAckMs := h.elapsedMs now }.rest now
  | .missed => h.rest now
  | .stopped => { h with stopped := true, task := .returned }

/-- The instant the budget is exhausted. -/
def budgetEnd (h : ActivityHeartbeat) : Nat :=
  h.base + (h.lastAckMs + badgeHeartbeatFailureBudgetMs) * 10 ^ 6

end ActivityHeartbeat

/-! ## The attempt -/

/-- Where the badge's side of the attempt stands. -/
inductive Stage where
  /-- Temporal handed the attempt out -/
  | dispatched
  /-- between `spawn_heartbeat` and `wait_for_choice` -/
  | preparing
  | waiting (localDeadline : Nat)
  | left (choice : Except ActivityError Choice)

/-- The attempt ended with an answer. -/
def Stage.answered : Stage → Bool
  | .left (.ok _) => true
  | _ => false

/-- An answer under way, with the time its heartbeat was received. -/
structure Reply where
  call : Nat
  response : HeartbeatResponse
  receivedAt : Nat
  deriving DecidableEq, Repr

/-- `lastHeartbeat` is the server's: when it received the last heartbeat,
or started the attempt. A heartbeat under way carries the call it belongs
to; Core's own have none. -/
structure Attempt where
  task : QuestionTask
  now : Nat
  lastHeartbeat : Nat
  heartbeats : List (Option Nat) := []
  responses : List Reply := []
  calls : Nat := 0
  heartbeat : Option ActivityHeartbeat := none
  stage : Stage := .dispatched

/-- One event of an attempt and its heartbeats. -/
inductive AttemptEvent where
  | pass (ns : Nat)
  | spawnHeartbeat
  | wait
  /-- a turn of the loop; `choice` is what `next_choice` would return -/
  | poll (cancelled : Bool) (nowUnixMs : Nat) (choice : Option Choice)
  /-- `record_heartbeat` returned, and the call is made -/
  | record (encoded : Bool)
  /-- the client repeats a call's heartbeat, or Core sends one -/
  | resend (call : Option Nat)
  /-- the server receives a heartbeat; an attempt that timed out is not
  found -/
  | deliver (i : Nat) (response : HeartbeatResponse)
  /-- an answer reaches the badge -/
  | respond (i : Nat)
  /-- the call fails -/
  | failCall
  | wakeUp

namespace Attempt

/-- When Temporal gives the attempt up. -/
def timesOutAt (s : Attempt) : Nat := s.lastHeartbeat + badgeHeartbeatTimeoutMs * 10 ^ 6

/-- The server gave the attempt up. -/
def timedOut (s : Attempt) : Bool := decide (s.timesOutAt ≤ s.now)

theorem timedOut_iff {s : Attempt} : s.timedOut = true ↔ s.timesOutAt ≤ s.now := by
  simp only [timedOut, decide_eq_true_eq]

/-- What a turn of the loop reads. -/
def observe (s : Attempt) (h : ActivityHeartbeat) (cancelled : Bool) (nowUnixMs : Nat) :
    Observation :=
  { cancelled, nowUnixMs, now := s.now, stopped := h.stopped, silentMs := h.silentMs s.now }

/-- The attempt with its heartbeat task as given. -/
def setHeartbeat (s : Attempt) (h : ActivityHeartbeat) : Attempt := { s with heartbeat := some h }

/-- The server receives a heartbeat, and answers the call it belongs to. -/
def receive (s : Attempt) (timedOut : Bool) (call : Option Nat) (response : HeartbeatResponse) :
    Attempt :=
  { s with
    lastHeartbeat := if timedOut then s.lastHeartbeat else s.now
    responses := s.responses ++ call.toList.map fun call =>
      { call, response := if timedOut then .notFound else response, receivedAt := s.now } }

/-- One event; `none` where it cannot occur. -/
def step (s : Attempt) : AttemptEvent → Option Attempt
  | .pass ns => some { s with now := s.now + ns }
  | .spawnHeartbeat =>
      match s.stage with
      | .dispatched => some { s.setHeartbeat { base := s.now } with stage := .preparing }
      | _ => none
  | .wait =>
      match s.stage with
      | .preparing => some { s with stage := .waiting (s.now + maxActivityRuntime) }
      | _ => none
  | .poll cancelled nowUnixMs choice =>
      match s.stage, s.heartbeat with
      | .waiting localDeadline, some h =>
          match (s.observe h cancelled nowUnixMs).givesUp s.task localDeadline with
          | some error => some { s with stage := .left (.error error) }
          | none =>
              some { s with stage := (choice.map fun choice => .left (.ok choice)).getD s.stage }
      | _, _ => none
  | .record encoded =>
      match s.heartbeat with
      | some h =>
          if h.task = .recording then
            if encoded then
              some { s.setHeartbeat { h with task := .calling s.calls } with
                calls := s.calls + 1, heartbeats := s.heartbeats ++ [some s.calls] }
            else some (s.setHeartbeat (h.report .missed s.now))
          else none
      | none => none
  | .resend call =>
      if s.heartbeat.isSome ∧ ∀ made ∈ call, made < s.calls then
        some { s with heartbeats := s.heartbeats ++ [call] }
      else none
  | .deliver i response =>
      match s.heartbeats[i]? with
      | some call =>
          some { s.receive s.timedOut call response with heartbeats := s.heartbeats.eraseIdx i }
      | none => none
  | .respond i =>
      match s.responses[i]?, s.heartbeat with
      | some reply, some h =>
          let s := { s with responses := s.responses.eraseIdx i }
          -- an answer to a call that already failed is dropped
          if h.task = .calling reply.call then
            some (s.setHeartbeat (h.report reply.response.heartbeat s.now))
          else some s
      | _, _ => none
  | .failCall =>
      match s.heartbeat with
      | some h =>
          match h.task with
          | .calling _ => some (s.setHeartbeat (h.report .missed s.now))
          | _ => none
      | none => none
  | .wakeUp =>
      match s.heartbeat with
      | some h =>
          match h.task with
          | .sleeping wakesAt =>
              if wakesAt ≤ s.now then some (s.setHeartbeat { h with task := .recording }) else none
          | _ => none
      | none => none

/-- Temporal starts the attempt. -/
def system : StepSystem Attempt AttemptEvent where
  init s := ∃ task start, s = { task, now := start, lastHeartbeat := start }
  step := step

/-! ## What one event can do -/

/-- What one event can do. -/
inductive Move (s : Attempt) : AttemptEvent → Attempt → Prop
  | pass (ns : Nat) : Move s (.pass ns) { s with now := s.now + ns }
  | spawn (hat : s.stage = .dispatched) :
      Move s .spawnHeartbeat { s.setHeartbeat { base := s.now } with stage := .preparing }
  | wait (hat : s.stage = .preparing) :
      Move s .wait { s with stage := .waiting (s.now + maxActivityRuntime) }
  | turn {cancelled : Bool} {nowUnixMs : Nat} {choice : Option Choice} {stage : Stage}
      (hstage : ∀ localDeadline, stage = .waiting localDeadline → s.stage = stage) :
      Move s (.poll cancelled nowUnixMs choice) { s with stage }
  | call {h : ActivityHeartbeat} (hheartbeat : s.heartbeat = some h) (hat : h.task = .recording) :
      Move s (.record true)
        { s.setHeartbeat { h with task := .calling s.calls } with
          calls := s.calls + 1, heartbeats := s.heartbeats ++ [some s.calls] }
  | resend {call : Option Nat} :
      Move s (.resend call) { s with heartbeats := s.heartbeats ++ [call] }
  | missed {e : AttemptEvent} {h : ActivityHeartbeat} (hheartbeat : s.heartbeat = some h) :
      Move s e (s.setHeartbeat (h.report .missed s.now))
  | deliver {i : Nat} {response : HeartbeatResponse} {timedOut : Bool} {call : Option Nat}
      (hout : s.timedOut = timedOut) (hcall : s.heartbeats[i]? = some call) :
      Move s (.deliver i response)
        { s.receive timedOut call response with heartbeats := s.heartbeats.eraseIdx i }
  | respond {i : Nat} {reply : Reply} {h : ActivityHeartbeat}
      (hreply : s.responses[i]? = some reply)
      (hheartbeat : s.heartbeat = some h) (htask : h.task = .calling reply.call) :
      Move s (.respond i)
        ({ s with responses := s.responses.eraseIdx i }.setHeartbeat
          (h.report reply.response.heartbeat s.now))
  | late {i : Nat} : Move s (.respond i) { s with responses := s.responses.eraseIdx i }
  | wakeUp {h : ActivityHeartbeat} (hheartbeat : s.heartbeat = some h) :
      Move s .wakeUp (s.setHeartbeat { h with task := .recording })

/-- **Inversion.** -/
theorem move_of_step {s s' : Attempt} {e : AttemptEvent} (hnext : s.step e = some s') :
    Move s e s' := by
  cases e with
  | pass ns =>
      cases hnext
      exact .pass ns
  | spawnHeartbeat =>
      simp only [step] at hnext
      split at hnext
      · next hat =>
          cases hnext
          exact .spawn hat
      · cases hnext
  | wait =>
      simp only [step] at hnext
      split at hnext
      · next hat =>
          cases hnext
          exact .wait hat
      · cases hnext
  | poll cancelled nowUnixMs choice =>
      simp only [step] at hnext
      split at hnext
      · next hat _ =>
          split at hnext
          · cases hnext
            exact .turn fun _ hstage => by cases hstage
          · cases hnext
            refine .turn fun _ hstage => ?_
            cases choice with
            | none => rfl
            | some choice => cases hstage
      · cases hnext
  | record encoded =>
      simp only [step] at hnext
      split at hnext
      · next hheartbeat =>
          split at hnext
          · next hat =>
              cases encoded with
              | true =>
                  cases hnext
                  exact .call hheartbeat hat
              | false =>
                  cases hnext
                  exact .missed hheartbeat
          · cases hnext
      · cases hnext
  | resend call =>
      simp only [step] at hnext
      split at hnext
      · cases hnext
        exact .resend
      · cases hnext
  | deliver i response =>
      simp only [step] at hnext
      split at hnext
      · next hcall =>
          cases hnext
          exact .deliver rfl hcall
      · cases hnext
  | respond i =>
      simp only [step] at hnext
      split at hnext
      · next hreply hheartbeat =>
          split at hnext
          · next htask =>
              cases hnext
              exact .respond hreply hheartbeat htask
          · cases hnext
            exact .late
      · cases hnext
  | failCall =>
      simp only [step] at hnext
      split at hnext
      · next hheartbeat =>
          split at hnext
          · cases hnext
            exact .missed hheartbeat
          · cases hnext
      · cases hnext
  | wakeUp =>
      simp only [step] at hnext
      split at hnext
      · next hheartbeat =>
          split at hnext
          · split at hnext
            · cases hnext
              exact .wakeUp hheartbeat
            · cases hnext
          · cases hnext
      · cases hnext

end Attempt

end DurableTrivia.Firmware

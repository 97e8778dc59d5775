import DurableTrivia.Firmware.Badge
import DurableTrivia.Web.InFlight

/-!
# Play — a badge in a round

The round of `web/src/workflow.rs` and one badge of `firmware/src/main.rs`
on one clock. Temporal is between them: it hands the badge a pending
Activity, keeps what the Activity returned until the Workflow processes
the completion, and answers the power-up poller from the Workflow's
snapshot. None of these waits for another, so their order is left to the
environment.

`monitor_powerups` compares the expiry time of the snapshot it got with
the clock and stores the value of an answer; `answer_question` loads that
value when the player has chosen, shows the verdict and holds it before
it returns the answer.
-/

namespace DurableTrivia.Firmware

open DurableTrivia.Shared DurableTrivia.Lib

/-- `FEEDBACK_HOLD` in milliseconds. -/
def feedbackHoldMs : Nat := 1100

/-- What the poller read last: the snapshot, and the clock it was
compared with. -/
structure Poll where
  snapshot : GameSnapshot
  readUnixMs : Nat

/-- `doubled` in `monitor_powerups`. -/
def Poll.doubled (poll : Poll) : Bool :=
  Web.inForce poll.snapshot.chaos.doublePointsUntilUnixMs poll.readUnixMs

/-- The `point_value` a poll leaves. -/
def pointValueOf (doubled : Bool) : Int := if doubled then 2 else 1

/-- What the badge showed for an answer, and the poll it relied on. -/
structure Verdict where
  request : UiRequest
  poll : Option Poll
  shownUnixMs : Nat

/-- What an Activity returned to Temporal. -/
structure Completion where
  outstanding : Web.Outstanding
  answer : BadgeAnswer
  verdict : Verdict

/-- A round, one badge that plays it, and what is on its way between the
two. -/
structure Play where
  round : Web.State
  badge : Badge
  /-- the Activity in the badge's slot -/
  outstanding : Option Web.Outstanding := none
  /-- a snapshot on its way to the poller -/
  poll : Option GameSnapshot := none
  lastPoll : Option Poll := none
  pointValue : Int := 1
  verdict : Option Verdict := none
  /-- returned, and not processed by the Workflow -/
  completions : List Completion := []

/-- One event of the joint run. -/
inductive PlayEvent where
  /-- a step of the Workflow -/
  | round (e : Web.Event)
  /-- a step of the badge that the other events do not cover -/
  | badge (e : Event)
  /-- Temporal hands the badge the Activity at `index` in `pending` -/
  | assign (index : Nat)
  /-- `wait_for_choice` and the report of the attempt are done -/
  | joined (saves : Bool)
  /-- `FEEDBACK_HOLD` is over -/
  | held
  /-- the query is answered, by the Workflow before this one while the
  round has not started -/
  | query (before : GameSnapshot)
  | polled
  | pollFailed
  /-- the Workflow processes the completion at `i` -/
  | recorded (i index : Nat)

/-- A step of the badge that leaves slot, verdict and answer alone; the
clocks are equal. -/
def Event.isOwn (nowUnixMs : Nat) : Event → Bool
  | .assign _ | .joined _ _ | .held => false
  | .poll o => o.nowUnixMs == nowUnixMs
  | .check | .refused | .showQuestion | .prepare _ _ | .blackoutOver | .reported | .others _ _
  | .wake _ | .receive _ | .drained | .sample _ _ | .sleepFailed => true

namespace Play

/-- Who answers a query. -/
def queried (s : Web.State) (before : GameSnapshot) : Option GameSnapshot :=
  match s.phase with
  | .unstarted => some before
  | .sleeping _ | .selecting _ | .returned _ _ => some s.wf.snapshot
  | .loopHead | .closing _ => none

/-- The verdict of an answer that was just chosen. -/
def verdictNow (p : Play) : Option Verdict :=
  match p.badge.activity with
  | .joining task (.ok (.answer selectedIndex)) =>
      some
        { request := Badge.verdict task selectedIndex p.pointValue
          poll := p.lastPoll
          shownUnixMs := p.round.clock }
  | _ => none

/-- The badge returned, and the answer is on its way. -/
def returned (p : Play) (badge : Badge) (outstanding : Web.Outstanding) (verdict : Verdict) :
    Option Play :=
  match badge.activity with
  | .ended (.ok answer) =>
      some { p with badge, completions := p.completions ++ [{ outstanding, answer, verdict }] }
  | _ => none

/-- One event; `none` where it cannot occur. -/
def step (r : Web.Round) (p : Play) : PlayEvent → Option Play
  | .round e => (r.step p.round e).map fun round => { p with round }
  | .badge e =>
      if e.isOwn p.round.clock then (p.badge.step e).map fun badge => { p with badge } else none
  | .assign index =>
      match p.round.pending[index]? with
      | some outstanding =>
          (p.badge.step (.assign outstanding.task)).map fun badge =>
            { p with badge, outstanding := some outstanding }
      | none => none
  | .joined saves =>
      (p.badge.step (.joined p.pointValue saves)).map fun badge =>
        { p with badge, verdict := p.verdictNow }
  | .held =>
      match p.outstanding, p.verdict with
      | some outstanding, some verdict =>
          if verdict.shownUnixMs + feedbackHoldMs ≤ p.round.clock then
            (p.badge.step .held).bind fun badge => p.returned badge outstanding verdict
          else none
      | _, _ => none
  | .query before => (queried p.round before).map fun snapshot => { p with poll := some snapshot }
  | .polled =>
      match p.poll with
      | some snapshot =>
          let poll : Poll := { snapshot, readUnixMs := p.round.clock }
          some { p with
            poll := none, lastPoll := some poll, pointValue := pointValueOf poll.doubled }
      | none => none
  -- a failed poll stores nothing
  | .pollFailed => some { p with poll := none }
  | .recorded i index =>
      match p.completions[i]?, p.round.pending[index]? with
      | some completion, some outstanding =>
          if completion.outstanding = outstanding then
            (r.step p.round (.completed index (.ok completion.answer))).map fun round =>
              { p with round, completions := p.completions.eraseIdx i }
          else none
      | _, _ => none

/-- A badge that booted before the round. -/
def system (r : Web.Round) : StepSystem Play PlayEvent where
  init p := ∃ clock badge, Badge.system.init badge ∧ p = { round := { clock }, badge }
  step := step r

variable {r : Web.Round}

end Play

end DurableTrivia.Firmware

import DurableTrivia.Lib.Suffix
import DurableTrivia.Lib.Versions
import DurableTrivia.Web.ScoreLedger

/-!
# Attempts — the start signals of a round and what is kept of them

`record_activity_started` keeps who works on which question and which
attempts it has seen; no other handler touches either. So this part of
the Workflow is a function of the `badge_started` signals processed
since the round was initialised, whatever else happened in between: the
assignments are registers written by the signals in turn
(`Lib.Versions`), and the attempts seen are a set.

An attempt is remembered as the text `question_id:attempt`. The id may
hold a `:` of its own, the numeral after the last one cannot.
-/

namespace DurableTrivia.Web

open DurableTrivia.Shared DurableTrivia.Lib

/-! ## What a history says -/

/-- The start signal a transition processes. -/
def startedEvent (t : State × Event) : Option BadgeEvent :=
  match t.2 with
  | .badgeStarted event => some event
  | _ => none

/-- The start signals of a history, latest first. -/
def startedEvents (round : History) : List BadgeEvent := round.filterMap startedEvent

/-- The attempts some signals report. -/
def attemptPairs (events : List BadgeEvent) : Finset (String × Nat) :=
  (events.map fun event => (event.questionId, event.attempt)).toFinset

/-- The badge a transition puts on the roster, if it is not there yet. -/
def appears (t : State × Event) : Option String :=
  match t.2 with
  | .badgeStarted event | .panicEvent event => some event.badgeId
  | _ => (recordedAnswer t).map (·.badgeId)

/-- The badges that take part in a round. -/
def appearances (round : History) : List String := round.filterMap appears

/-- The text an attempt is remembered as. -/
def attemptKey (event : BadgeEvent) : String := event.questionId ++ ":" ++ toString event.attempt

/-- **The text of an attempt is read back uniquely.** -/
theorem attemptKey_inj {event event' : BadgeEvent} (h : attemptKey event = attemptKey event') :
    event.questionId = event'.questionId ∧ event.attempt = event'.attempt := by
  have hlist : event.questionId.toList ++ ':' :: Nat.toDigits 10 event.attempt
      = event'.questionId.toList ++ ':' :: Nat.toDigits 10 event'.attempt := by
    have htext := congrArg String.toList h
    simpa [attemptKey] using htext
  obtain ⟨hid, hattempt⟩ := append_sep_toDigits_inj (by decide) hlist
  exact ⟨String.toList_inj.mp hid, hattempt⟩

namespace GameWorkflow

/-! ## The attempt book -/

/-- What only `record_activity_started` writes. -/
structure AttemptBook where
  assignments : Std.TreeMap String BadgeEvent
  attemptsSeen : Std.TreeSet String
  reassignments : Nat
  heartbeatTimeouts : Nat
  activityAttempts : Nat

/-- What the Workflow's state says of attempts. -/
def attemptBook (wf : GameWorkflow) : AttemptBook :=
  { assignments := wf.assignments
    attemptsSeen := wf.attemptsSeen
    reassignments := wf.snapshot.reassignments
    heartbeatTimeouts := wf.snapshot.heartbeatTimeouts
    activityAttempts := wf.snapshot.activityAttempts }

section Frame
variable (wf : GameWorkflow) (event : BadgeEvent)

@[simp] theorem attemptBook_join : (wf.join event).attemptBook = wf.attemptBook := by
  unfold join
  split <;> rfl

@[simp] theorem attemptBook_badgeStarted :
    (wf.badgeStarted event).1.attemptBook = (wf.recordActivityStarted event).1.attemptBook :=
  attemptBook_join _ event

@[simp] theorem attemptBook_panicEvent : (wf.panicEvent event).attemptBook = wf.attemptBook := rfl

@[simp] theorem attemptBook_recovered : (wf.recovered event).attemptBook = wf.attemptBook := rfl

variable (nowUnixMs : Nat)

@[simp] theorem attemptBook_applyChaos (command : ChaosCommand) :
    (wf.applyChaos nowUnixMs command).attemptBook = wf.attemptBook := rfl

@[simp] theorem attemptBook_endRound : (wf.endRound nowUnixMs).attemptBook = wf.attemptBook := rfl

@[simp] theorem attemptBook_recordAnswer (question : Question) (answer : BadgeAnswer) :
    (wf.recordAnswer question answer nowUnixMs).1.attemptBook = wf.attemptBook := by
  unfold recordAnswer
  split <;> rfl

end Frame

/-- The holder and the number of a start signal's attempt, under its
question: the registers of `Lib.Versions`. -/
abbrev assignee (events : List BadgeEvent) (questionId : String) : Option BadgeEvent :=
  Versions.latest BadgeEvent.questionId events questionId

/-- The handoffs counted while the signals came in. -/
abbrev countedHandoffs (events : List BadgeEvent) : List (BadgeEvent × BadgeEvent) :=
  Versions.handoffs BadgeEvent.questionId BadgeEvent.attempt BadgeEvent.badgeId events

/-- The book of a round whose start signals were `events`, latest first. -/
structure BookAgrees (events : List BadgeEvent) (book : AttemptBook) : Prop where
  assignments : ∀ questionId, book.assignments[questionId]? = assignee events questionId
  reassignments : book.reassignments = (countedHandoffs events).length
  heartbeatTimeouts : book.heartbeatTimeouts = book.reassignments
  seen : ∀ text, text ∈ book.attemptsSeen ↔ text ∈ events.map attemptKey
  attempts : book.activityAttempts = (attemptPairs events).card

theorem BookAgrees.empty : BookAgrees []
    { assignments := ∅, attemptsSeen := ∅, reassignments := 0, heartbeatTimeouts := 0
      activityAttempts := 0 } := by
  constructor
  · intro questionId
    rfl
  · rfl
  · rfl
  · intro text
    simp
  · rfl

/-- An attempt is new exactly when no earlier signal reported it. -/
theorem card_attemptPairs_cons (event : BadgeEvent) (events : List BadgeEvent) :
    (attemptPairs (event :: events)).card
      = if attemptKey event ∈ events.map attemptKey then (attemptPairs events).card
        else (attemptPairs events).card + 1 := by
  have hmem : attemptKey event ∈ events.map attemptKey ↔
      (event.questionId, event.attempt) ∈ attemptPairs events := by
    simp only [attemptPairs, List.mem_toFinset, List.mem_map, Prod.mk.injEq]
    constructor
    · intro h
      obtain ⟨other, hother, hkey⟩ := h
      exact ⟨other, hother, attemptKey_inj hkey⟩
    · intro h
      obtain ⟨other, hother, hid, hattempt⟩ := h
      exact ⟨other, hother, by rw [attemptKey, attemptKey, hid, hattempt]⟩
  have hcons : attemptPairs (event :: events)
      = insert (event.questionId, event.attempt) (attemptPairs events) := by
    simp [attemptPairs]
  rw [hcons]
  by_cases h : attemptKey event ∈ events.map attemptKey
  · rw [if_pos h, Finset.insert_eq_of_mem (hmem.mp h)]
  · rw [if_neg h, Finset.card_insert_of_notMem fun hc => h (hmem.mpr hc)]

namespace AttemptBook

/-- The entry every start makes. -/
def recordAttempt (book : AttemptBook) (event : BadgeEvent) : AttemptBook :=
  { book with
    assignments := book.assignments.insert event.questionId event
    attemptsSeen := book.attemptsSeen.insert (attemptKey event)
    activityAttempts :=
      if book.attemptsSeen.contains (attemptKey event) then book.activityAttempts
      else book.activityAttempts + 1 }

/-- The entry a handoff makes. -/
def reassign (book : AttemptBook) : AttemptBook :=
  { book with
    reassignments := book.reassignments + 1
    heartbeatTimeouts := book.heartbeatTimeouts + 1 }

/-- The entry of a handoff, when a start signal is one. -/
def handOver (book : AttemptBook) (event : BadgeEvent) : AttemptBook :=
  match book.assignments[event.questionId]?.filter (isReassignment · event) with
  | some _ => book.reassign
  | none => book

end AttemptBook

theorem attemptBook_recordAttempt (wf : GameWorkflow) (event : BadgeEvent) :
    (wf.recordAttempt event).attemptBook = wf.attemptBook.recordAttempt event := by
  unfold recordAttempt AttemptBook.recordAttempt attemptKey attemptBook
  dsimp only
  cases wf.attemptsSeen.contains (event.questionId ++ ":" ++ toString event.attempt) <;> rfl

/-- The handoff a start signal is taken for. -/
theorem handoff_eq (events : List BadgeEvent) (event : BadgeEvent) :
    ((assignee events event.questionId).filter (isReassignment · event)).map (·, event)
      = Versions.handoff BadgeEvent.questionId BadgeEvent.attempt BadgeEvent.badgeId events
          event := by
  have htest : (isReassignment · event) = fun previous : BadgeEvent =>
      decide (previous.badgeId ≠ event.badgeId ∧ previous.attempt < event.attempt) := by
    funext previous
    simp [isReassignment, bne, Bool.beq_eq_decide_eq]
  rw [htest]
  rfl

/-- **What a start signal does to the book.** -/
theorem attemptBook_recordActivityStarted (wf : GameWorkflow) (event : BadgeEvent) :
    (wf.recordActivityStarted event).1.attemptBook
      = (wf.attemptBook.handOver event).recordAttempt event := by
  have hkept : wf.attemptBook.assignments[event.questionId]? = wf.assignments[event.questionId]? :=
    rfl
  unfold recordActivityStarted AttemptBook.handOver
  rw [hkept]
  cases wf.assignments[event.questionId]?.filter (isReassignment · event) with
  | none => exact attemptBook_recordAttempt wf event
  | some previous => exact attemptBook_recordAttempt (wf.reassign previous event) event

/-- Handing over counts what the registers count. -/
theorem BookAgrees.handOver {events : List BadgeEvent} {book : AttemptBook}
    (h : BookAgrees events book) (event : BadgeEvent) :
    (book.handOver event).assignments = book.assignments
      ∧ (book.handOver event).attemptsSeen = book.attemptsSeen
      ∧ (book.handOver event).activityAttempts = book.activityAttempts
      ∧ (book.handOver event).reassignments = (countedHandoffs (event :: events)).length
      ∧ (book.handOver event).heartbeatTimeouts = (book.handOver event).reassignments := by
  have hcount : (countedHandoffs (event :: events)).length = book.reassignments
      + (((assignee events event.questionId).filter (isReassignment · event)).map
          (·, event)).toList.length := by
    rw [handoff_eq, countedHandoffs, Versions.handoffs, List.length_append, Nat.add_comm,
      h.reassignments]
  unfold AttemptBook.handOver
  rw [h.assignments, hcount]
  cases (assignee events event.questionId).filter (isReassignment · event) with
  | none => exact ⟨rfl, rfl, rfl, rfl, h.heartbeatTimeouts⟩
  | some previous => exact ⟨rfl, rfl, rfl, rfl, congrArg (· + 1) h.heartbeatTimeouts⟩

/-- **The step lemma of the book.** -/
theorem BookAgrees.badgeStarted {events : List BadgeEvent} {wf : GameWorkflow}
    (h : BookAgrees events wf.attemptBook) (event : BadgeEvent) :
    BookAgrees (event :: events) (wf.badgeStarted event).1.attemptBook := by
  rw [attemptBook_badgeStarted, attemptBook_recordActivityStarted]
  obtain ⟨hassignments, hseen, hattempts, hreassignments, htimeouts⟩ := h.handOver event
  unfold AttemptBook.recordAttempt
  rw [hassignments, hseen, hattempts]
  constructor
  · intro questionId
    rw [assignee, Versions.latest_cons, Std.TreeMap.getElem?_insert]
    simp only [compare_eq_iff_eq, h.assignments]
  · exact hreassignments
  · exact htimeouts
  · intro text
    rw [Std.TreeSet.mem_insert, List.map_cons, List.mem_cons, h.seen, compare_eq_iff_eq]
    exact or_congr_left eq_comm
  · rw [card_attemptPairs_cons, ← h.attempts]
    simp only [← Std.TreeSet.mem_iff_contains, h.seen]

end GameWorkflow

/-! ## The book of a run -/

namespace Round
variable {r : Round}

theorem attemptBook_scheduleOne (deadlineUnixMs : Nat) (s : State) (question : Question)
    (deck : Deck) :
    (r.scheduleOne deadlineUnixMs s question deck).wf.attemptBook = s.wf.attemptBook := by
  unfold scheduleOne
  dsimp only
  split <;> rfl

theorem attemptBook_iterate (s : State) : (r.iterate s).wf.attemptBook = s.wf.attemptBook := by
  have hscheduled : (r.scheduled s).wf.attemptBook = s.wf.attemptBook := by
    unfold scheduled schedule
    refine scheduleQuestions_keeps (P := fun s' => s'.wf.attemptBook = s.wf.attemptBook) ?_ ?_ rfl
    · intro s' question deck h _
      rw [attemptBook_scheduleOne, h]
    · intro s' deck h _
      exact h
  have hit := iterated_iterate r s
  revert hit
  generalize r.iterate s = s'
  intro hit
  cases hit with
  | deadline _ => rfl
  | exhausted _ _ _ => exact hscheduled
  | sleeping _ _ _ _ => exact hscheduled
  | selecting _ _ _ => exact hscheduled

theorem attemptBook_complete (s : State) (index : Nat) (outstanding : Outstanding)
    (result : Except String BadgeAnswer) :
    (s.complete index outstanding result).wf.attemptBook = s.wf.attemptBook := by
  cases result with
  | error error => rfl
  | ok answer =>
      exact GameWorkflow.attemptBook_recordAnswer s.wf s.clock outstanding.question answer

theorem attemptBook_close (s : State) (exit : Exit) (memoError : Option String) :
    (r.close s exit memoError).wf.attemptBook = s.wf.attemptBook := by
  cases memoError <;> rfl

/-- A round starts with an empty book. -/
theorem attemptBook_start (s : State) : (r.start s).wf.attemptBook =
    { assignments := ∅, attemptsSeen := ∅, reassignments := 0, heartbeatTimeouts := 0
      activityAttempts := 0 } := by
  unfold start GameWorkflow.attemptBook openingSnapshot
  cases r.input.detectedBadgeCount <;> rfl

/-- **Only a start signal writes the book.** -/
theorem attemptBook_step {s s' : State} {e : Event} (he : isStart e = false)
    (hnone : startedEvent (s, e) = none) (hstep : r.step s e = some s') :
    s'.wf.attemptBook = s.wf.attemptBook := by
  cases transition_of_step hstep with
  | badgeStarted _ => cases hnone
  | start _ => cases he
  | iterate _ => exact attemptBook_iterate s
  | completed _ _ => exact attemptBook_complete s _ _ _
  | close _ => exact attemptBook_close s _ _
  | _ => rfl

theorem bookAgrees_step {round : History} {s s' : State} {e : Event} (he : isStart e = false)
    (h : GameWorkflow.BookAgrees (startedEvents round) s.wf.attemptBook)
    (hstep : r.step s e = some s') :
    GameWorkflow.BookAgrees (startedEvents ((s, e) :: round)) s'.wf.attemptBook := by
  cases hev : startedEvent (s, e) with
  | none =>
      rw [attemptBook_step he hev hstep, startedEvents, List.filterMap_cons, hev]
      exact h
  | some event =>
      rw [startedEvents, List.filterMap_cons, hev]
      cases transition_of_step hstep with
      | badgeStarted _ =>
          cases hev
          exact h.badgeStarted event
      | _ => cases hev

/-- **The book of every run agrees with its start signals.** -/
theorem bookAgrees_run {hist : History} {s : State} (hrun : r.system.Run hist s) :
    GameWorkflow.BookAgrees (startedEvents (sinceStart hist)) s.wf.attemptBook := by
  refine sinceStart_invariant
    (I := fun round s => GameWorkflow.BookAgrees (startedEvents round) s.wf.attemptBook)
    hrun (fun clock => .empty) ?_ ?_
  · intro s
    rw [attemptBook_start]
    exact .empty
  · intro round s e s' _ he h hstep
    exact bookAgrees_step he h hstep

/-! ## The roster of a run -/

/-- The badges on the roster are those that took part. -/
def RosterAgrees (badges : List String) (players : Std.TreeMap String PlayerScore) : Prop :=
  ∀ badgeId, badgeId ∈ players ↔ badgeId ∈ badges

theorem RosterAgrees.insert {badges : List String} {players : Std.TreeMap String PlayerScore}
    (h : RosterAgrees badges players) (badgeId : String) (player : PlayerScore) :
    RosterAgrees (badgeId :: badges) (players.insert badgeId player) := by
  intro other
  rw [Std.TreeMap.mem_insert, List.mem_cons, h other, compare_eq_iff_eq]
  exact or_congr_left eq_comm

theorem RosterAgrees.present {badges : List String} {players : Std.TreeMap String PlayerScore}
    (h : RosterAgrees badges players) {badgeId : String} (hmem : badgeId ∈ players) :
    RosterAgrees (badgeId :: badges) players := by
  intro other
  rw [List.mem_cons, h other]
  refine ⟨.inr, ?_⟩
  intro hother
  rcases hother with rfl | hother
  · exact (h other).mp hmem
  · exact hother

theorem rosterAgrees_step {round : History} {s s' : State} {e : Event} (he : isStart e = false)
    (h : RosterAgrees (appearances round) s.wf.snapshot.players)
    (hstep : r.step s e = some s') :
    RosterAgrees (appearances ((s, e) :: round)) s'.wf.snapshot.players := by
  have hmove := booksMove_of_step he hstep
  show RosterAgrees _ s'.wf.books.players
  generalize s'.wf.books = books at hmove
  cases hmove with
  | kept hjoin hpanic hanswer =>
      have hnone : appears (s, e) = none := by
        unfold appears
        split
        · next event heq => exact absurd heq (hjoin event)
        · next event heq =>
            rw [show e = .panicEvent event from heq] at hpanic
            cases hpanic
        · rw [hanswer]
          rfl
      rw [appearances, List.filterMap_cons, hnone]
      exact h
  | joined event =>
      show RosterAgrees (event.badgeId :: appearances round)
        (if s.wf.snapshot.players.contains event.badgeId then _ else _)
      split
      · next hmem => exact h.present (Std.TreeMap.mem_iff_contains.mpr hmem)
      · exact h.insert event.badgeId _
  | panicked event => exact h.insert event.badgeId _
  | @answered index answer wasCorrect hanswer =>
      have hsome : appears (s, .completed index (.ok answer)) = some answer.badgeId := by
        simp [appears, hanswer]
      rw [appearances, List.filterMap_cons, hsome]
      exact h.insert answer.badgeId _

theorem rosterAgrees_run {hist : History} {s : State} (hrun : r.system.Run hist s) :
    RosterAgrees (appearances (sinceStart hist)) s.wf.snapshot.players := by
  refine sinceStart_invariant
    (I := fun round s => RosterAgrees (appearances round) s.wf.snapshot.players) hrun ?_ ?_ ?_
  · intro clock badgeId
    simp [appearances]
  · intro s badgeId
    rw [show (r.start s).wf.snapshot.players = ∅ from
      congrArg GameWorkflow.Books.players (start_books s)]
    simp [appearances]
  · intro round s e s' _ he h hstep
    exact rosterAgrees_step he h hstep

/-! ## Counting attempts -/

/-- Two histories with the same start signals, in any order and number,
and the same badges in their other events. -/
structure SameSignals (round round' : History) : Prop where
  started : ∀ event, event ∈ startedEvents round ↔ event ∈ startedEvents round'
  others : ∀ badgeId,
    badgeId ∈ appearances (round.filter fun t => (startedEvent t).isNone) ↔
      badgeId ∈ appearances (round'.filter fun t => (startedEvent t).isNone)

/-- Who takes part, by start signals and by other events. -/
theorem mem_appearances {round : History} {badgeId : String} :
    badgeId ∈ appearances round ↔
      (∃ event ∈ startedEvents round, event.badgeId = badgeId)
        ∨ badgeId ∈ appearances (round.filter fun t => (startedEvent t).isNone) := by
  induction round with
  | nil => simp [appearances, startedEvents]
  | cons t round ih =>
      cases hev : startedEvent t with
      | none =>
          have hstarted : startedEvents (t :: round) = startedEvents round := by
            rw [startedEvents, List.filterMap_cons, hev]
            rfl
          have hothers : (t :: round).filter (fun t => (startedEvent t).isNone)
              = t :: round.filter fun t => (startedEvent t).isNone := by
            simp [hev]
          rw [hstarted, hothers]
          simp only [appearances, List.filterMap_cons]
          cases appears t with
          | none => exact ih
          | some other =>
              simp only [List.mem_cons]
              rw [show badgeId ∈ List.filterMap appears round ↔ _ from ih]
              exact or_left_comm
      | some event =>
          have happears : appears t = some event.badgeId := by
            obtain ⟨s, e⟩ := t
            cases e <;> first | (cases hev; rfl) | cases hev
          have hstarted : startedEvents (t :: round) = event :: startedEvents round := by
            rw [startedEvents, List.filterMap_cons, hev]
            rfl
          have hothers : (t :: round).filter (fun t => (startedEvent t).isNone)
              = round.filter fun t => (startedEvent t).isNone := by
            simp [hev]
          rw [hstarted, hothers]
          have happearances : appearances (t :: round) = event.badgeId :: appearances round := by
            rw [appearances, List.filterMap_cons, happears]
            rfl
          rw [happearances, List.mem_cons, ih, List.exists_mem_cons_iff, or_assoc,
            eq_comm (a := badgeId)]

/-- **Counting attempts does not depend on order or repetition**: the
counter is the number of distinct attempts reported since the round was
initialised, and two histories with the same signals agree on it and on
who joined. -/
theorem attempts_counted {hist : History} {s : State} (hrun : r.system.Run hist s) :
    s.wf.snapshot.activityAttempts = (attemptPairs (startedEvents (sinceStart hist))).card
      ∧ ∀ (r' : Round) (hist' : History) (s' : State), r'.system.Run hist' s' →
          ((∀ event, event ∈ startedEvents (sinceStart hist) ↔
              event ∈ startedEvents (sinceStart hist')) →
            s'.wf.snapshot.activityAttempts = s.wf.snapshot.activityAttempts)
          ∧ (SameSignals (sinceStart hist) (sinceStart hist') →
            ∀ badgeId, badgeId ∈ s'.wf.snapshot.players ↔ badgeId ∈ s.wf.snapshot.players) := by
  have hattempts : s.wf.snapshot.activityAttempts
      = (attemptPairs (startedEvents (sinceStart hist))).card := (bookAgrees_run hrun).attempts
  refine ⟨hattempts, ?_⟩
  intro r' hist' s' hrun'
  constructor
  · intro hsame
    have hattempts' : s'.wf.snapshot.activityAttempts
        = (attemptPairs (startedEvents (sinceStart hist'))).card := (bookAgrees_run hrun').attempts
    rw [hattempts', hattempts]
    congr 1
    ext pair
    simp only [attemptPairs, List.mem_toFinset, List.mem_map, hsame]
  · intro hsame badgeId
    rw [rosterAgrees_run hrun' badgeId, rosterAgrees_run hrun badgeId]
    calc badgeId ∈ appearances (sinceStart hist')
      _ ↔ (∃ event ∈ startedEvents (sinceStart hist'), event.badgeId = badgeId)
          ∨ badgeId ∈ appearances ((sinceStart hist').filter fun t => (startedEvent t).isNone) :=
        mem_appearances
      _ ↔ (∃ event ∈ startedEvents (sinceStart hist), event.badgeId = badgeId)
          ∨ badgeId ∈ appearances ((sinceStart hist).filter fun t => (startedEvent t).isNone) := by
        rw [hsame.others]
        simp only [hsame.started]
      _ ↔ badgeId ∈ appearances (sinceStart hist) := mem_appearances.symm

/-- The start of an attempt by one of two badges. -/
def demoStart (questionId : String) (attempt : Nat) (second : Bool) : BadgeEvent :=
  { badgeId := if second then "badge-b" else "badge-a"
    callsign := if second then "B" else "A"
    questionId, attempt }

/-- Two attempts, one of them of a question with a `:` in its id,
reported once each, and again in another order with repetitions. -/
theorem attempts_counted_demo :
    ∃ hist s hist' s', busyRound.system.Run hist s ∧ busyRound.system.Run hist' s'
      ∧ s.wf.snapshot.activityAttempts = 2 ∧ s'.wf.snapshot.activityAttempts = 2
      ∧ (startedEvents (sinceStart hist)).length = 2
      ∧ (startedEvents (sinceStart hist')).length = 4 := by
  let first := demoStart "demo:1" 2 false
  let second := demoStart "demo" 12 true
  obtain ⟨hist, s, hrun, htest⟩ := StepSystem.exists_run_of_exec (S := busyRound.system)
    { clock := 0 } [.start, .iterate, .badgeStarted first, .badgeStarted second]
    (fun result => startedEvents (sinceStart result.1) == [second, first])
    ⟨0, rfl⟩ (by decide +kernel)
  obtain ⟨hist', s', hrun', htest'⟩ := StepSystem.exists_run_of_exec (S := busyRound.system)
    { clock := 0 }
    [.start, .iterate, .badgeStarted second, .badgeStarted second, .recovered first,
      .badgeStarted first, .badgeStarted second]
    (fun result => startedEvents (sinceStart result.1) == [second, first, second, second])
    ⟨0, rfl⟩ (by decide +kernel)
  rw [beq_iff_eq] at htest htest'
  obtain ⟨hcount, hothers⟩ := attempts_counted hrun
  have hsame := (hothers busyRound hist' s' hrun').1 (by simp [htest, htest', or_comm])
  have htwo : s.wf.snapshot.activityAttempts = 2 := by
    rw [hcount, htest]
    decide
  exact ⟨hist, s, hist', s', hrun, hrun', htwo, hsame.trans htwo, by rw [htest]; rfl,
    by rw [htest']; rfl⟩

/-- **A start before the first poll is not counted**: the one attempt that
was reported is forgotten when the round is initialised. -/
theorem early_start_not_counted :
    ∃ hist s, quietRound.system.Run hist s ∧ s.wf.snapshot.status = .running
      ∧ (attemptPairs (startedEvents hist)).card = 1
      ∧ s.wf.snapshot.activityAttempts = 0 := by
  obtain ⟨hist, s, hrun, htest⟩ := StepSystem.exists_run_of_exec (S := quietRound.system)
    { clock := 0 }
    [.badgeStarted (demoStart "demo" 1 false), .start, .iterate]
    (fun result => result.2.wf.snapshot.status == .running
      && (attemptPairs (startedEvents result.1)).card == 1
      && result.2.wf.snapshot.activityAttempts == 0)
    ⟨0, rfl⟩ (by decide +kernel)
  simp only [Bool.and_eq_true, beq_iff_eq] at htest
  exact ⟨hist, s, hrun, htest.1.1, htest.1.2, htest.2⟩

end Round

end DurableTrivia.Web

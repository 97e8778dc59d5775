import DurableTrivia.Lib.Ledger
import DurableTrivia.Web.EndRound

/-!
# ScoreLedger — the players' counters against the history of the round

Five functions create or change players, each in its own way. Seen as a
ledger they do two things: a recorded answer or a processed panic posts
an amount to one account, and a join opens an account at zero. So the
roster shows the sums of the postings in the history, and its totals are
the totals of the history (`Lib.Balanced`).

What an answer is worth depends on the accepted updates in the history,
while the code asks the stored expiry time, which a sweep clears. Both
say the same about every time from now on.

The first poll of `run` replaces the snapshot. The history of a round
therefore begins there: what a signal did before it is not kept.
-/

namespace DurableTrivia.Web

open DurableTrivia.Shared DurableTrivia.Lib

/-- Transitions with the states they started in, latest first. -/
abbrev History := List (State × Event)

/-! ## What a history says -/

/-- The event starts the run. -/
def isStart : Event → Bool
  | .start => true
  | _ => false

/-- The transitions since `run` initialised the round; before it did,
all of them. -/
def sinceStart (hist : History) : History := hist.takeWhile fun t => !isStart t.2

/-- The answers a run recorded, the latest first. -/
def recordedAnswers (round : History) : List RecordedAnswer := round.filterMap recordedAnswer

/-- The badge whose panic a transition processes. -/
def panicOf (t : State × Event) : Option String :=
  match t.2 with
  | .panicEvent event => some event.badgeId
  | _ => none

/-- The time at which a transition accepts double points. -/
def doubledAt (t : State × Event) : Option Nat :=
  match t.2 with
  | .applyChaos .doublePoints => some t.1.clock
  | _ => none

/-- How often the badge was right. -/
def correctFor (badgeId : String) (round : History) : Nat :=
  (recordedAnswers round).countP fun answer => answer.badgeId == badgeId && answer.wasCorrect

/-- How often the badge was wrong. -/
def wrongFor (badgeId : String) (round : History) : Nat :=
  (recordedAnswers round).countP fun answer => answer.badgeId == badgeId && !answer.wasCorrect

/-- How often the badge crashed. -/
def panicsFor (badgeId : String) (round : History) : Nat :=
  (round.filterMap panicOf).count badgeId

/-- Double points were accepted less than ten seconds before `nowUnixMs`. -/
def doubled (earlier : History) (nowUnixMs : Nat) : Bool :=
  (earlier.filterMap doubledAt).any fun acceptedUnixMs =>
    nowUnixMs < acceptedUnixMs + chaosDurationMs

/-- The points of an answer at `nowUnixMs`. -/
def worth (earlier : History) (nowUnixMs : Nat) : Int := if doubled earlier nowUnixMs then 2 else 1

/-- What an answer adds to its player's score. -/
def scoreChange (earlier : History) (answer : RecordedAnswer) : Int :=
  if answer.wasCorrect then worth earlier answer.atUnixMs else -worth earlier answer.atUnixMs

/-- What a run did to the badge's score. -/
def scoreFor (badgeId : String) : History → Int
  | [] => 0
  | t :: earlier =>
      ((recordedAnswer t).elim 0 fun answer =>
        if answer.badgeId = badgeId then scoreChange earlier answer else 0)
      + scoreFor badgeId earlier

/-! ## Postings -/

/-- The counters of a player: correct, wrong, panics, score. -/
abbrev Entry := Nat × Nat × Nat × Int

/-- A player's row as a ledger entry. -/
def entry (player : PlayerScore) : Entry :=
  (player.correct, player.wrong, player.panics, player.score)

/-- What an answer books. -/
def answerEntry (wasCorrect : Bool) (points : Int) : Entry :=
  if wasCorrect then (1, 0, 0, points) else (0, 1, 0, -points)

/-- What a transition posts, and to whom. -/
def posting (earlier : History) (t : State × Event) : Option (String × Entry) :=
  match panicOf t with
  | some badgeId => some (badgeId, (0, 0, 1, 0))
  | none => (recordedAnswer t).map fun answer =>
      (answer.badgeId, answerEntry answer.wasCorrect (worth earlier answer.atUnixMs))

/-- What a run books, and for which badge. -/
def postings : History → List (String × Entry)
  | [] => []
  | t :: earlier => (posting earlier t).toList ++ postings earlier

/-- A panic is no answer. -/
theorem recordedAnswer_of_panic {t : State × Event} {badgeId : String}
    (h : panicOf t = some badgeId) : recordedAnswer t = none := by
  obtain ⟨s, e⟩ := t
  cases e <;> first | rfl | cases h

theorem postings_panic {t : State × Event} {earlier : History} (badgeId : String)
    (h : panicOf t = some badgeId) :
    postings (t :: earlier) = (badgeId, (0, 0, 1, 0)) :: postings earlier := by
  simp [postings, posting, h]

theorem postings_answer {t : State × Event} {earlier : History} {answer : RecordedAnswer}
    (hp : panicOf t = none) (ha : recordedAnswer t = some answer) :
    postings (t :: earlier) =
      (answer.badgeId, answerEntry answer.wasCorrect (worth earlier answer.atUnixMs))
        :: postings earlier := by
  simp [postings, posting, hp, ha]

theorem postings_quiet {t : State × Event} {earlier : History} (hp : panicOf t = none)
    (ha : recordedAnswer t = none) : postings (t :: earlier) = postings earlier := by
  simp [postings, posting, hp, ha]

/-- **The account of a badge** is what the history says of it. -/
theorem balance_postings (badgeId : String) (round : History) :
    balance (postings round) badgeId =
      (correctFor badgeId round, wrongFor badgeId round, panicsFor badgeId round,
        scoreFor badgeId round) := by
  induction round with
  | nil => rfl
  | cons t earlier ih =>
      cases hp : panicOf t with
      | some badge =>
          have hnone := recordedAnswer_of_panic hp
          rw [postings_panic _ hp, balance_cons, ih]
          by_cases hb : badge = badgeId
          · simp [hb, correctFor, wrongFor, panicsFor, scoreFor, recordedAnswers, hnone, hp]
            omega
          · simp [hb, correctFor, wrongFor, panicsFor, scoreFor, recordedAnswers, hnone, hp]
      | none =>
          cases ha : recordedAnswer t with
          | none =>
              rw [postings_quiet hp ha, ih]
              simp [correctFor, wrongFor, panicsFor, scoreFor, recordedAnswers, ha, hp]
          | some answer =>
              rw [postings_answer hp ha, balance_cons, ih]
              by_cases hb : answer.badgeId = badgeId <;> cases hc : answer.wasCorrect <;>
                simp [hb, hc, correctFor, wrongFor, panicsFor, scoreFor, recordedAnswers, ha, hp,
                  answerEntry, scoreChange, Nat.add_comm]

/-- The totals over all badges. -/
theorem grandTotal_postings (round : History) :
    (grandTotal (postings round)).1 = (recordedAnswers round).countP (·.wasCorrect)
      ∧ (grandTotal (postings round)).2.1 = (recordedAnswers round).countP (!·.wasCorrect)
      ∧ (grandTotal (postings round)).2.2.1 = (round.filterMap panicOf).length := by
  induction round with
  | nil => exact ⟨rfl, rfl, rfl⟩
  | cons t earlier ih =>
      obtain ⟨hcorrect, hwrong, hpanics⟩ := ih
      cases hp : panicOf t with
      | some badge =>
          have hnone := recordedAnswer_of_panic hp
          rw [postings_panic _ hp, grandTotal_cons]
          simp [recordedAnswers, hnone, hp, hcorrect, hwrong, hpanics, Nat.add_comm]
      | none =>
          cases ha : recordedAnswer t with
          | none =>
              rw [postings_quiet hp ha]
              simp [recordedAnswers, ha, hp, hcorrect, hwrong, hpanics]
          | some answer =>
              rw [postings_answer hp ha, grandTotal_cons]
              cases hc : answer.wasCorrect <;>
                simp [hc, recordedAnswers, ha, hp, hcorrect, hwrong, hpanics, answerEntry,
                  Nat.add_comm]

/-! ## The two invariants -/

theorem sinceStart_cons {s : State} {e : Event} {hist : History} (h : isStart e = false) :
    sinceStart ((s, e) :: hist) = (s, e) :: sinceStart hist := by
  simp [sinceStart, h]

theorem sinceStart_start (s : State) (hist : History) : sinceStart ((s, .start) :: hist) = [] := by
  simp [sinceStart, isStart]

/-- **The rule for the history since the start**: it begins empty, and
empty again where `run` is first polled; the other steps extend it. -/
theorem Round.sinceStart_invariant {r : Round} {I : History → State → Prop} {hist : History}
    {s : State} (hrun : r.system.Run hist s) (h0 : ∀ clock, I [] { clock })
    (hstart : ∀ s, I [] (r.start s))
    (hstep : ∀ round s e s', r.system.Reachable s → isStart e = false → I round s →
      r.step s e = some s' → I ((s, e) :: round) s') : I (sinceStart hist) s := by
  have hboth : r.system.Reachable s ∧ I (sinceStart hist) s := by
    refine hrun.invariant (I := fun hist s => r.system.Reachable s ∧ I (sinceStart hist) s) ?_ ?_
    · intro s₀ hinit
      refine ⟨(StepSystem.Run.nil hinit).reachable, ?_⟩
      rcases hinit with ⟨clock, rfl⟩
      exact h0 clock
    · intro hist s e s' h hs
      refine ⟨h.1.next hs, ?_⟩
      have hs : r.step s e = some s' := hs
      by_cases he : isStart e = true
      · cases e with
        | start =>
            rw [sinceStart_start]
            cases transition_of_step hs with
            | start _ => exact hstart s
        | _ => cases he
      · rw [Bool.not_eq_true] at he
        rw [sinceStart_cons he]
        exact hstep _ s e s' h.1 he h.2 hs
  exact hboth.2

/-- The stored expiry time and the accepted updates agree on every time
that is still to come. -/
structure DoublesAgree (round : History) (s : State) : Prop where
  past : ∀ acceptedUnixMs ∈ round.filterMap doubledAt, acceptedUnixMs ≤ s.clock
  agree : ∀ nowUnixMs, s.clock ≤ nowUnixMs →
    inForce s.wf.snapshot.chaos.doublePointsUntilUnixMs nowUnixMs = doubled round nowUnixMs

/-- The books of the state are those of the history. -/
structure BooksBalance (round : History) (books : GameWorkflow.Books) : Prop where
  balanced : Balanced entry books.players (postings round)
  completed : books.completedQuestions = (recordedAnswers round).length

namespace DoublesAgree
variable {round : History} {s s' : State} {e : Event}

theorem empty (h : s.wf.snapshot.chaos.doublePointsUntilUnixMs = none) : DoublesAgree [] s := by
  refine ⟨fun _ ha => absurd ha List.not_mem_nil, fun _ _ => ?_⟩
  rw [h]
  rfl

/-- An event that neither doubles nor starts keeps the agreement, as
long as it changes no expiry time that is still to come. -/
theorem keep (h : DoublesAgree round s) (hnone : doubledAt (s, e) = none)
    (hclock : s.clock ≤ s'.clock)
    (hsame : ∀ nowUnixMs, s'.clock ≤ nowUnixMs →
      inForce s'.wf.snapshot.chaos.doublePointsUntilUnixMs nowUnixMs
        = inForce s.wf.snapshot.chaos.doublePointsUntilUnixMs nowUnixMs) :
    DoublesAgree ((s, e) :: round) s' := by
  have hdoubles : ((s, e) :: round).filterMap doubledAt = round.filterMap doubledAt := by
    rw [List.filterMap_cons, hnone]
  constructor
  · intro acceptedUnixMs ha
    rw [hdoubles] at ha
    exact (h.past acceptedUnixMs ha).trans hclock
  · intro nowUnixMs hnow
    unfold doubled
    rw [hsame nowUnixMs hnow, hdoubles]
    exact h.agree nowUnixMs (hclock.trans hnow)

/-- Accepting double points: the new expiry outlasts all earlier ones. -/
theorem double (h : DoublesAgree round s) (hclock : s'.clock = s.clock)
    (hstored : s'.wf.snapshot.chaos.doublePointsUntilUnixMs = some (s.clock + chaosDurationMs)) :
    DoublesAgree ((s, .applyChaos .doublePoints) :: round) s' := by
  have hdoubles : ((s, Event.applyChaos .doublePoints) :: round).filterMap doubledAt
      = s.clock :: round.filterMap doubledAt := rfl
  constructor
  · intro acceptedUnixMs ha
    rw [hdoubles] at ha
    rcases List.mem_cons.mp ha with rfl | ha
    · exact Nat.le_of_eq hclock.symm
    · exact (h.past acceptedUnixMs ha).trans (Nat.le_of_eq hclock.symm)
  · intro nowUnixMs _
    unfold doubled
    rw [hstored, hdoubles, List.any_cons, inForce_some]
    by_cases hnow : nowUnixMs < s.clock + chaosDurationMs
    · simp [hnow]
    · have hover : ∀ acceptedUnixMs ∈ round.filterMap doubledAt,
          ¬ nowUnixMs < acceptedUnixMs + chaosDurationMs := by
        intro acceptedUnixMs ha hlt
        have hpast := h.past acceptedUnixMs ha
        omega
      simp only [hnow, decide_false, Bool.false_or]
      exact (List.any_eq_false.mpr fun a ha => by simpa using hover a ha).symm

end DoublesAgree

namespace Round
variable {r : Round}

/-- **The step lemma for the points.** -/
theorem doublesAgree_step {hist : History} {s s' : State} {e : Event}
    (h : DoublesAgree (sinceStart hist) s) (hstep : r.step s e = some s') :
    DoublesAgree (sinceStart ((s, e) :: hist)) s' := by
  have htr := transition_of_step hstep
  cases htr with
  | start _ =>
      rw [sinceStart_start]
      have hcontrol := start_control (r := r) s
      exact .empty (congrArg (·.chaos.doublePointsUntilUnixMs) hcontrol)
  | @applyChaos command _ _ =>
      rw [sinceStart_cons rfl]
      cases command with
      | doublePoints => exact h.double rfl rfl
      | _ => exact h.keep rfl (Nat.le_refl _) fun _ _ => rfl
  | advance _ hle =>
      rw [sinceStart_cons rfl]
      exact h.keep rfl hle fun _ _ => rfl
  | iterate _ =>
      rw [sinceStart_cons rfl]
      obtain ⟨hclock, hcontrol, _, _⟩ := iterate_frame r s
      refine h.keep rfl (Nat.le_of_eq hclock.symm) fun nowUnixMs hnow => ?_
      rw [show (r.iterate s).wf.snapshot.chaos.doublePointsUntilUnixMs
        = keepUnexpired s.wf.snapshot.chaos.doublePointsUntilUnixMs s.clock from
        congrArg (·.chaos.doublePointsUntilUnixMs) hcontrol]
      exact inForce_keepUnexpired (hclock ▸ hnow)
  | badgeStarted _ =>
      rw [sinceStart_cons rfl]
      refine h.keep rfl (Nat.le_refl _) fun nowUnixMs _ => ?_
      rw [show (s.wf.badgeStarted _).1.snapshot.chaos = s.wf.snapshot.chaos from
        congrArg (·.chaos) (GameWorkflow.control_badgeStarted s.wf _)]
  | completed _ _ =>
      rw [sinceStart_cons rfl]
      refine h.keep rfl (Nat.le_of_eq (complete_clock s _ _ _).symm) fun nowUnixMs _ => ?_
      rw [show (s.complete _ _ _).wf.snapshot.chaos = s.wf.snapshot.chaos from
        congrArg (·.chaos) (complete_control s _ _ _)]
  | close _ =>
      rw [sinceStart_cons rfl]
      refine h.keep rfl (Nat.le_refl _) fun nowUnixMs _ => ?_
      rw [show (r.close s _ _).wf.snapshot.chaos = s.wf.snapshot.chaos from
        congrArg (·.chaos) (close_control s _ _)]
  | _ =>
      rw [sinceStart_cons rfl]
      exact h.keep rfl (Nat.le_refl _) fun _ _ => rfl

end Round

/-! ## What each event books -/

theorem entry_tally (wasCorrect : Bool) (points : Int) (player : PlayerScore) :
    entry (GameWorkflow.tally wasCorrect points player)
      = entry player + answerEntry wasCorrect points := by
  cases wasCorrect <;> simp [GameWorkflow.tally, entry, answerEntry, Int.sub_eq_add_neg]

/-- Changing an entry of the roster posts the change. -/
theorem balanced_upsertPlayer {players : Std.TreeMap String PlayerScore}
    {posted : List (String × Entry)} {badgeId callsign : String}
    {change : PlayerScore → PlayerScore} {amount : Entry} (h : Balanced entry players posted)
    (hchange : ∀ player, entry (change player) = entry player + amount) :
    Balanced entry (upsertPlayer players badgeId callsign change)
      ((badgeId, amount) :: posted) := by
  refine h.post ?_
  rw [hchange]
  cases players[badgeId]? <;> rfl

namespace BooksBalance
variable {round : History} {books books' : GameWorkflow.Books} {t : State × Event}

theorem quiet (h : BooksBalance round books) (hp : panicOf t = none) (ha : recordedAnswer t = none)
    (hbooks : books' = books) : BooksBalance (t :: round) books' := by
  rw [hbooks]
  refine ⟨?_, ?_⟩
  · rw [postings_quiet hp ha]
    exact h.balanced
  · rw [h.completed]
    simp [recordedAnswers, ha]

end BooksBalance

namespace Round
variable {r : Round}

/-- **What an event does to the books**, the first poll of `run` aside. -/
inductive BooksMove (s : State) : Event → GameWorkflow.Books → Prop
  | kept {e : Event} (hjoin : ∀ event, e ≠ .badgeStarted event) (hpanic : panicOf (s, e) = none)
      (hanswer : recordedAnswer (s, e) = none) : BooksMove s e s.wf.books
  | joined (event : BadgeEvent) :
      BooksMove s (.badgeStarted event)
        { s.wf.books with
          players := if s.wf.snapshot.players.contains event.badgeId then s.wf.snapshot.players
            else s.wf.snapshot.players.insert event.badgeId
              { badgeId := event.badgeId, callsign := event.callsign } }
  | panicked (event : BadgeEvent) :
      BooksMove s (.panicEvent event)
        { s.wf.books with
          players := upsertPlayer s.wf.snapshot.players event.badgeId event.callsign fun player =>
            { player with panics := player.panics + 1 } }
  | answered {index : Nat} {answer : BadgeAnswer} {wasCorrect : Bool}
      (hanswer : recordedAnswer (s, .completed index (.ok answer)) = some
        { badgeId := answer.badgeId, callsign := answer.callsign, wasCorrect
          atUnixMs := s.clock }) :
      BooksMove s (.completed index (.ok answer))
        { players := upsertPlayer s.wf.snapshot.players answer.badgeId answer.callsign
            (GameWorkflow.tally wasCorrect (activePoints s.wf.snapshot s.clock))
          completedQuestions := s.wf.snapshot.completedQuestions + 1 }

theorem booksMove_complete {s : State} {index : Nat} {outstanding : Outstanding}
    {result : Except String BadgeAnswer} (hget : s.pending[index]? = some outstanding) :
    BooksMove s (.completed index result) (s.complete index outstanding result).wf.books := by
  cases result with
  | error error => exact .kept (fun _ h => by cases h) rfl rfl
  | ok answer =>
      have hbooks : (s.complete index outstanding (.ok answer)).wf.books
          = (s.wf.recordAnswer outstanding.question answer s.clock).1.books := rfl
      rw [hbooks]
      cases hwell : GameWorkflow.wellFormed outstanding.question answer with
      | false =>
          rw [GameWorkflow.books_recordAnswer_malformed s.wf s.clock _ _ hwell]
          refine .kept (fun _ h => by cases h) rfl ?_
          simp [recordedAnswer, hget, hwell]
      | true =>
          rw [GameWorkflow.books_recordAnswer s.wf s.clock _ _ hwell]
          refine .answered ?_
          simp [recordedAnswer, hget, hwell]

/-- **Inversion for the books.** -/
theorem booksMove_of_step {s s' : State} {e : Event} (he : isStart e = false)
    (hstep : r.step s e = some s') : BooksMove s e s'.wf.books := by
  have hkept : ∀ {books : GameWorkflow.Books}, books = s.wf.books →
      (∀ event, e ≠ .badgeStarted event) → panicOf (s, e) = none → recordedAnswer (s, e) = none →
      BooksMove s e books := by
    intro books hbooks hjoin hpanic hanswer
    subst hbooks
    exact .kept hjoin hpanic hanswer
  cases transition_of_step hstep with
  | start _ => cases he
  | @badgeStarted event _ =>
      rw [GameWorkflow.books_badgeStarted]
      exact .joined event
  | @panicEvent event _ => exact .panicked event
  | completed _ hget => exact booksMove_complete hget
  | iterate _ => exact hkept (iterate_frame r s).2.2.1 (fun _ h => by cases h) rfl rfl
  | close _ => exact hkept (close_books s _ _) (fun _ h => by cases h) rfl rfl
  | _ => exact hkept rfl (fun _ h => by cases h) rfl rfl

/-- **What an event books, the history says of it.** -/
theorem booksBalance_move {round : History} {s : State} {e : Event} {books : GameWorkflow.Books}
    (h : BooksBalance round s.wf.books) (hd : DoublesAgree round s) (hmove : BooksMove s e books) :
    BooksBalance ((s, e) :: round) books := by
  cases hmove with
  | kept _ hpanic hanswer => exact h.quiet hpanic hanswer rfl
  | joined event =>
      have hquiet := h.quiet (t := (s, .badgeStarted event)) rfl rfl rfl
      refine ⟨?_, hquiet.completed⟩
      show Balanced entry (if s.wf.snapshot.players.contains event.badgeId then _ else _) _
      split
      · exact hquiet.balanced
      · next hnew =>
          have habsent : event.badgeId ∉ s.wf.snapshot.players := fun hc =>
            hnew (Std.TreeMap.mem_iff_contains.mp hc)
          exact hquiet.balanced.openAccount (Std.TreeMap.getElem?_eq_none habsent) rfl
  | panicked event =>
      constructor
      · rw [postings_panic event.badgeId rfl]
        show Balanced entry (upsertPlayer s.wf.books.players event.badgeId event.callsign
          fun player => { player with panics := player.panics + 1 }) _
        exact balanced_upsertPlayer h.balanced fun player => by simp [entry]
      · rw [recordedAnswers, List.filterMap_cons]
        exact h.completed
  | answered hanswer =>
      have hworth : activePoints s.wf.snapshot s.clock = worth round s.clock := by
        unfold activePoints worth
        rw [hd.agree s.clock (Nat.le_refl _)]
      constructor
      · rw [postings_answer rfl hanswer, hworth]
        exact balanced_upsertPlayer h.balanced fun player => entry_tally _ _ player
      · rw [recordedAnswers, List.filterMap_cons, hanswer, List.length_cons]
        exact congrArg (· + 1) h.completed

/-- **The step lemma for the books.** -/
theorem booksBalance_step {hist : History} {s s' : State} {e : Event}
    (h : BooksBalance (sinceStart hist) s.wf.books) (hd : DoublesAgree (sinceStart hist) s)
    (hstep : r.step s e = some s') : BooksBalance (sinceStart ((s, e) :: hist)) s'.wf.books := by
  cases he : isStart e with
  | true =>
      cases transition_of_step hstep with
      | start _ =>
          rw [sinceStart_start, start_books]
          exact ⟨.empty, rfl⟩
      | _ => cases he
  | false =>
      rw [sinceStart_cons he]
      exact booksBalance_move h hd (booksMove_of_step he hstep)

/-! ## Every run -/

theorem ledger_run {hist : History} {s : State} (h : r.system.Run hist s) :
    BooksBalance (sinceStart hist) s.wf.books ∧ DoublesAgree (sinceStart hist) s := by
  refine h.invariant
    (I := fun hist s => BooksBalance (sinceStart hist) s.wf.books
      ∧ DoublesAgree (sinceStart hist) s) ?_ ?_
  · intro s₀ hinit
    rcases hinit with ⟨clock, rfl⟩
    exact ⟨⟨.empty, rfl⟩, .empty rfl⟩
  · intro hist s e s' hs hstep
    exact ⟨booksBalance_step hs.1 hs.2 hstep, doublesAgree_step hs.2 hstep⟩

/-! ## The score ledger -/

/-- A badge that crashes on the demo's first question. -/
def demoPanic : BadgeEvent :=
  { badgeId := "badge-a", callsign := "A", questionId := "demo-go", attempt := 1 }

/-- A player's counters; a badge that is not on the roster has none. -/
def countersOf (snapshot : GameSnapshot) (badgeId : String) : Entry :=
  (snapshot.players[badgeId]?.map entry).getD 0

/-- The snapshot shows what the history of the round says. -/
structure LedgerHolds (round : History) (snapshot : GameSnapshot) : Prop where
  counters : ∀ badgeId, countersOf snapshot badgeId =
    (correctFor badgeId round, wrongFor badgeId round, panicsFor badgeId round,
      scoreFor badgeId round)
  completed : snapshot.completedQuestions
    = valueSum (fun player => player.correct + player.wrong) snapshot.players
  memoCorrect : (RoundMemo.ofSnapshot snapshot).correctAnswers
    = (recordedAnswers round).countP (·.wasCorrect)
  memoWrong : (RoundMemo.ofSnapshot snapshot).wrongAnswers
    = (recordedAnswers round).countP (!·.wasCorrect)
  memoCrashes : (RoundMemo.ofSnapshot snapshot).crashes = (round.filterMap panicOf).length
  memoBadges : (RoundMemo.ofSnapshot snapshot).badgeCount = snapshot.players.size

theorem ledgerHolds_of_balance {round : History} {wf : GameWorkflow}
    (h : BooksBalance round wf.books) : LedgerHolds round wf.snapshot := by
  have htotal : valueSum entry wf.snapshot.players = grandTotal (postings round) :=
    h.balanced.total
  obtain ⟨htc, htw, htp⟩ := grandTotal_postings round
  rw [← htotal] at htc htw htp
  -- a component of the total is the total of the component
  have hcorrect := map_valueSum (AddMonoidHom.fst ℕ (ℕ × ℕ × ℤ)) entry wf.snapshot.players
  have hwrong := map_valueSum ((AddMonoidHom.fst ℕ (ℕ × ℤ)).comp
    (AddMonoidHom.snd ℕ (ℕ × ℕ × ℤ))) entry wf.snapshot.players
  have hpanics := map_valueSum ((AddMonoidHom.fst ℕ ℤ).comp ((AddMonoidHom.snd ℕ (ℕ × ℤ)).comp
    (AddMonoidHom.snd ℕ (ℕ × ℕ × ℤ)))) entry wf.snapshot.players
  constructor
  · intro badgeId
    exact (h.balanced.account badgeId).trans (balance_postings badgeId round)
  · have hboth := map_valueSum (AddMonoidHom.fst ℕ (ℕ × ℕ × ℤ) + (AddMonoidHom.fst ℕ (ℕ × ℤ)).comp
      (AddMonoidHom.snd ℕ (ℕ × ℕ × ℤ))) entry wf.snapshot.players
    have hcount : (recordedAnswers round).length = (recordedAnswers round).countP (·.wasCorrect)
        + (recordedAnswers round).countP (!·.wasCorrect) := by
      simpa using List.length_eq_countP_add_countP (l := recordedAnswers round) (·.wasCorrect)
    rw [show wf.snapshot.completedQuestions = _ from h.completed, hcount, ← htc, ← htw]
    exact hboth
  · exact (sum_playerValues _ _).trans (hcorrect.symm.trans htc)
  · exact (sum_playerValues _ _).trans (hwrong.symm.trans htw)
  · exact (sum_playerValues _ _).trans (hpanics.symm.trans htp)
  · rfl

/-- **The score ledger**: in every run the counters of every badge, the
completed questions and the closing memo are those of the history since
the round was initialised, and a malformed answer changes none of them. -/
theorem score_ledger {hist : History} {s : State} (hrun : r.system.Run hist s) :
    LedgerHolds (sinceStart hist) s.wf.snapshot
      ∧ ∀ index answer outstanding s', s.pending[index]? = some outstanding →
          r.step s (.completed index (.ok answer)) = some s' →
          (answer.questionId ≠ outstanding.question.id ∨ 4 ≤ answer.selectedIndex.toNat) →
          s'.wf.snapshot.players = s.wf.snapshot.players
            ∧ s'.wf.snapshot.completedQuestions = s.wf.snapshot.completedQuestions := by
  refine ⟨ledgerHolds_of_balance (ledger_run hrun).1, ?_⟩
  intro index answer outstanding s' hget hstep hmalformed
  have hwell : GameWorkflow.wellFormed outstanding.question answer = false := by
    unfold GameWorkflow.wellFormed
    rcases hmalformed with hid | hindex
    · simp [hid]
    · simp [Nat.not_lt.mpr hindex]
  cases transition_of_step hstep with
  | @completed _ _ outstanding' _ _ hget' =>
      rw [hget] at hget'
      cases hget'
      have hbooks := GameWorkflow.books_recordAnswer_malformed s.wf s.clock _ _ hwell
      exact ⟨congrArg GameWorkflow.Books.players hbooks,
        congrArg GameWorkflow.Books.completedQuestions hbooks⟩

/-- A right answer at double points, and a panic. -/
theorem score_ledger_busy :
    ∃ hist s, busyRound.system.Run hist s
      ∧ countersOf s.wf.snapshot "badge-a" =
          (correctFor "badge-a" (sinceStart hist), wrongFor "badge-a" (sinceStart hist),
            panicsFor "badge-a" (sinceStart hist), scoreFor "badge-a" (sinceStart hist))
      ∧ countersOf s.wf.snapshot "badge-a" = (1, 0, 1, 2) := by
  obtain ⟨hist, s, hrun, htest⟩ := StepSystem.exists_run_of_exec (S := busyRound.system)
    { clock := 0 }
    [.start, .iterate, .applyChaos .doublePoints, .panicEvent demoPanic, .advance 900,
      .completed 0 (.ok demoAnswer), .iterate]
    (fun result => countersOf result.2.wf.snapshot "badge-a" == (1, 0, 1, 2))
    ⟨0, rfl⟩ (by decide +kernel)
  exact ⟨hist, s, hrun, (score_ledger hrun).1.counters "badge-a", by simpa using htest⟩

/-- **A panic before the first poll is not kept**: both signals are
processed, the second one counts. -/
theorem early_panic_not_counted :
    ∃ hist s, quietRound.system.Run hist s ∧ s.wf.snapshot.status = .running
      ∧ (hist.filterMap panicOf).count "badge-a" = 2
      ∧ (s.wf.snapshot.players["badge-a"]?).map (·.panics) = some 1 := by
  obtain ⟨hist, s, hrun, htest⟩ := StepSystem.exists_run_of_exec (S := quietRound.system)
    { clock := 0 }
    [.panicEvent demoPanic, .start, .iterate, .panicEvent demoPanic]
    (fun result => result.2.wf.snapshot.status == .running
      && (result.1.filterMap panicOf).count "badge-a" == 2
      && (result.2.wf.snapshot.players["badge-a"]?).map (·.panics) == some 1)
    ⟨0, rfl⟩ (by decide +kernel)
  simp only [Bool.and_eq_true, beq_iff_eq] at htest
  exact ⟨hist, s, hrun, htest.1.1, htest.1.2, htest.2⟩

end Round

end DurableTrivia.Web

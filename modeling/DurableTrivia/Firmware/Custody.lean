import DurableTrivia.Firmware.Questions

/-!
# Custody — who has the last word on the screen

An execution that showed its question owns the screen until a later
request of its own gives it up, someone else's does, or a later question
is received. For each question this is read off the channel and the
screen: the last request of its execution still in the channel, and, when
there is none, what is on the screen.
-/

namespace DurableTrivia.Firmware

open DurableTrivia.Shared DurableTrivia.Lib

/-- The choice is an answer. -/
def Choice.isAnswer : Choice → Bool
  | .answer _ => true
  | .panic => false

/-- An execution's claim on the screen. -/
inductive Claim where
  | none
  | undecided
  /-- it took an answer and will give the screen up -/
  | decided
  | given

/-- What a stage of the Activity says of the answer. -/
def Activity.claim : Activity → Claim
  | .free | .checking _ | .refusing _ | .showing _ | .ended _ => .none
  | .preparing _ | .waiting _ _ | .joining _ (.error _) | .joining _ (.ok .panic) => .undecided
  | .joining _ (.ok (.answer _)) => .decided
  | .feedback _ _ | .blackout _ | .recovering _ => .given

theorem Activity.claim_eq_none {activity : Activity} :
    activity.claim = .none ↔ activity.holds = none := by
  cases activity with
  | joining task choice =>
      cases choice with
      | error error => simp [claim, holds]
      | ok choice => cases choice <;> simp [claim, holds]
  | _ => simp [claim, holds]

namespace Badge

/-! ## What decides -/

/-- The execution will give the screen up: a poll that passes every check
finds an answer in the queue, or behind a crash gesture `abandon`
succeeds. -/
def decides (t : Badge × Event) : Bool :=
  match t.1.activity, t.2 with
  | .waiting task localDeadline, .poll o =>
      match o.givesUp task localDeadline, t.1.ui.shared.choices with
      | none, gesture :: _ => gesture.choice.isAnswer
      | _, _ => false
  | .joining task (.ok .panic), .joined _ saves =>
      (t.1.session.abandon task.gameId task.question.id saves).isSome
  | _, _ => false

/-- A request of anyone else takes question `number` off the screen. -/
def overrules (number : Nat) (t : Badge × Event) : Bool :=
  match t.2, t.1.inbox, t.1.ui.screen with
  | .receive _, envelope :: _, .question shown _ =>
      shown == number && envelope.sender != .activity number && envelope.request.yields
  | _, _, _ => false

/-- The execution that showed question `number` decided. -/
def Decided (hist : List (Badge × Event)) (number : Nat) : Prop :=
  ∃ t ∈ hist, t.1.asked = number ∧ decides t = true

/-- Some event of the run took the question off the screen over the
Activity's head. -/
def Overruled (hist : List (Badge × Event)) (number : Nat) : Prop :=
  ∃ t ∈ hist, overrules number t = true

variable {hist : List (Badge × Event)} {b b' : Badge} {e : Event} {number : Nat}

theorem decided_cons : Decided ((b, e) :: hist) number ↔
    (b.asked = number ∧ decides (b, e) = true) ∨ Decided hist number := by
  simp only [Decided, List.exists_mem_cons_iff]

theorem overruled_cons : Overruled ((b, e) :: hist) number ↔
    overrules number (b, e) = true ∨ Overruled hist number := by
  simp only [Overruled, List.exists_mem_cons_iff]

theorem decides_eq_false (hpoll : ∀ o, e ≠ .poll o)
    (hjoined : ∀ points saves, e ≠ .joined points saves) : decides (b, e) = false := by
  unfold decides
  split
  · next o _ heq => exact absurd heq (hpoll o)
  · next points saves _ heq => exact absurd heq (hjoined points saves)
  · rfl

theorem overrules_eq_false (h : ∀ pins, e ≠ .receive pins) : overrules number (b, e) = false := by
  unfold overrules
  split
  · next pins _ _ _ _ heq _ _ => exact absurd heq (h pins)
  · rfl

/-- What was overruled was on the screen, and gave way. -/
theorem of_overrules {pins : Buttons} {envelope : Envelope} {rest : List Envelope}
    (hinbox : b.inbox = envelope :: rest) (h : overrules number (b, .receive pins) = true) :
    ∃ task, b.ui.screen = .question number task ∧ envelope.request.yields = true := by
  cases hs : b.ui.screen with
  | idle => simp [overrules, hinbox, hs] at h
  | question shown task =>
      simp only [overrules, hinbox, hs, Bool.and_eq_true, beq_iff_eq] at h
      exact ⟨task, by rw [h.1.1], h.2⟩

/-- Only a received request overrules. -/
theorem overruled_quiet (h : ∀ pins, e ≠ .receive pins) :
    Overruled ((b, e) :: hist) number ↔ Overruled hist number := by
  rw [overruled_cons, overrules_eq_false h]
  simp

theorem decided_quiet (h : decides (b, e) = false) :
    Decided ((b, e) :: hist) number ↔ Decided hist number := by
  rw [decided_cons, h]
  simp

/-- An execution only decides for its own question. -/
theorem decided_earlier (h : number < b.asked) :
    Decided ((b, e) :: hist) number ↔ Decided hist number := by
  rw [decided_cons]
  refine or_iff_right fun hc => ?_
  have hsame := hc.1
  omega

/-! ## The last word -/

/-- The last request of the execution of question `number` that the UI
thread has not received. -/
def lastOwn (b : Badge) (number : Nat) : Option UiRequest :=
  (b.inbox.filter fun envelope => envelope.sender == .activity number).getLast?.map Envelope.request

theorem lastOwn_eq_none : b.lastOwn number = none ↔
    ∀ envelope ∈ b.inbox, envelope.sender ≠ .activity number := by
  simp [lastOwn]

theorem lastOwn_send (request : UiRequest) :
    (b.send (.activity number) request).lastOwn number = some request := by
  simp [lastOwn, send]

theorem lastOwn_others {sender : Sender} (request : UiRequest) (h : sender ≠ .activity number) :
    (b.send sender request).lastOwn number = b.lastOwn number := by
  simp [lastOwn, send, h]

/-- Receiving takes the last word out of the channel, or leaves it. -/
theorem lastOwn_receive {envelope : Envelope} {rest : List Envelope} {ui : UiThread}
    (hinbox : b.inbox = envelope :: rest) (number : Nat) :
    (envelope.sender = .activity number ∧ b.lastOwn number = some envelope.request
        ∧ ({ b with ui, inbox := rest } : Badge).lastOwn number = none)
      ∨ ({ b with ui, inbox := rest } : Badge).lastOwn number = b.lastOwn number := by
  simp only [lastOwn, hinbox, List.filter_cons]
  by_cases hsender : envelope.sender = .activity number
  · rw [if_pos (by simp [hsender])]
    cases hrest : rest.filter fun envelope => envelope.sender == .activity number with
    | nil => exact .inl ⟨hsender, rfl, rfl⟩
    | cons head tail => exact .inr (by rw [List.getLast?_cons_cons])
  · rw [if_neg (by simp [hsender])]
    exact .inr rfl

/-- Question `number` is on the screen. -/
def Shows (b : Badge) (number : Nat) : Prop := ∃ task, b.ui.screen = .question number task

/-- The last word is the question; once spoken it holds, until someone
overruled it or a later question was received. -/
def Holding (hist : List (Badge × Event)) (b : Badge) (number : Nat) : Prop :=
  match b.lastOwn number with
  | some request => request.isQuestion = true
  | none => b.Shows number ∨ Overruled hist number ∨ number < b.received

/-- The last word gives the screen up, or has done so. -/
def Given (b : Badge) (number : Nat) : Prop :=
  match b.lastOwn number with
  | some request => request.yields = true
  | none => ¬ b.Shows number

/-- The execution of question `number` returned. -/
def Over (hist : List (Badge × Event)) (b : Badge) (number : Nat) : Prop :=
  (Decided hist number ∧ b.Given number) ∨ (¬ Decided hist number ∧ Holding hist b number)

/-- What is known about the last question in each stage of its Activity. -/
def Custody (hist : List (Badge × Event)) (b : Badge) : Prop :=
  match b.activity.claim with
  | .none => 0 < b.asked → Over hist b b.asked
  | .undecided => ¬ Decided hist b.asked ∧ Holding hist b b.asked
  | .decided => Decided hist b.asked ∧ Holding hist b b.asked
  | .given => Decided hist b.asked ∧ b.Given b.asked

/-- Who has the screen, in every reachable state. -/
structure ScreenInvariant (hist : List (Badge × Event)) (b : Badge) : Prop where
  custody : Custody hist b
  earlier : ∀ number, 0 < number → number < b.asked → Over hist b number
  overruled : ∀ number, Overruled hist number → ¬ b.Shows number ∧ number ≤ b.received
  past : ∀ number, Decided hist number → number ≤ b.asked

/-! ## What keeps them -/

/-- Nothing about question `number` changes. -/
structure Alike (number : Nat) (b b' : Badge) : Prop where
  own : b'.lastOwn number = b.lastOwn number
  shows : b'.Shows number ↔ b.Shows number
  received : b'.received = b.received

variable {hist' : List (Badge × Event)}

theorem Holding.keep (h : Holding hist b number) (hsame : Alike number b b')
    (hoverruled : Overruled hist number → Overruled hist' number) : Holding hist' b' number := by
  unfold Holding at h ⊢
  rw [hsame.own, hsame.shows, hsame.received]
  split at h
  · exact h
  · exact h.imp_right (.imp_left hoverruled)

theorem Given.keep (h : b.Given number) (hsame : Alike number b b') : b'.Given number := by
  unfold Given at h ⊢
  rw [hsame.own, hsame.shows]
  exact h

theorem Over.imp (h : Over hist b number) (hdecided : Decided hist' number ↔ Decided hist number)
    (hholding : Holding hist b number → Holding hist' b' number)
    (hgiven : b.Given number → b'.Given number) : Over hist' b' number := by
  unfold Over at h ⊢
  rw [hdecided]
  exact h.imp (.imp_right hgiven) (.imp_right hholding)

/-- The claim is the same, and what it says still holds. -/
theorem Custody.imp (h : Custody hist b) (hclaim : b'.activity.claim = b.activity.claim)
    (hasked : b'.asked = b.asked) (hdecided : Decided hist' b.asked ↔ Decided hist b.asked)
    (hholding : Holding hist b b.asked → Holding hist' b' b.asked)
    (hgiven : b.Given b.asked → b'.Given b.asked) : Custody hist' b' := by
  unfold Custody at h ⊢
  rw [hclaim, hasked]
  cases hb : b.activity.claim with
  | none =>
      rw [hb] at h
      exact fun hpos => (h hpos).imp hdecided hholding hgiven
  | undecided | decided =>
      rw [hb] at h
      simp only [hdecided]
      exact h.imp_right hholding
  | given =>
      rw [hb] at h
      simp only [hdecided]
      exact h.imp_right hgiven

theorem custody_none (h : b.activity.claim = .none) :
    Custody hist b ↔ (0 < b.asked → Over hist b b.asked) := by
  unfold Custody
  rw [h]

theorem custody_undecided (h : b.activity.claim = .undecided) :
    Custody hist b ↔ ¬ Decided hist b.asked ∧ Holding hist b b.asked := by
  unfold Custody
  rw [h]

theorem custody_decided (h : b.activity.claim = .decided) :
    Custody hist b ↔ Decided hist b.asked ∧ Holding hist b b.asked := by
  unfold Custody
  rw [h]

theorem custody_given (h : b.activity.claim = .given) :
    Custody hist b ↔ Decided hist b.asked ∧ b.Given b.asked := by
  unfold Custody
  rw [h]

/-- A request of the Activity is its last word. -/
theorem given_send {request : UiRequest} (h : request.yields = true) :
    (b.send (.activity number) request).Given number := by
  unfold Given
  rw [lastOwn_send]
  exact h

theorem received_send {sender : Sender} {request : UiRequest} (h : request.isQuestion = false) :
    (b.send sender request).received = b.received := by
  have hnone := UiRequest.number_eq_none.mpr h
  simp [received, inFlight, send, hnone]

/-! ## One request is received -/

/-- What receiving `envelope` does to the words in the channel and to the
screen. -/
structure Delivery (b : Badge) (envelope : Envelope) (b' : Badge) : Prop where
  head : envelope ∈ b.inbox
  screen : b'.ui.screen = envelope.request.screenAfter b.ui.screen
  word : ∀ number, (envelope.sender = .activity number
      ∧ b.lastOwn number = some envelope.request ∧ b'.lastOwn number = none)
    ∨ b'.lastOwn number = b.lastOwn number
  received : b.received ≤ b'.received
  /-- a question is its own execution's word, and later than all received -/
  question : ∀ number task, envelope.request = .question number task →
    envelope.sender = .activity number ∧ b.received < number ∧ number ≤ b'.received
  shown : ∀ number, b.Shows number → number = b.received

theorem delivery_of_receive {seen : Nat} (hnumbered : b.Numbered seen) {envelope : Envelope}
    {rest : List Envelope} (hinbox : b.inbox = envelope :: rest) (pins : Buttons) (now : Nat) :
    Delivery b envelope { b with ui := b.ui.apply envelope.request pins now, inbox := rest } where
  head := hinbox ▸ List.mem_cons_self
  screen := UiThread.apply_screen
  word := lastOwn_receive hinbox
  received := by
    have hlength : (rest.filterMap fun envelope => envelope.request.number).length
        ≤ b.inFlight.length := by
      rw [inFlight, hinbox]
      exact ((List.sublist_cons_self envelope rest).filterMap _).length_le
    unfold received
    simp only [inFlight] at hlength ⊢
    omega
  question := by
    intro number task hrequest
    obtain ⟨hnumber, hbound, htail⟩ := hnumbered.head hinbox hrequest
    have hlater :
        ({ b with ui := b.ui.apply envelope.request pins now, inbox := rest } : Badge).received
        = seen + 1 := by
      rw [Badge.received, inFlight, htail, List.length_range']
      dsimp only
      omega
    have hsender := hnumbered.senders envelope (hinbox ▸ List.mem_cons_self) number task hrequest
    rw [hnumbered.received_eq, hlater]
    exact ⟨hsender, by omega, by omega⟩
  shown := by
    intro number h
    rcases h with ⟨task, hs⟩
    rw [hnumbered.received_eq]
    exact hnumbered.screen number task hs

namespace Delivery

variable {envelope : Envelope} {rest : List Envelope} {pins : Buttons}

/-- A question comes onto the screen by its own request only. -/
theorem shows (h : Delivery b envelope b') (hs : b'.Shows number) :
    (∃ task, envelope.request = .question number task) ∨ b.Shows number := by
  obtain ⟨task, hs⟩ := hs
  rw [h.screen] at hs
  exact UiRequest.screenAfter_eq_question hs

theorem yielded (h : Delivery b envelope b') (hyields : envelope.request.yields = true) :
    ¬ b'.Shows number := by
  intro hshows
  rcases hshows with ⟨task, hs⟩
  rw [h.screen, UiRequest.screenAfter_yields _ hyields] at hs
  cases hs

/-- A question that is on the screen stays, gives way to someone else, or
is followed by a later one. -/
theorem shows_next (h : Delivery b envelope b') (hinbox : b.inbox = envelope :: rest)
    (hown : b.lastOwn number = none) (hs : b.Shows number) :
    b'.Shows number ∨ overrules number (b, .receive pins) = true ∨ number < b'.received := by
  rcases UiRequest.cases_screen envelope.request with ⟨k, task, hrequest⟩ | hyields | hother
  · have hnumber := h.shown number hs
    have hk := h.question k task hrequest
    exact .inr (.inr (by omega))
  · obtain ⟨task, hs⟩ := hs
    have hsender := lastOwn_eq_none.mp hown envelope h.head
    refine .inr (.inl ?_)
    simp [Badge.overrules, hinbox, hs, hsender, hyields]
  · obtain ⟨task, hs⟩ := hs
    exact .inl ⟨task, by rw [h.screen, hother, hs]⟩

theorem holding (h : Delivery b envelope b') (hinbox : b.inbox = envelope :: rest)
    (hhold : Holding hist b number) : Holding ((b, .receive pins) :: hist) b' number := by
  unfold Holding at hhold ⊢
  rcases h.word number with ⟨hsender, hlast, hnone⟩ | hsame
  · -- the question itself arrives
    rw [hlast] at hhold
    rw [hnone]
    obtain ⟨shown, task, hrequest⟩ := UiRequest.isQuestion_iff.mp hhold
    have hnumber := (h.question shown task hrequest).1
    rw [hsender] at hnumber
    cases hnumber
    exact .inl ⟨task, by rw [h.screen, hrequest]; rfl⟩
  · rw [hsame]
    cases hown : b.lastOwn number with
    | some request =>
        rw [hown] at hhold
        exact hhold
    | none =>
        rw [hown] at hhold
        rcases hhold with hs | hover | hlater
        · rcases h.shows_next hinbox hown hs with hstays | hnow | hlater
          · exact .inl hstays
          · exact .inr (.inl (overruled_cons.mpr (.inl hnow)))
          · exact .inr (.inr hlater)
        · exact .inr (.inl (overruled_cons.mpr (.inr hover)))
        · exact .inr (.inr (Nat.lt_of_lt_of_le hlater h.received))

theorem given (h : Delivery b envelope b') (hgive : b.Given number) : b'.Given number := by
  unfold Given at hgive ⊢
  rcases h.word number with ⟨_, hlast, hnone⟩ | hsame
  · rw [hlast] at hgive
    rw [hnone]
    exact h.yielded hgive
  · rw [hsame]
    cases hown : b.lastOwn number with
    | some request =>
        rw [hown] at hgive
        exact hgive
    | none =>
        rw [hown] at hgive
        intro hs
        rcases h.shows hs with ⟨task, hrequest⟩ | hbefore
        · have hsender := (h.question number task hrequest).1
          exact lastOwn_eq_none.mp hown envelope h.head hsender
        · exact hgive hbefore

/-- What is overruled now was received, and is gone. -/
theorem overrules (h : Delivery b envelope b') (hinbox : b.inbox = envelope :: rest)
    (hnow : overrules number (b, .receive pins) = true) :
    ¬ b'.Shows number ∧ number ≤ b'.received := by
  obtain ⟨task, hs, hyields⟩ := of_overrules hinbox hnow
  have hnumber := h.shown number ⟨task, hs⟩
  have hreceived := h.received
  exact ⟨h.yielded hyields, by omega⟩

/-- A received question that is gone does not come back. -/
theorem gone (h : Delivery b envelope b') (hle : number ≤ b.received) (hgone : ¬ b.Shows number) :
    ¬ b'.Shows number := by
  intro hs
  rcases h.shows hs with ⟨task, hrequest⟩ | hbefore
  · have hk := h.question number task hrequest
    omega
  · exact hgone hbefore

end Delivery

/-! ## One step -/

namespace ScreenInvariant

/-- Steps that receive nothing and show no question owe the new custody
only. -/
theorem move (h : ScreenInvariant hist b) (hreceive : ∀ pins, e ≠ .receive pins)
    (hscreen : b'.ui.screen = b.ui.screen) (hasked : b'.asked = b.asked)
    (hreceived : b'.received = b.received)
    (hown : ∀ number, number ≠ b.asked → b'.lastOwn number = b.lastOwn number)
    (hcustody : Custody ((b, e) :: hist) b') : ScreenInvariant ((b, e) :: hist) b' := by
  have hshows (number : Nat) : b'.Shows number ↔ b.Shows number := by
    unfold Shows
    rw [hscreen]
  refine ⟨hcustody, fun number hpos hlt => ?_, fun number hover => ?_, fun number hpast => ?_⟩
  · rw [hasked] at hlt
    have hsame : Alike number b b' := ⟨hown number (Nat.ne_of_lt hlt), hshows number, hreceived⟩
    refine (h.earlier number hpos hlt).imp (decided_earlier hlt) (fun hhold => ?_)
      fun hgiven => hgiven.keep hsame
    exact hhold.keep hsame (overruled_quiet hreceive).mpr
  · rw [overruled_quiet hreceive] at hover
    rw [hshows, hreceived]
    exact h.overruled number hover
  · rw [hasked]
    rcases decided_cons.mp hpast with ⟨hnow, _⟩ | hbefore
    · exact Nat.le_of_eq hnow.symm
    · exact h.past number hbefore

/-- Steps that change neither the claim nor a last word. -/
theorem same (h : ScreenInvariant hist b) (hreceive : ∀ pins, e ≠ .receive pins)
    (hquiet : decides (b, e) = false) (hscreen : b'.ui.screen = b.ui.screen)
    (hasked : b'.asked = b.asked) (hreceived : b'.received = b.received)
    (hclaim : b'.activity.claim = b.activity.claim)
    (hown : ∀ number, b'.lastOwn number = b.lastOwn number) :
    ScreenInvariant ((b, e) :: hist) b' := by
  have hsame : Alike b.asked b b' :=
    ⟨hown b.asked, by unfold Shows; rw [hscreen], hreceived⟩
  refine h.move hreceive hscreen hasked hreceived (fun number _ => hown number) ?_
  refine h.custody.imp hclaim hasked (decided_quiet hquiet) (fun hhold => ?_)
    fun hgiven => hgiven.keep hsame
  exact hhold.keep hsame (overruled_quiet hreceive).mpr

/-- An execution that returns without giving the screen up. -/
theorem abort (h : ScreenInvariant hist b) (hreceive : ∀ pins, e ≠ .receive pins)
    (hquiet : decides (b, e) = false) (hclaim : b.activity.claim = .undecided)
    (error : ActivityError) :
    ScreenInvariant ((b, e) :: hist) (b.become (.ended (.error error))) := by
  obtain ⟨hundecided, hhold⟩ := (custody_undecided hclaim).mp h.custody
  refine h.move hreceive rfl rfl rfl (fun _ _ => rfl)
    ((custody_none rfl).mpr fun _ => .inr ⟨?_, ?_⟩)
  · exact fun hc => hundecided ((decided_quiet hquiet).mp hc)
  · exact hhold.keep ⟨rfl, Iff.rfl, rfl⟩ (overruled_quiet hreceive).mpr

/-- A decided execution gives the screen up. -/
theorem give (h : ScreenInvariant hist b) (b₁ : Badge) (request : UiRequest)
    (hreceive : ∀ pins, e ≠ .receive pins) (hscreen : b₁.ui.screen = b.ui.screen)
    (hasked : b₁.asked = b.asked) (hinbox : b₁.inbox = b.inbox)
    (hrequest : request.yields = true) (hquestion : request.isQuestion = false)
    (hclaim : b₁.activity.claim = .given ∨ b₁.activity.claim = .none)
    (hdecided : Decided ((b, e) :: hist) b.asked) :
    ScreenInvariant ((b, e) :: hist) (b₁.send (.activity b.asked) request) := by
  have hgiven : (b₁.send (.activity b.asked) request).Given b.asked := given_send hrequest
  refine h.move hreceive hscreen hasked ?_ (fun number hne => ?_) ?_
  · rw [received_send hquestion, received, received, inFlight, inFlight, hinbox, hasked]
  · rw [lastOwn_others request (by simpa using hne.symm), lastOwn, lastOwn, hinbox]
  · have hlast : (b₁.send (.activity b.asked) request).asked = b.asked := hasked
    rcases hclaim with hclaim | hclaim
    · refine (custody_given (b := b₁.send (.activity b.asked) request) hclaim).mpr ?_
      rw [hlast]
      exact ⟨hdecided, hgiven⟩
    · refine (custody_none (b := b₁.send (.activity b.asked) request) hclaim).mpr fun _ => .inl ?_
      rw [hlast]
      exact ⟨hdecided, hgiven⟩

/-- A question gets a new number, about which nothing is recorded. -/
theorem showQuestion (h : ScreenInvariant hist b) (task : QuestionTask)
    (hclaim : b.activity.claim = .none) :
    ScreenInvariant ((b, .showQuestion) :: hist) (b.showQuestion task) := by
  have hreceive : ∀ pins, Event.showQuestion ≠ .receive pins := fun pins hc => by cases hc
  have hquiet : decides (b, .showQuestion) = false :=
    decides_eq_false (fun o hc => by cases hc) fun points saves hc => by cases hc
  have hasked : (b.showQuestion task).asked = b.asked + 1 := rfl
  have hreceived : (b.showQuestion task).received = b.received := by
    simp [received, inFlight, Badge.showQuestion, send, become, UiRequest.number]
  have hlast : (b.showQuestion task).lastOwn (b.asked + 1)
      = some (.question (b.asked + 1) task) := lastOwn_send _
  refine ⟨(custody_undecided rfl).mpr ⟨fun hc => ?_, ?_⟩, fun number hpos hlt => ?_,
    fun number hover => ?_, fun number hpast => ?_⟩
  · have hle := h.past _ ((decided_quiet hquiet).mp hc)
    exact absurd hle (Nat.not_succ_le_self b.asked)
  · unfold Holding
    rw [hasked, hlast]
    rfl
  · rw [hasked] at hlt
    have hover : Over hist b number := by
      by_cases hnow : number = b.asked
      · rw [hnow] at hpos ⊢
        exact (custody_none hclaim).mp h.custody hpos
      · exact h.earlier number hpos (by omega)
    have hother : Sender.activity (b.asked + 1) ≠ .activity number := by
      simp only [ne_eq, Sender.activity.injEq]
      omega
    have hsame : Alike number b (b.showQuestion task) :=
      ⟨lastOwn_others _ hother, Iff.rfl, hreceived⟩
    exact hover.imp (decided_quiet hquiet)
      (fun hhold => hhold.keep hsame (overruled_quiet hreceive).mpr) fun hgiven => hgiven.keep hsame
  · rw [hreceived]
    exact h.overruled number ((overruled_quiet hreceive).mp hover)
  · exact Nat.le_succ_of_le (h.past number ((decided_quiet hquiet).mp hpast))

/-- **Receiving**: the last word leaves the channel for the screen, and
what stands on the screen gives way to others and to later questions. -/
theorem receive {seen : Nat} (h : ScreenInvariant hist b) (hnumbered : b.Numbered seen)
    {pins : Buttons} {now : Nat} {envelope : Envelope} {rest : List Envelope}
    (hinbox : b.inbox = envelope :: rest) :
    ScreenInvariant ((b, .receive pins) :: hist)
      { b with ui := b.ui.apply envelope.request pins now, inbox := rest } := by
  have hquiet : decides (b, .receive pins) = false :=
    decides_eq_false (fun o hc => by cases hc) fun points saves hc => by cases hc
  have hdelivery := delivery_of_receive hnumbered hinbox pins now
  refine ⟨?_, fun number hpos hlt => ?_, fun number hover => ?_, fun number hpast => ?_⟩
  · exact h.custody.imp rfl rfl (decided_quiet hquiet) (hdelivery.holding hinbox)
      hdelivery.given
  · exact (h.earlier number hpos hlt).imp (decided_quiet hquiet) (hdelivery.holding hinbox)
      hdelivery.given
  · rcases overruled_cons.mp hover with hnow | hbefore
    · exact hdelivery.overrules hinbox hnow
    · obtain ⟨hgone, hle⟩ := h.overruled number hbefore
      exact ⟨hdelivery.gone hle hgone, Nat.le_trans hle hdelivery.received⟩
  · exact h.past number ((decided_quiet hquiet).mp hpast)

theorem init {b : Badge} (h : system.init b) : ScreenInvariant [] b := by
  obtain ⟨identity, flash, rfl⟩ := h
  refine ⟨(custody_none rfl).mpr fun hpos => absurd hpos (Nat.lt_irrefl 0),
    fun number _ hlt => absurd hlt (Nat.not_lt_zero number), ?_, ?_⟩
  · intro number h
    rcases h with ⟨t, ht, _⟩
    cases ht
  · intro number h
    rcases h with ⟨t, ht, _⟩
    cases ht

/-- **The step lemma.** -/
theorem step {seen : Nat} (h : ScreenInvariant hist b) (hnumbered : b.Numbered seen)
    (hnext : b.step e = some b') : ScreenInvariant ((b, e) :: hist) b' := by
  cases move_of_step hnext with
  | assign hfree =>
      refine h.same (by simp) (decides_eq_false (by simp) (by simp)) rfl rfl rfl ?_ fun _ => rfl
      exact (Activity.claim_eq_none.mpr hfree).symm
  | checked hat hactivity =>
      refine h.same (by simp) (decides_eq_false (by simp) (by simp)) rfl rfl rfl ?_ fun _ => rfl
      rcases hactivity with rfl | rfl <;> rw [hat] <;> rfl
  | refused hat | prepared hat =>
      refine h.same (by simp) (decides_eq_false (by simp) (by simp)) rfl rfl rfl ?_ fun _ => rfl
      rw [hat]
      rfl
  | showQuestion hat => exact h.showQuestion _ (by rw [hat]; rfl)
  | unprepared hat _ =>
      exact h.abort (by simp) (decides_eq_false (by simp) (by simp)) (by rw [hat]; rfl) _
  | gaveUp hat hcheck =>
      refine h.same (by simp) (by simp [decides, hat, hcheck]) rfl rfl rfl ?_ fun _ => rfl
      rw [hat]
      rfl
  | @took o task localDeadline gesture rest hat hcheck hqueue =>
      have hdecides : decides (b, .poll o) = gesture.choice.isAnswer := by
        simp [decides, hat, hcheck, hqueue]
      have hclaim : b.activity.claim = .undecided := by
        rw [hat]
        rfl
      cases hchoice : gesture.choice with
      | panic =>
          refine h.same (by simp) (by rw [hdecides, hchoice]; rfl) rfl rfl rfl ?_ fun _ => rfl
          rw [hclaim]
          rfl
      | answer index =>
          refine h.move (by simp) rfl rfl rfl (fun _ _ => rfl) ((custody_decided rfl).mpr ⟨?_, ?_⟩)
          · exact decided_cons.mpr (.inl ⟨rfl, by rw [hdecides, hchoice]; rfl⟩)
          · have hhold := ((custody_undecided hclaim).mp h.custody).2
            exact hhold.keep ⟨rfl, Iff.rfl, rfl⟩ (overruled_quiet (by simp)).mpr
  | idled hat hcheck hqueue =>
      exact h.same (by simp) (by simp [decides, hat, hcheck, hqueue]) rfl rfl rfl rfl fun _ => rfl
  | failed hat => exact h.abort (by simp) (by simp [decides, hat]) (by rw [hat]; rfl) _
  | uncrashed hat hsession =>
      exact h.abort (by simp) (by simp [decides, hat, hsession]) (by rw [hat]; rfl) _
  | @answered task selectedIndex points saves hat =>
      have hdecided := ((custody_decided (by rw [hat]; rfl)).mp h.custody).1
      exact h.give (b.become (.feedback task selectedIndex)) (verdict task selectedIndex points)
        (by simp) rfl rfl rfl rfl rfl (.inl rfl) (decided_cons.mpr (.inr hdecided))
  | @crashed task points saves session hat hsession =>
      have hdecides : decides (b, .joined points saves) = true := by
        simp [decides, hat, hsession]
      exact h.give ({ b with session }.become (.blackout task)) .crashed (by simp) rfl rfl rfl rfl
        rfl (.inl rfl) (decided_cons.mpr (.inl ⟨rfl, hdecides⟩))
  | @held task selectedIndex hat =>
      have hdecided := ((custody_given (by rw [hat]; rfl)).mp h.custody).1
      exact h.give (b.become (.ended (.ok (b.answer task selectedIndex)))) .waiting (by simp) rfl
        rfl rfl rfl rfl (.inr rfl) (decided_cons.mpr (.inr hdecided))
  | @blackoutOver task hat =>
      have hdecided := ((custody_given (by rw [hat]; rfl)).mp h.custody).1
      exact h.give (b.become (.recovering task)) .recovered (by simp) rfl rfl rfl rfl rfl (.inl rfl)
        (decided_cons.mpr (.inr hdecided))
  | reported hat =>
      obtain ⟨hdecided, hgiven⟩ := (custody_given (by rw [hat]; rfl)).mp h.custody
      refine h.move (by simp) rfl rfl rfl (fun _ _ => rfl)
        ((custody_none rfl).mpr fun _ => .inl ⟨?_, hgiven⟩)
      exact decided_cons.mpr (.inr hdecided)
  | @others sender request hmay =>
      have hother (number : Nat) : sender ≠ .activity number := by
        rintro rfl
        cases request <;> cases hmay
      refine h.same (by simp) (decides_eq_false (by simp) (by simp)) rfl rfl (received_send ?_) rfl
        fun number => lastOwn_others request (hother number)
      cases sender <;> cases request <;> first | rfl | cases hmay
  | wake _ | drained _ _ | sleepFailed _ =>
      exact h.same (by simp) (decides_eq_false (by simp) (by simp)) rfl rfl rfl rfl fun _ => rfl
  | receive _ hinbox => exact h.receive hnumbered hinbox
  | @sample buttons now later _ _ =>
      exact h.same (by simp) (decides_eq_false (by simp) (by simp))
        (b.ui.finishTurn_frame buttons now later).1 rfl rfl rfl fun _ => rfl

end ScreenInvariant

theorem screenInvariant_run (hrun : system.Run hist b) : ScreenInvariant hist b := by
  have hboth := hrun.invariant
    (I := fun hist b => (∃ seen, b.Numbered seen) ∧ ScreenInvariant hist b) ?_ ?_
  · exact hboth.2
  · intro b₀ hinit
    exact ⟨numbered_reachable ⟨[], .nil hinit⟩, .init hinit⟩
  · rintro hist b e b' ⟨⟨seen, hnumbered⟩, h⟩ hnext
    exact ⟨hnumbered.step hnext, h.step hnumbered hnext⟩

/-- What is known of a question whose execution returned. -/
theorem over_of_returned (hrun : system.Run hist b) (hpos : 0 < number)
    (hreturned : number < b.asked ∨ (number = b.asked ∧ b.activity.holds = none)) :
    Over hist b number := by
  have hinv := screenInvariant_run hrun
  rcases hreturned with hlt | ⟨rfl, hnone⟩
  · exact hinv.earlier number hpos hlt
  · exact (custody_none (Activity.claim_eq_none.mpr hnone)).mp hinv.custody hpos

end Badge

end DurableTrivia.Firmware

import DurableTrivia.Firmware.SessionJson
import DurableTrivia.Lib.System

/-!
# SessionRuns — the session store over calls, failed saves and reboots

The store once more, with the blob `load` and `save` of
`firmware/src/session.rs` read and write. A call changes the flash
first and the memory only when that worked, so a reboot at any point
loads the session the memory held. What the badge refuses is then a set
of questions that belongs to one game: a successful `abandon` adds to
it, a successful `begin_game` of another game empties it.
-/

namespace DurableTrivia.Firmware

open DurableTrivia.Lib

/-- The blob in flash and the session in memory. -/
structure StoredSession (Blob : Type*) where
  nvs : Option Blob := none
  session : PersistedSession := {}

/-- The calls of the other tasks, and a reboot. `stores` says whether
`set_blob` replaces the blob if the call comes to it. -/
inductive SessionCall where
  | beginGame (gameId : String) (deadlineUnixMs : Nat) (stores : Bool)
  | abandon (gameId questionId : String) (stores : Bool)
  | isAbandoned (gameId questionId : String)
  | reboot
  deriving DecidableEq, Repr

variable {Blob : Type*} (codec : SessionCodec Blob)

/-- No blob and a corrupt one load as the empty session. -/
def load (nvs : Option Blob) : PersistedSession := (nvs.bind codec.fromSlice).getD {}

/-- Whether the blob was replaced, and the flash after it. -/
def save (nvs : Option Blob) (session : PersistedSession) (stores : Bool) : Bool × Option Blob :=
  if stores then (true, some (codec.toVec session)) else (false, nvs)

namespace StoredSession

/-- `SessionStore::new` -/
def new (nvs : Option Blob) : StoredSession Blob := { nvs, session := load codec nvs }

variable (stored : StoredSession Blob)

/-- Saves `next` and takes it over, or returns the error of the save. -/
def replace (next : PersistedSession) (stores : Bool) : Bool × StoredSession Blob :=
  match save codec stored.nvs next stores with
  | (true, nvs) => (true, { nvs, session := next })
  | (false, nvs) => (false, { stored with nvs })

/-- `SessionStore.beginGame` over the flash: whether it succeeded, and what
is stored. -/
def beginGame (gameId : String) (deadlineUnixMs : Nat) (stores : Bool) :
    Bool × StoredSession Blob :=
  let isNew := stored.session.gameId != gameId
  if isNew || decide (stored.session.deadlineUnixMs < deadlineUnixMs) then
    stored.replace codec
      (if isNew then { gameId, deadlineUnixMs, abandonedQuestions := [] }
        else { stored.session with deadlineUnixMs }) stores
  else (true, stored)

/-- `SessionStore.isAbandoned` over the flash. -/
def isAbandoned (gameId questionId : String) : Bool :=
  stored.session.gameId == gameId && stored.session.abandonedQuestions.any (· == questionId)

/-- `SessionStore.abandon` over the flash: whether it succeeded, and what is
stored. -/
def abandon (gameId questionId : String) (stores : Bool) : Bool × StoredSession Blob :=
  if stored.session.gameId == gameId
      && !stored.session.abandonedQuestions.any (· == questionId) then
    stored.replace codec
      { stored.session with
        abandonedQuestions := stored.session.abandonedQuestions ++ [questionId] } stores
  else (true, stored)

/-- Whether a call returns `Ok`, and the store after it. -/
def call : SessionCall → Bool × StoredSession Blob
  | .beginGame gameId deadlineUnixMs stores => stored.beginGame codec gameId deadlineUnixMs stores
  | .abandon gameId questionId stores => stored.abandon codec gameId questionId stores
  | .isAbandoned _ _ => (true, stored)
  | .reboot => (true, new codec stored.nvs)

/-- A badge whose flash holds no session yet. -/
def system : StepSystem (StoredSession Blob) SessionCall where
  init stored := ∃ nvs, load codec nvs = {} ∧ stored = new codec nvs
  step stored call := some (stored.call codec call).2

end StoredSession

/-- Calls with the stores they were made on, latest first. -/
abbrev SessionHistory (Blob : Type*) := List (StoredSession Blob × SessionCall)

/-- The question is abandoned in its game, and the call succeeds. -/
def abandons (gameId questionId : String) (t : StoredSession Blob × SessionCall) : Bool :=
  match t.2 with
  | .abandon game question _ =>
      game == gameId && question == questionId && t.1.session.gameId == gameId
        && (t.1.call codec t.2).1
  | _ => false

/-- Another game than `gameId` is begun, and the call succeeds. -/
def leavesGame (gameId : String) (t : StoredSession Blob × SessionCall) : Bool :=
  match t.2 with
  | .beginGame game _ _ => game != gameId && (t.1.call codec t.2).1
  | _ => false

/-- The question was abandoned while its game was current, and no other
game was begun since. -/
def AbandonedBefore (gameId questionId : String) (hist : SessionHistory Blob) : Prop :=
  ∃ later t earlier, hist = later ++ t :: earlier ∧ abandons codec gameId questionId t = true
    ∧ ∀ u ∈ later, leavesGame codec gameId u = false

/-! ## The calls -/

section Calls
variable {codec} {stored : StoredSession Blob}

/-- A save that fails changes nothing; one that works changes both. -/
theorem replace_eq (next : PersistedSession) (stores : Bool) :
    stored.replace codec next stores =
      if stores then (true, { nvs := some (codec.toVec next), session := next })
      else (false, stored) := by
  unfold StoredSession.replace save
  cases stores <;> rfl

theorem load_toVec (session : PersistedSession) :
    load codec (some (codec.toVec session)) = session := by
  unfold load
  rw [Option.bind_some, codec.round_trip]
  rfl

theorem any_beq_iff (questions : List String) (questionId : String) :
    (questions.any (· == questionId)) = decide (questionId ∈ questions) := by
  rw [Bool.eq_iff_iff]
  simp

/-- What a call leaves behind: the store as it was, or a session that is
in memory and in flash. -/
inductive Outcome (codec : SessionCodec Blob) (stored : StoredSession Blob) :
    SessionCall → Bool × StoredSession Blob → Prop
  | failed {c : SessionCall} : Outcome codec stored c (false, stored)
  | begun {gameId : String} {deadlineUnixMs : Nat} (hnew : stored.session.gameId ≠ gameId) :
      Outcome codec stored (.beginGame gameId deadlineUnixMs true)
        (true,
          { nvs := some (codec.toVec { gameId, deadlineUnixMs })
            session := { gameId, deadlineUnixMs } })
  | extended {gameId : String} {deadlineUnixMs : Nat} (hsame : stored.session.gameId = gameId)
      (hlater : stored.session.deadlineUnixMs < deadlineUnixMs) :
      Outcome codec stored (.beginGame gameId deadlineUnixMs true)
        (true,
          { nvs := some (codec.toVec { stored.session with deadlineUnixMs })
            session := { stored.session with deadlineUnixMs } })
  | known {gameId : String} {deadlineUnixMs : Nat} {stores : Bool}
      (hsame : stored.session.gameId = gameId) :
      Outcome codec stored (.beginGame gameId deadlineUnixMs stores) (true, stored)
  | abandoned {gameId questionId : String} (hsame : stored.session.gameId = gameId) :
      Outcome codec stored (.abandon gameId questionId true)
        (true,
          { nvs := some (codec.toVec
              { stored.session with
                abandonedQuestions := stored.session.abandonedQuestions ++ [questionId] })
            session := { stored.session with
              abandonedQuestions := stored.session.abandonedQuestions ++ [questionId] } })
  | ignored {gameId questionId : String} {stores : Bool}
      (hkept : stored.session.gameId = gameId →
        questionId ∈ stored.session.abandonedQuestions) :
      Outcome codec stored (.abandon gameId questionId stores) (true, stored)
  | asked {gameId questionId : String} :
      Outcome codec stored (.isAbandoned gameId questionId) (true, stored)
  | rebooted : Outcome codec stored .reboot (true, .new codec stored.nvs)

/-- **Every call has one of the outcomes.** -/
theorem outcome_call (c : SessionCall) : Outcome codec stored c (stored.call codec c) := by
  cases c with
  | beginGame gameId deadlineUnixMs stores =>
      show Outcome codec stored _ (stored.beginGame codec gameId deadlineUnixMs stores)
      unfold StoredSession.beginGame
      dsimp only
      by_cases hsame : stored.session.gameId = gameId
      · by_cases hlater : stored.session.deadlineUnixMs < deadlineUnixMs
        · rw [if_pos (by simp [hlater]), if_neg (by simp [hsame]), replace_eq]
          cases stores with
          | true => exact .extended hsame hlater
          | false => exact .failed
        · rw [if_neg (by simp [hsame, hlater])]
          exact .known hsame
      · rw [if_pos (by simp [hsame]), if_pos (by simp [hsame]), replace_eq]
        cases stores with
        | true => exact .begun hsame
        | false => exact .failed
  | abandon gameId questionId stores =>
      show Outcome codec stored _ (stored.abandon codec gameId questionId stores)
      unfold StoredSession.abandon
      rw [any_beq_iff]
      by_cases hnew : stored.session.gameId = gameId
          ∧ questionId ∉ stored.session.abandonedQuestions
      · rw [if_pos (by simpa using hnew), replace_eq]
        cases stores with
        | true => exact .abandoned hnew.1
        | false => exact .failed
      · rw [if_neg (by simpa using hnew)]
        exact .ignored fun hsame => Decidable.not_not.mp fun hmem => hnew ⟨hsame, hmem⟩
  | isAbandoned gameId questionId => exact .asked
  | reboot => exact .rebooted

/-- The badge's store of `Firmware.Session`: what the flash would load. -/
def StoredSession.view (codec : SessionCodec Blob) (stored : StoredSession Blob) : SessionStore :=
  { session := stored.session, flash := load codec stored.nvs }

/-- A call of the blob store is the same call of the badge's store. -/
theorem view_beginGame (gameId : String) (deadlineUnixMs : Nat) (stores : Bool) :
    (stored.view codec).beginGame gameId deadlineUnixMs stores =
      if (stored.beginGame codec gameId deadlineUnixMs stores).1 then
        some ((stored.beginGame codec gameId deadlineUnixMs stores).2.view codec)
      else none := by
  unfold SessionStore.beginGame StoredSession.beginGame
  by_cases hsame : stored.session.gameId = gameId
  · by_cases hlater : stored.session.deadlineUnixMs < deadlineUnixMs
    · cases stores <;>
        simp [StoredSession.view, SessionStore.replace, replace_eq, load_toVec, hsame, hlater]
    · simp [StoredSession.view, hsame, hlater]
  · cases stores <;>
      simp [StoredSession.view, SessionStore.replace, replace_eq, load_toVec, hsame]

theorem view_abandon (gameId questionId : String) (stores : Bool) :
    (stored.view codec).abandon gameId questionId stores =
      if (stored.abandon codec gameId questionId stores).1 then
        some ((stored.abandon codec gameId questionId stores).2.view codec)
      else none := by
  by_cases hnew : stored.session.gameId = gameId ∧ questionId ∉ stored.session.abandonedQuestions
  · unfold SessionStore.abandon StoredSession.abandon
    rw [any_beq_iff]
    cases stores <;>
      simp [StoredSession.view, SessionStore.replace, replace_eq, load_toVec, hnew.1, hnew.2]
  · have hkept : stored.abandon codec gameId questionId stores = (true, stored) := by
      unfold StoredSession.abandon
      rw [any_beq_iff, if_neg (by simpa using hnew)]
    rw [hkept]
    exact if_neg hnew

theorem view_isAbandoned (gameId questionId : String) :
    (stored.view codec).isAbandoned gameId questionId = stored.isAbandoned gameId questionId := rfl

end Calls

/-! ## The abandoned set -/

/-- What the store is for: the questions refused in one game. -/
structure AbandonedSet where
  game : String
  questions : Set String

/-- A call that succeeds. -/
def AbandonedSet.after (a : AbandonedSet) : SessionCall → AbandonedSet
  | .beginGame gameId _ _ =>
      { game := gameId, questions := {q | a.game = gameId ∧ q ∈ a.questions} }
  | .abandon gameId questionId _ =>
      { a with questions := {q | q ∈ a.questions ∨ (a.game = gameId ∧ q = questionId)} }
  | .isAbandoned _ _ | .reboot => a

/-- The set a store stands for. -/
def StoredSession.refused (stored : StoredSession Blob) : AbandonedSet :=
  { game := stored.session.gameId, questions := {q | q ∈ stored.session.abandonedQuestions} }

section Refinement
variable {codec} {stored : StoredSession Blob}

/-- **The store refines the abandoned set**: a call that succeeds does to
the set what it says, and one that fails changes nothing. -/
theorem refused_call (hmirrored : stored.session = load codec stored.nvs) (c : SessionCall) :
    (stored.call codec c).2.session = load codec (stored.call codec c).2.nvs
      ∧ if (stored.call codec c).1 then
          (stored.call codec c).2.refused = stored.refused.after c
        else (stored.call codec c).2 = stored := by
  have houtcome : Outcome codec stored c (stored.call codec c) := outcome_call c
  revert houtcome
  generalize stored.call codec c = result
  intro houtcome
  cases houtcome with
  | failed => exact ⟨hmirrored, rfl⟩
  | begun hnew =>
      refine ⟨(load_toVec _).symm, ?_⟩
      simp [StoredSession.refused, AbandonedSet.after, hnew]
  | extended hsame _ =>
      refine ⟨(load_toVec _).symm, ?_⟩
      simp [StoredSession.refused, AbandonedSet.after, hsame]
  | known hsame =>
      refine ⟨hmirrored, ?_⟩
      simp [StoredSession.refused, AbandonedSet.after, hsame]
  | abandoned hsame =>
      refine ⟨(load_toVec _).symm, ?_⟩
      simp [StoredSession.refused, AbandonedSet.after, hsame]
  | @ignored gameId questionId _ hkept =>
      refine ⟨hmirrored, ?_⟩
      simp only [StoredSession.refused, AbandonedSet.after, if_true, AbandonedSet.mk.injEq,
        true_and]
      ext q
      simp only [Set.mem_ofPred_eq]
      constructor
      · exact .inl
      · intro h
        rcases h with hmem | ⟨hsame, rfl⟩
        · exact hmem
        · exact hkept hsame
  | asked => exact ⟨hmirrored, rfl⟩
  | rebooted =>
      refine ⟨rfl, ?_⟩
      simp only [if_true, AbandonedSet.after, StoredSession.refused, StoredSession.new, hmirrored]

end Refinement

/-! ## Every run of calls -/

section Runs
variable {codec} {stored : StoredSession Blob}

/-- The latest call abandons the question, or does not leave the game and
the question was abandoned before. -/
theorem abandonedBefore_cons {gameId questionId : String} {t : StoredSession Blob × SessionCall}
    {hist : SessionHistory Blob} :
    AbandonedBefore codec gameId questionId (t :: hist) ↔
      abandons codec gameId questionId t = true
        ∨ (leavesGame codec gameId t = false ∧ AbandonedBefore codec gameId questionId hist) := by
  constructor
  · intro h
    obtain ⟨later, u, earlier, hsplit, habandons, hstays⟩ := h
    cases later with
    | nil =>
        cases hsplit
        exact .inl habandons
    | cons v later =>
        cases hsplit
        refine .inr ⟨hstays _ List.mem_cons_self, later, u, earlier, rfl, habandons, ?_⟩
        intro w hw
        exact hstays w (List.mem_cons_of_mem _ hw)
  · intro h
    rcases h with habandons | ⟨hstays, later, u, earlier, rfl, habandons, hlater⟩
    · exact ⟨[], t, hist, rfl, habandons, by simp⟩
    · refine ⟨t :: later, u, earlier, rfl, habandons, ?_⟩
      intro w hw
      rcases List.mem_cons.mp hw with rfl | hw
      · exact hstays
      · exact hlater w hw

/-- What the history says the store refuses. -/
structure Remembers (codec : SessionCodec Blob) (hist : SessionHistory Blob)
    (stored : StoredSession Blob) : Prop where
  mirrored : stored.session = load codec stored.nvs
  abandoned : ∀ gameId questionId, AbandonedBefore codec gameId questionId hist ↔
    stored.session.gameId = gameId ∧ questionId ∈ stored.session.abandonedQuestions

/-- **The step lemma.** -/
theorem Remembers.step {hist : SessionHistory Blob} (h : Remembers codec hist stored)
    (c : SessionCall) :
    Remembers codec ((stored, c) :: hist) (stored.call codec c).2 := by
  have hmirrored := (refused_call h.mirrored c).1
  refine ⟨hmirrored, ?_⟩
  intro gameId questionId
  rw [abandonedBefore_cons, h.abandoned]
  have houtcome : Outcome codec stored c (stored.call codec c) := outcome_call c
  unfold abandons leavesGame
  dsimp only
  revert houtcome
  generalize hcall : stored.call codec c = result
  intro houtcome
  cases houtcome with
  | failed => cases c <;> simp
  | @begun game _ hnew =>
      -- nothing of the new game was abandoned yet
      simp only [Bool.and_true, bne_eq_false_iff_eq, Bool.false_eq_true, false_or,
        List.not_mem_nil, and_false, iff_false]
      intro hboth
      exact hnew (hboth.2.1.trans hboth.1.symm)
  | extended hsame _ =>
      subst hsame
      simp
  | known hsame =>
      subst hsame
      simp
  | @abandoned game question hsame =>
      subst hsame
      simp only [Bool.and_true, Bool.and_eq_true, beq_iff_eq, true_and, List.mem_append,
        List.mem_singleton]
      grind
  | @ignored game question _ hkept =>
      simp only [Bool.and_true, Bool.and_eq_true, beq_iff_eq, true_and]
      grind
  | asked => simp
  | rebooted =>
      simp only [Bool.false_eq_true, true_and, false_or]
      rw [show (StoredSession.new codec stored.nvs).session = stored.session from h.mirrored.symm]

/-- **The run lemma.** -/
theorem remembers_run {hist : SessionHistory Blob}
    (hrun : (StoredSession.system codec).Run hist stored) : Remembers codec hist stored := by
  refine hrun.invariant ?_ ?_
  · intro s₀ hinit
    obtain ⟨nvs, hempty, rfl⟩ := hinit
    refine ⟨rfl, ?_⟩
    intro gameId questionId
    have hnone : (StoredSession.new codec nvs).session.abandonedQuestions = [] :=
      congrArg PersistedSession.abandonedQuestions hempty
    rw [hnone]
    constructor
    · intro h
      obtain ⟨later, t, earlier, hsplit, _⟩ := h
      simp at hsplit
    · intro h
      simp at h
  · intro hist s c s' h hstep
    cases hstep
    exact h.step c

/-- Within a game the deadline only grows. -/
theorem deadline_step (hmirrored : stored.session = load codec stored.nvs) {c : SessionCall}
    (hstays : leavesGame codec stored.session.gameId (stored, c) = false) :
    (stored.call codec c).2.session.gameId = stored.session.gameId
      ∧ stored.session.deadlineUnixMs ≤ (stored.call codec c).2.session.deadlineUnixMs := by
  have houtcome : Outcome codec stored c (stored.call codec c) := outcome_call c
  unfold leavesGame at hstays
  dsimp only at hstays
  revert hstays houtcome
  generalize stored.call codec c = result
  intro hstays houtcome
  cases houtcome with
  | failed => exact ⟨rfl, Nat.le_refl _⟩
  | begun hnew =>
      have hsame : stored.session.gameId = _ := (by simpa using hstays : _ = _).symm
      exact absurd hsame hnew
  | extended _ hlater => exact ⟨rfl, Nat.le_of_lt hlater⟩
  | known _ => exact ⟨rfl, Nat.le_refl _⟩
  | abandoned _ => exact ⟨rfl, Nat.le_refl _⟩
  | ignored _ => exact ⟨rfl, Nat.le_refl _⟩
  | asked => exact ⟨rfl, Nat.le_refl _⟩
  | rebooted =>
      rw [show (StoredSession.new codec stored.nvs).session = stored.session from hmirrored.symm]
      exact ⟨rfl, Nat.le_refl _⟩

/-- **The run lemma for the deadline.** -/
theorem deadline_path {hist later : SessionHistory Blob} {stored' : StoredSession Blob}
    (hrun : (StoredSession.system codec).Run hist stored)
    (hpath : (StoredSession.system codec).Path stored later stored')
    (hstays : ∀ u ∈ later, leavesGame codec stored.session.gameId u = false) :
    stored'.session.gameId = stored.session.gameId
      ∧ stored.session.deadlineUnixMs ≤ stored'.session.deadlineUnixMs := by
  induction hpath with
  | nil => exact ⟨rfl, Nat.le_refl _⟩
  | @snoc later s s' c hpath hstep ih =>
      cases hstep
      obtain ⟨hgame, hdeadline⟩ := ih fun u hu => hstays u (List.mem_cons_of_mem _ hu)
      have hmirrored := (remembers_run (hrun.append hpath)).mirrored
      have hlast := hstays (s, c) List.mem_cons_self
      rw [← hgame] at hlast
      obtain ⟨hgame', hdeadline'⟩ := deadline_step hmirrored hlast
      exact ⟨hgame'.trans hgame, hdeadline.trans hdeadline'⟩

end Runs

/-- The store after some calls, against what a badge needs of it. -/
structure AbandonedSetKept (codec : SessionCodec Blob) (hist : SessionHistory Blob)
    (stored : StoredSession Blob) : Prop where
  /-- a reboot loads what the memory holds -/
  mirrored : stored.session = (StoredSession.new codec stored.nvs).session
  /-- a call that fails changes neither the memory nor the flash -/
  failed : ∀ c, (stored.call codec c).1 = false → (stored.call codec c).2 = stored
  /-- the questions refused are those abandoned in the current game -/
  refused : ∀ gameId questionId, stored.isAbandoned gameId questionId = true ↔
    stored.session.gameId = gameId ∧ AbandonedBefore codec gameId questionId hist
  /-- the deadline never goes back while the game lasts -/
  deadline : ∀ later stored', (StoredSession.system codec).Path stored later stored' →
    (∀ u ∈ later, leavesGame codec stored.session.gameId u = false) →
      stored.session.deadlineUnixMs ≤ stored'.session.deadlineUnixMs

/-- **The session store keeps an abandoned set**, over every sequence of
calls with failed saves and reboots in between. -/
theorem session_store_keeps_abandoned_set {hist : SessionHistory Blob}
    {stored : StoredSession Blob} (hrun : (StoredSession.system codec).Run hist stored) :
    AbandonedSetKept codec hist stored := by
  have hremembers := remembers_run hrun
  refine ⟨hremembers.mirrored, ?_, ?_, fun later stored' hpath hstays => ?_⟩
  · intro c hfailed
    have hcall := (refused_call hremembers.mirrored c).2
    rw [hfailed] at hcall
    simpa using hcall
  · intro gameId questionId
    rw [hremembers.abandoned]
    simp [StoredSession.isAbandoned]
  · exact (deadline_path hrun hpath hstays).2

/-- A badge that abandoned a question in its round. -/
def demoSession : PersistedSession where
  gameId := "trivia-1"
  deadlineUnixMs := 60000
  abandonedQuestions := ["q\"7"]

/-- A question abandoned in a round, a reboot, an abandon whose save
fails, and the next round: written as JSON and read back. -/
theorem session_store_keeps_abandoned_set_demo :
    ∃ hist stored, (StoredSession.system sessionJson).Run hist stored
      ∧ stored.session = demoSession
      ∧ AbandonedBefore sessionJson "trivia-1" "q\"7" hist
      ∧ ¬ AbandonedBefore sessionJson "trivia-1" "q8" hist := by
  obtain ⟨hist, stored, hrun, htest⟩ := StepSystem.exists_run_of_exec
    (S := StoredSession.system sessionJson) {}
    [.beginGame "trivia-0" 50000 true, .abandon "trivia-0" "q8" true,
      .beginGame "trivia-1" 60000 true, .abandon "trivia-1" "q\"7" true, .reboot,
      .abandon "trivia-1" "q8" false, .isAbandoned "trivia-1" "q\"7"]
    (fun result => result.2.session == demoSession)
    ⟨none, rfl, rfl⟩ (by decide +kernel)
  have hsession : stored.session = demoSession := by simpa using htest
  have hkept := session_store_keeps_abandoned_set sessionJson hrun
  have hseven : stored.isAbandoned "trivia-1" "q\"7" = true := by
    simp [StoredSession.isAbandoned, hsession, demoSession]
  refine ⟨hist, stored, hrun, hsession, ((hkept.refused _ _).mp hseven).2, fun hbefore => ?_⟩
  have height := (hkept.refused "trivia-1" "q8").mpr ⟨by rw [hsession]; rfl, hbefore⟩
  simp [StoredSession.isAbandoned, hsession, demoSession] at height

end DurableTrivia.Firmware

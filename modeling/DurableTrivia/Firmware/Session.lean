import Mathlib

/-!
# Session — what the badge remembers across a reboot

`firmware/src/session.rs`: the round the badge plays and the questions it
abandoned, kept in memory and as one blob in flash. `save` replaces the
blob or fails and leaves it; a call whose save failed returns its error
before it touched the session. The lock around both is never poisoned,
because no holder panics.
-/

namespace DurableTrivia.Firmware

/-- What a badge keeps in flash. -/
structure PersistedSession where
  gameId : String := ""
  deadlineUnixMs : Nat := 0
  abandonedQuestions : List String := []
  deriving DecidableEq, Repr

/-- The session in memory and the blob in flash. -/
structure SessionStore where
  session : PersistedSession := {}
  flash : PersistedSession := {}
  deriving DecidableEq, Repr

namespace SessionStore

/-- Saves `next` and takes it over; `none` is the error of the save. -/
def replace (next : PersistedSession) (saves : Bool) : Option SessionStore :=
  if saves then some { session := next, flash := next } else none

/-- Records the round this badge is playing, or a later deadline of it. -/
def beginGame (store : SessionStore) (gameId : String) (deadlineUnixMs : Nat) (saves : Bool) :
    Option SessionStore :=
  if store.session.gameId ≠ gameId then replace { gameId, deadlineUnixMs } saves
  else if store.session.deadlineUnixMs < deadlineUnixMs then
    replace { store.session with deadlineUnixMs } saves
  else some store

/-- The question was abandoned in this game. -/
def isAbandoned (store : SessionStore) (gameId questionId : String) : Bool :=
  store.session.gameId == gameId && store.session.abandonedQuestions.any (· == questionId)

/-- Abandon a question of the current game; `none` where the save fails. -/
def abandon (store : SessionStore) (gameId questionId : String) (saves : Bool) :
    Option SessionStore :=
  if store.session.gameId = gameId ∧ questionId ∉ store.session.abandonedQuestions then
    replace
      { store.session with
        abandonedQuestions := store.session.abandonedQuestions ++ [questionId] } saves
  else some store

variable {store store' : SessionStore} {gameId questionId : String} {deadlineUnixMs : Nat}
  {saves : Bool}

theorem replace_some {next : PersistedSession} :
    replace next saves = some store' ↔ saves = true ∧ store' = ⟨next, next⟩ := by
  unfold replace
  rw [Option.ite_none_right_eq_some, Option.some.injEq]
  exact and_congr_right fun _ => eq_comm

/-- The round that was begun is the current one. -/
theorem beginGame_gameId (h : store.beginGame gameId deadlineUnixMs saves = some store') :
    store'.session.gameId = gameId := by
  unfold beginGame at h
  by_cases hnew : store.session.gameId ≠ gameId
  · rw [if_pos hnew] at h
    rw [(replace_some.mp h).2]
  · rw [if_neg hnew] at h
    have hsame : store.session.gameId = gameId := Decidable.not_not.mp hnew
    split at h
    · rw [(replace_some.mp h).2]
      exact hsame
    · cases h
      exact hsame

/-- What was abandoned in the current game is refused. -/
theorem isAbandoned_abandon (h : store.abandon gameId questionId saves = some store')
    (hgame : store.session.gameId = gameId) : store'.isAbandoned gameId questionId = true := by
  unfold abandon at h
  by_cases hnew : store.session.gameId = gameId ∧ questionId ∉ store.session.abandonedQuestions
  · rw [if_pos hnew] at h
    rw [(replace_some.mp h).2]
    simp [isAbandoned, hgame]
  · rw [if_neg hnew] at h
    cases h
    have hmem : questionId ∈ store.session.abandonedQuestions := by
      by_contra hc
      exact hnew ⟨hgame, hc⟩
    simp [isAbandoned, hgame, hmem]

end SessionStore

end DurableTrivia.Firmware

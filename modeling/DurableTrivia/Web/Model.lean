import DurableTrivia.Lib.MapSum
import DurableTrivia.Shared.Contract

/-!
# Model — the closing summary of a round

`RoundMemo` of `web/src/model.rs`: the totals a finished round leaves in
its memo. The `i64` fields hold sums of `u32` counters and are `Nat`.
-/

namespace DurableTrivia.Web

open DurableTrivia.Shared DurableTrivia.Lib

/-- The memo a finished round leaves. -/
structure RoundMemo where
  gameId : String
  winners : List String
  badgeCount : Nat
  correctAnswers : Nat
  wrongAnswers : Nat
  crashes : Nat
  reassignments : Nat
  heartbeatTimeouts : Nat
  activityAttempts : Nat
  deriving DecidableEq, Repr

/-- `RoundMemo::from`. -/
def RoundMemo.ofSnapshot (snapshot : GameSnapshot) : RoundMemo :=
  { gameId := snapshot.gameId.getD ""
    winners := snapshot.winners
    badgeCount := snapshot.players.size
    correctAnswers := (snapshot.playerValues.map (·.correct)).sum
    wrongAnswers := (snapshot.playerValues.map (·.wrong)).sum
    crashes := (snapshot.playerValues.map (·.panics)).sum
    reassignments := snapshot.reassignments
    heartbeatTimeouts := snapshot.heartbeatTimeouts
    activityAttempts := snapshot.activityAttempts }

/-- A sum over the roster is the roster's total. -/
theorem sum_playerValues (snapshot : GameSnapshot) (f : PlayerScore → Nat) :
    (snapshot.playerValues.map f).sum = valueSum f snapshot.players := by
  unfold GameSnapshot.playerValues valueSum
  rw [List.map_map]
  rfl

end DurableTrivia.Web

import DurableTrivia.Shared.Identity
import DurableTrivia.Shared.Standings

/-!
# Results — the screen a badge shows after the round

`Canvas::results` of `badge-screen/src/lib.rs`, down to the texts it
hands to the centered layout. The place is counted over the players,
which are keyed by badge id; the winners are a list of callsigns. The
two verdicts part for a badge that shares its callsign with a player on
top.
-/

namespace DurableTrivia.BadgeScreen

open DurableTrivia.Shared

/-- What a centered screen is made of. -/
structure Screen where
  callsign : String
  headline : String
  detail : String
  instructions : List String
  deriving DecidableEq, Repr

/-- The line that names the winner, or the first of several and how many
tied. -/
def winnerLine (winners : List String) : String :=
  match winners with
  | [] => "NO WINNER"
  | [first] => "WINNER " ++ first
  | first :: rest => "WINNER " ++ first ++ " +" ++ toString rest.length ++ " TIED"

/-- The score a badge is placed with: a stranger is placed with nought. -/
def ownScore (badgeId : String) (snapshot : GameSnapshot) : Int :=
  ((snapshot.players[badgeId]?).map (·.score)).getD 0

/-- The place `Canvas::results` counts. -/
def resultsPlace (badgeId : String) (snapshot : GameSnapshot) : Nat :=
  1 + (snapshot.playerValues.filter (·.score > ownScore badgeId snapshot)).length

/-- Whether `Canvas::results` finds this badge among the winners. -/
def resultsWon (badgeId : String) (snapshot : GameSnapshot) : Bool :=
  (snapshot.players[badgeId]?).any fun player => snapshot.winners.contains player.callsign

/-- Final standings, with this badge's own row called out. -/
def results (callsign badgeId : String) (snapshot : GameSnapshot) : Screen :=
  let own := snapshot.players[badgeId]?
  let correct := (own.map (·.correct)).getD 0
  let wrong := (own.map (·.wrong)).getD 0
  { callsign
    headline := if resultsWon badgeId snapshot then "YOU WON" else "ROUND OVER"
    detail := winnerLine snapshot.winners
    instructions :=
      ["SCORE " ++ toString (ownScore badgeId snapshot),
        "PLACE " ++ toString (resultsPlace badgeId snapshot),
        "RIGHT " ++ toString correct ++ " / WRONG " ++ toString wrong] }

/-! ## Place -/

theorem resultsPlace_eq (badgeId : String) (snapshot : GameSnapshot) :
    resultsPlace badgeId snapshot = snapshot.placeOf (ownScore badgeId snapshot) := by
  unfold resultsPlace GameSnapshot.placeOf Lib.place
  rw [List.countP_eq_length_filter]

theorem ownScore_of_get {badgeId : String} {snapshot : GameSnapshot} {player : PlayerScore}
    (h : snapshot.players[badgeId]? = some player) : ownScore badgeId snapshot = player.score := by
  simp [ownScore, h]

/-- The screen reads "PLACE 1" exactly for a badge no player is ahead of. -/
theorem results_place_one_iff (callsign : String) {badgeId : String} {snapshot : GameSnapshot} :
    (results callsign badgeId snapshot).instructions[1]? = some "PLACE 1"
      ↔ snapshot.OnTop (ownScore badgeId snapshot) := by
  rw [← GameSnapshot.placeOf_eq_one_iff, ← resultsPlace_eq]
  have hlabel : ("PLACE 1" : String) = "PLACE " ++ toString 1 := by decide
  simp only [results, List.getElem?_cons_succ, List.getElem?_cons_zero, Option.some.injEq]
  rw [hlabel, String.append_right_inj]
  constructor
  · intro h
    exact Lib.toDigits_injective (by simpa [toString, Nat.repr] using congrArg String.toList h)
  · intro h
    rw [h]

/-- The screen reads "YOU WON" exactly for a badge one of the players on
top shares its callsign with. -/
theorem results_won_iff (callsign : String) {badgeId : String} {s : GameSnapshot}
    {player : PlayerScore} (h : s.players[badgeId]? = some player) :
    (results callsign badgeId s.finish).headline = "YOU WON"
      ↔ ∃ top ∈ s.playerValues, s.OnTop top.score ∧ top.callsign = player.callsign := by
  rw [← GameSnapshot.mem_winners_finish]
  have hwon : resultsWon badgeId s.finish = true ↔ player.callsign ∈ s.finish.winners := by
    simp [resultsWon, h]
  rw [← hwon]
  unfold results
  by_cases hcase : resultsWon badgeId s.finish = true
  · simp [hcase]
  · simp [hcase]

/-! ## The verdict against the standings -/

/-- Every player goes by the callsign derived from its badge's MAC. -/
def NamedRoster (macOf : String → Mac) (players : Std.TreeMap String PlayerScore) : Prop :=
  ∀ (badgeId : String) (player : PlayerScore), players[badgeId]? = some player →
    player.callsign = (identityFromMac (macOf badgeId)).callsign

/-- No player on top shares the last two bytes of this badge's MAC. -/
def NoTopTwin (macOf : String → Mac) (s : GameSnapshot) (badgeId : String) : Prop :=
  ∀ (other : String) (top : PlayerScore), s.players[other]? = some top → s.OnTop top.score →
    ¬ SameTail (macOf other) (macOf badgeId)

/-- The winner screen agrees with the standings for one badge. -/
def VerdictMatches (callsign badgeId : String) (s : GameSnapshot) : Prop :=
  ((results callsign badgeId s).headline = "YOU WON"
      ↔ (results callsign badgeId s).instructions[1]? = some "PLACE 1")
    ∧ ((results callsign badgeId s).headline = "YOU WON" ↔ s.OnTop (ownScore badgeId s))

/-- **The winner screen matches the standings exactly for a badge that is
on top itself or shares its MAC's last bytes with nobody who is.** -/
theorem results_verdict_matches_iff (callsign : String) {macOf : String → Mac} {s : GameSnapshot}
    (hnamed : NamedRoster macOf s.players) {badgeId : String} {player : PlayerScore}
    (h : s.players[badgeId]? = some player) :
    VerdictMatches callsign badgeId s.finish
      ↔ s.OnTop player.score ∨ NoTopTwin macOf s badgeId := by
  have hwon : (results callsign badgeId s.finish).headline = "YOU WON"
      ↔ ∃ (other : String) (top : PlayerScore), s.players[other]? = some top
        ∧ s.OnTop top.score ∧ SameTail (macOf other) (macOf badgeId) := by
    rw [results_won_iff callsign h]
    constructor
    · rintro ⟨top, htop, hbest, hname⟩
      obtain ⟨other, hother⟩ := GameSnapshot.mem_playerValues.mp htop
      rw [hnamed other top hother, hnamed badgeId player h] at hname
      exact ⟨other, top, hother, hbest, callsign_eq_iff.mp hname⟩
    · rintro ⟨other, top, hother, hbest, htail⟩
      refine ⟨top, GameSnapshot.mem_playerValues.mpr ⟨other, hother⟩, hbest, ?_⟩
      rw [hnamed other top hother, hnamed badgeId player h]
      exact callsign_eq_iff.mpr htail
  have hplace : s.finish.OnTop (ownScore badgeId s.finish) ↔ s.OnTop player.score := by
    have hown : ownScore badgeId s.finish = player.score := ownScore_of_get h
    rw [hown]
    rfl
  unfold VerdictMatches
  rw [results_place_one_iff, hplace, and_self, hwon]
  constructor
  · intro hiff
    by_cases htop : s.OnTop player.score
    · exact .inl htop
    · refine .inr fun other top hother hbest htail => htop (hiff.mp ?_)
      exact ⟨other, top, hother, hbest, htail⟩
  · intro hcond
    constructor
    · rintro ⟨other, top, hother, hbest, htail⟩
      rcases hcond with htop | hnone
      · exact htop
      · exact absurd htail (hnone other top hother hbest)
    · intro htop
      exact ⟨badgeId, player, h, htop, rfl, rfl⟩

/-- A round of two badges in which the first leads by two points. -/
def duel (leader trailer : Mac) : GameSnapshot :=
  let row (mac : Mac) (score : Int) : String × PlayerScore :=
    let identity := identityFromMac mac
    (identity.id, { badgeId := identity.id, callsign := identity.callsign, score })
  { players := Std.TreeMap.ofList [row leader 3, row trailer 1] }

/-- The MACs behind the ids of a duel. -/
def duelMacs (leader trailer : Mac) (badgeId : String) : Mac :=
  if badgeId = (identityFromMac leader).id then leader else trailer

/-- The address of a badge. -/
def firstMac : Mac := Mac.ofBytes 0xe8 0x3d 0xc1 0xf9 0x4b 0xc8

/-- The address of another badge. -/
def otherMac : Mac := Mac.ofBytes 0xe8 0x3d 0xc1 0xf9 0x4c 0xc8

/-- Same last two bytes as `firstMac`. -/
def twinMac : Mac := Mac.ofBytes 0xe8 0x3d 0xc2 0x00 0x4b 0xc8

theorem results_verdict_matches_iff_demo :
    VerdictMatches "KEEN-SEAL-C8" (identityFromMac otherMac).id
      (duel firstMac otherMac).finish := by
  have hnamed : NamedRoster (duelMacs firstMac otherMac) (duel firstMac otherMac).players :=
    forall_players_iff.mpr (by decide +kernel)
  have hnone : NoTopTwin (duelMacs firstMac otherMac) (duel firstMac otherMac)
      (identityFromMac otherMac).id :=
    forall_players_iff.mpr (by decide +kernel)
  have hget : (duel firstMac otherMac).players[(identityFromMac otherMac).id]?
      = some { badgeId := (identityFromMac otherMac).id,
               callsign := (identityFromMac otherMac).callsign, score := 1 } := by decide +kernel
  exact (results_verdict_matches_iff "KEEN-SEAL-C8" hnamed hget).mpr (.inr hnone)

/-- The trailing twin reads "YOU WON" over "PLACE 2". -/
theorem results_twin_wins_on_place_two :
    ¬ ∀ (callsign : String) (macOf : String → Mac) (s : GameSnapshot),
      NamedRoster macOf s.players → ∀ (badgeId : String) (player : PlayerScore),
        s.players[badgeId]? = some player → VerdictMatches callsign badgeId s.finish := by
  intro hall
  have hnamed : NamedRoster (duelMacs firstMac twinMac) (duel firstMac twinMac).players :=
    forall_players_iff.mpr (by decide +kernel)
  have hget : (duel firstMac twinMac).players[(identityFromMac twinMac).id]?
      = some { badgeId := (identityFromMac twinMac).id,
               callsign := (identityFromMac twinMac).callsign, score := 1 } := by decide +kernel
  have hmatch := (hall "KEEN-RAVEN-C8" _ _ hnamed _ _ hget).1
  revert hmatch
  decide +kernel

end DurableTrivia.BadgeScreen

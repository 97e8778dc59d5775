import DurableTrivia.Lib.Ranking
import DurableTrivia.Shared.Contract

/-!
# Standings — places and winners of a snapshot

The place of a score among a snapshot's players, and the winners
`GameSnapshot::finish` names: the players on place one.
-/

namespace DurableTrivia.Shared

/-- What holds of every player of a map holds of every entry of it. -/
theorem forall_players_iff {players : Std.TreeMap String PlayerScore}
    {P : String → PlayerScore → Prop} :
    (∀ (badgeId : String) (player : PlayerScore), players[badgeId]? = some player →
        P badgeId player)
      ↔ ∀ entry ∈ players.toList, P entry.1 entry.2 := by
  constructor
  · intro h entry hentry
    exact h _ _ (Std.TreeMap.mem_toList_iff_getElem?_eq_some.mp hentry)
  · intro h badgeId player hget
    exact h (badgeId, player) (Std.TreeMap.mem_toList_iff_getElem?_eq_some.mpr hget)

end DurableTrivia.Shared

namespace DurableTrivia.Shared.GameSnapshot

open DurableTrivia.Lib

/-- One more than the number of players with a higher score. -/
def placeOf (s : GameSnapshot) (own : Int) : Nat :=
  place PlayerScore.score s.playerValues own

/-- No player is strictly ahead of this score. -/
def OnTop (s : GameSnapshot) (own : Int) : Prop :=
  ∀ player ∈ s.playerValues, player.score ≤ own

instance (s : GameSnapshot) (own : Int) : Decidable (s.OnTop own) :=
  inferInstanceAs (Decidable (∀ player ∈ s.playerValues, player.score ≤ own))

/-- The players on place one. -/
def topPlayers (s : GameSnapshot) : List PlayerScore :=
  s.playerValues.filter fun player => s.placeOf player.score == 1

variable {s : GameSnapshot}

theorem placeOf_eq_one_iff {own : Int} : s.placeOf own = 1 ↔ s.OnTop own :=
  place_eq_one_iff

theorem mem_topPlayers {player : PlayerScore} :
    player ∈ s.topPlayers ↔ player ∈ s.playerValues ∧ s.OnTop player.score := by
  rw [topPlayers, List.mem_filter, beq_iff_eq, placeOf_eq_one_iff]

theorem mem_playerValues {player : PlayerScore} :
    player ∈ s.playerValues ↔ ∃ badgeId : String, s.players[badgeId]? = some player := by
  unfold playerValues
  constructor
  · intro h
    obtain ⟨⟨badgeId, other⟩, hmem, rfl⟩ := List.mem_map.mp h
    exact ⟨badgeId, Std.TreeMap.mem_toList_iff_getElem?_eq_some.mp hmem⟩
  · rintro ⟨badgeId, hget⟩
    exact List.mem_map.mpr
      ⟨(badgeId, player), Std.TreeMap.mem_toList_iff_getElem?_eq_some.mpr hget, rfl⟩

/-- The maximum filter of `finish` picks the players on place one. -/
theorem topCallsigns_eq :
    s.topCallsigns = (s.topPlayers.map (·.callsign)).insertionSort (· ≤ ·) := by
  unfold topCallsigns topPlayers
  cases hmax : (s.playerValues.map (·.score)).max? with
  | none =>
      have hnil : s.playerValues = [] := by simpa using hmax
      simp [hnil]
  | some high =>
      obtain ⟨hmem, hle⟩ := List.max?_eq_some_iff.mp hmax
      have hsame : s.playerValues.filter (·.score == high)
          = s.playerValues.filter fun player => s.placeOf player.score == 1 := by
        apply List.filter_congr
        intro player hplayer
        rw [Bool.eq_iff_iff, beq_iff_eq, beq_iff_eq, placeOf_eq_one_iff]
        constructor
        · intro heq other hother
          rw [heq]
          exact hle _ (List.mem_map_of_mem hother)
        · intro htop
          obtain ⟨best, hbest, rfl⟩ := List.mem_map.mp hmem
          exact le_antisymm (hle _ (List.mem_map_of_mem hplayer)) (htop best hbest)
      simp only [hsame]

/-- Someone is always on place one. -/
theorem topPlayers_eq_nil_iff : s.topPlayers = [] ↔ s.playerValues = [] := by
  constructor
  · intro h
    by_contra hne
    have hscores : s.playerValues.map (·.score) ≠ [] := by simpa using hne
    obtain ⟨high, hmax⟩ := Option.ne_none_iff_exists'.mp (mt List.max?_eq_none_iff.mp hscores)
    obtain ⟨hmem, hle⟩ := List.max?_eq_some_iff.mp hmax
    obtain ⟨best, hbest, rfl⟩ := List.mem_map.mp hmem
    have htop : best ∈ s.topPlayers :=
      mem_topPlayers.mpr ⟨hbest, fun other hother => hle _ (List.mem_map_of_mem hother)⟩
    rw [h] at htop
    exact absurd htop List.not_mem_nil
  · intro h
    simp [topPlayers, h]

@[simp] theorem finish_winners : s.finish.winners = s.topCallsigns := rfl

@[simp] theorem finish_playerValues : s.finish.playerValues = s.playerValues := rfl

/-- A callsign wins exactly when a player of that name is on top. -/
theorem mem_winners_finish {name : String} :
    name ∈ s.finish.winners
      ↔ ∃ player ∈ s.playerValues, s.OnTop player.score ∧ player.callsign = name := by
  rw [finish_winners, topCallsigns_eq, List.mem_insertionSort, List.mem_map]
  simp only [mem_topPlayers, and_assoc]

/-- Only a round no badge joined has no winner. -/
theorem winners_finish_eq_nil_iff : s.finish.winners = [] ↔ s.playerValues = [] := by
  rw [finish_winners, topCallsigns_eq, ← topPlayers_eq_nil_iff]
  constructor
  · intro h
    have hlen := congrArg List.length h
    rw [List.length_insertionSort, List.length_map] at hlen
    exact List.length_eq_zero_iff.mp hlen
  · intro h
    simp [h]

end DurableTrivia.Shared.GameSnapshot

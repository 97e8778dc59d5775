import DurableTrivia.BadgeScreen.Results
import DurableTrivia.Web.EndRound
import DurableTrivia.Web.Recovery

/-!
# Lanes — the order and the ranks on the TV

`orderedPlayers`, `rankPlayers` and the part of `render` and
`paintLanes` they feed, from `static/index.html`. The page keeps the lane
order and the ranks of the last settle and shows them for every snapshot
until the next one. Dropping a lane keeps the order of the others, so the
ranks of the remaining lanes still ascend; and the settled rank of a
player is the place the badge counts for itself.
-/

namespace DurableTrivia.Web

open DurableTrivia.Shared DurableTrivia.BadgeScreen DurableTrivia.Lib

/-- How many lanes fit on the TV. -/
def maxLanes : Nat := 10

/-- How long the order of the lanes is kept, in milliseconds. -/
def orderSettleMs : Int := 800

/-- `String.prototype.localeCompare`: a total preorder on strings. -/
structure Collation where
  localeCompare : String → String → Int
  total : ∀ a b, localeCompare a b ≤ 0 ∨ localeCompare b a ≤ 0
  trans : ∀ a b c, localeCompare a b ≤ 0 → localeCompare b c ≤ 0 → localeCompare a c ≤ 0

/-- A snapshot as the page parses it. `Object.values` lists the players
in an order of its own, each under its own badge. -/
structure ParsedSnapshot where
  snapshot : GameSnapshot
  incoming : List PlayerScore
  perm : incoming.Perm snapshot.playerValues
  keyed : Keyed snapshot.players

/-- A snapshot of a running Workflow, its players by badge id. -/
def ParsedSnapshot.ofRun {r : Round} {hist : History} {s : State} (h : r.system.Run hist s) :
    ParsedSnapshot :=
  { snapshot := s.wf.snapshot
    incoming := s.wf.snapshot.playerValues
    perm := .refl _
    keyed := (Round.tidy_run h).keyed }

/-- The page's variables the lanes are painted from. -/
structure Lanes where
  activeGameId : Option String := none
  laneOrder : List String := []
  settledRanks : Std.TreeMap String Nat := ∅
  lastOrderAt : Int := 0

/-! ## The page -/

variable (collation : Collation)

/-- The sort order of the lanes: the better score first, then the callsign. -/
def byScore (left right : PlayerScore) : Int :=
  if right.score - left.score ≠ 0 then right.score - left.score
  else collation.localeCompare left.callsign right.callsign

/-- `sort(byScore)`, which is stable. -/
def sortByScore (players : List PlayerScore) : List PlayerScore :=
  players.mergeSort fun left right => decide (byScore collation left right ≤ 0)

/-- `ranks.set` for every player, down the sorted list. -/
def rankPlayers (players : List PlayerScore) : Std.TreeMap String Nat :=
  Std.TreeMap.ofList ((rankWalk PlayerScore.score none 0 0 (sortByScore collation players)).map
    fun entry => (entry.1.badgeId, entry.2))

/-- `new Map(incoming.map(player => [player.badge_id, player]))`. -/
def byId (incoming : List PlayerScore) : Std.TreeMap String PlayerScore :=
  Std.TreeMap.ofList (incoming.map fun player => (player.badgeId, player))

/-- Whether `orderedPlayers` sorts the lanes anew. -/
def Lanes.settles (lanes : Lanes) (parsed : ParsedSnapshot) (now : Int) : Bool :=
  let known := lanes.laneOrder.filter (byId parsed.incoming).contains
  let joined := parsed.incoming.any fun player => !lanes.laneOrder.contains player.badgeId
  let settled := parsed.snapshot.status != .running
  settled || joined || known.length == 0 || decide (now - lanes.lastOrderAt ≥ orderSettleMs)

/-- The variables after `orderedPlayers`. -/
def Lanes.settle (lanes : Lanes) (parsed : ParsedSnapshot) (now : Int) : Lanes :=
  if lanes.settles parsed now then
    let sorted := sortByScore collation parsed.incoming
    { lanes with
      laneOrder := sorted.map (·.badgeId)
      settledRanks := rankPlayers collation sorted
      lastOrderAt := now }
  else
    { lanes with laneOrder := lanes.laneOrder.filter (byId parsed.incoming).contains }

/-- The players `orderedPlayers` returns. -/
def Lanes.players (lanes : Lanes) (parsed : ParsedSnapshot) : List PlayerScore :=
  (lanes.laneOrder.filterMap fun id => (byId parsed.incoming)[id]?).take maxLanes

/-- The start of `render`: another game starts from no lanes. -/
def Lanes.enterGame (lanes : Lanes) (parsed : ParsedSnapshot) : Lanes :=
  let gameId := parsed.snapshot.gameId.filter (· ≠ "")
  if gameId ≠ lanes.activeGameId then { activeGameId := gameId } else lanes

/-- What `render` makes of the variables. -/
def Lanes.render (lanes : Lanes) (parsed : ParsedSnapshot) (now : Int) : Lanes :=
  (lanes.enterGame parsed).settle collation parsed now

/-- `ranks.get(player.badge_id) ?? 0`. -/
def Lanes.rank (lanes : Lanes) (badgeId : String) : Nat :=
  (lanes.settledRanks[badgeId]?).getD 0

/-- The ranks of the painted lanes, in lane order. The lanes of a
finished round's winners carry a label instead. -/
def Lanes.shownRanks (lanes : Lanes) (parsed : ParsedSnapshot) : List Nat :=
  (lanes.players parsed).map fun player => lanes.rank player.badgeId

/-- Every snapshot is rendered at its time; what is left is the page
after the last of them. -/
def renderAll (lanes : Lanes) (renders : List (ParsedSnapshot × Int)) : Lanes :=
  renders.foldl (fun lanes render => lanes.render collation render.1 render.2) lanes

/-! ## Sorting -/

variable {collation}

theorem byScore_le_zero_iff {left right : PlayerScore} :
    byScore collation left right ≤ 0 ↔ right.score < left.score
      ∨ (right.score = left.score ∧ collation.localeCompare left.callsign right.callsign ≤ 0) := by
  unfold byScore
  by_cases htie : right.score - left.score = 0
  · have heq : right.score = left.score := by omega
    simp [heq]
  · rw [if_pos htie]
    omega

theorem byScore_total (left right : PlayerScore) :
    byScore collation left right ≤ 0 ∨ byScore collation right left ≤ 0 := by
  rw [byScore_le_zero_iff, byScore_le_zero_iff]
  rcases lt_trichotomy left.score right.score with h | h | h
  · exact .inr (.inl h)
  · rcases collation.total left.callsign right.callsign with hle | hle
    · exact .inl (.inr ⟨h.symm, hle⟩)
    · exact .inr (.inr ⟨h, hle⟩)
  · exact .inl (.inl h)

theorem byScore_trans {a b c : PlayerScore} (hab : byScore collation a b ≤ 0)
    (hbc : byScore collation b c ≤ 0) : byScore collation a c ≤ 0 := by
  rw [byScore_le_zero_iff] at hab hbc ⊢
  rcases hab with hab | ⟨hab, hnames⟩
  · rcases hbc with hbc | ⟨hbc, _⟩
    · exact .inl (hbc.trans hab)
    · exact .inl (by omega)
  · rcases hbc with hbc | ⟨hbc, hnames'⟩
    · exact .inl (by omega)
    · exact .inr ⟨hbc.trans hab, collation.trans _ _ _ hnames hnames'⟩

theorem sortByScore_perm (players : List PlayerScore) :
    (sortByScore collation players).Perm players :=
  List.mergeSort_perm _ _

theorem sortByScore_pairwise (players : List PlayerScore) :
    (sortByScore collation players).Pairwise fun a b => byScore collation a b ≤ 0 := by
  have hsorted := @List.pairwise_mergeSort _
    (fun left right => decide (byScore collation left right ≤ 0))
    (fun a b c hab hbc => by
      simp only [decide_eq_true_eq] at hab hbc ⊢
      exact byScore_trans hab hbc)
    (fun a b => by
      simp only [Bool.or_eq_true, decide_eq_true_eq]
      exact byScore_total a b) players
  exact hsorted.imp fun h => by simpa using h

/-- Where no two players tie in full, there is one order they can be in. -/
theorem sortByScore_eq {players sorted : List PlayerScore} (hperm : sorted.Perm players)
    (hsorted : sorted.Pairwise fun a b => byScore collation a b ≤ 0)
    (hanti : ∀ a ∈ sorted, ∀ b ∈ sorted, byScore collation a b ≤ 0 → byScore collation b a ≤ 0 →
      a = b) :
    sortByScore collation players = sorted := by
  have hall := (@sortByScore_perm collation players).trans hperm.symm
  exact hall.eq_of_pairwise (fun a b ha hb => hanti a (hall.mem_iff.mp ha) b hb)
    (sortByScore_pairwise players) hsorted

/-- The order of the lanes is by score, best first. -/
theorem sortByScore_scores (players : List PlayerScore) :
    (sortByScore collation players).Pairwise fun a b => b.score ≤ a.score := by
  refine (sortByScore_pairwise players).imp fun h => ?_
  rcases byScore_le_zero_iff.mp h with hlt | ⟨heq, _⟩
  · exact hlt.le
  · exact heq.le

/-! ## Ranks -/

/-- Each player is listed once. -/
theorem ParsedSnapshot.nodup_ids (parsed : ParsedSnapshot) :
    (parsed.incoming.map (·.badgeId)).Nodup := by
  rw [(parsed.perm.map (·.badgeId)).nodup_iff]
  have hkeys : parsed.snapshot.playerValues.map (·.badgeId) = parsed.snapshot.players.keys := by
    rw [← Std.TreeMap.map_fst_toList_eq_keys, ← parsed.keyed.map_badgeId, List.map_map]
    rfl
  rw [hkeys]
  exact Std.TreeMap.nodup_keys

theorem distinct_entries {β : Type*} {entries : List (String × β)}
    (h : (entries.map Prod.fst).Nodup) :
    entries.Pairwise fun a b => ¬ compare a.1 b.1 = .eq := by
  rw [List.nodup_iff_pairwise_ne, List.pairwise_map] at h
  exact h.imp fun hne heq => hne (compare_eq_iff_eq.mp heq)

/-- **The rank the page settles on is a place among the players.** -/
theorem rankPlayers_get {players : List PlayerScore} (h : (players.map (·.badgeId)).Nodup)
    {player : PlayerScore} (hplayer : player ∈ players) :
    (rankPlayers collation players)[player.badgeId]?
      = some (place PlayerScore.score players player.score) := by
  have hperm := @sortByScore_perm collation players
  have hids : ((sortByScore collation players).map (·.badgeId)).Nodup :=
    (hperm.map (·.badgeId)).nodup_iff.mpr h
  -- down the sorted list the walk gives places, and a place does not depend on the order
  unfold rankPlayers
  rw [rankWalk_sorted (sortByScore_scores players), List.map_map]
  apply Std.TreeMap.getElem?_ofList_of_mem (k := player.badgeId) (compare_eq_iff_eq.mpr rfl)
  · apply distinct_entries
    rw [List.map_map]
    exact hids
  · refine List.mem_map.mpr ⟨player, hperm.mem_iff.mpr hplayer, ?_⟩
    simp only [Function.comp_apply, place_perm hperm]

/-- **The TV and the badge count one place.** -/
theorem rankPlayers_eq_resultsPlace (parsed : ParsedSnapshot) {player : PlayerScore}
    (hplayer : player ∈ parsed.snapshot.playerValues) :
    (rankPlayers collation parsed.incoming)[player.badgeId]?
        = some (resultsPlace player.badgeId parsed.snapshot)
      ∧ resultsPlace player.badgeId parsed.snapshot = parsed.snapshot.placeOf player.score := by
  have hown : ownScore player.badgeId parsed.snapshot = player.score := by
    obtain ⟨badgeId, hget⟩ := GameSnapshot.mem_playerValues.mp hplayer
    have hkey := parsed.keyed badgeId player hget
    rw [hkey]
    exact ownScore_of_get hget
  have hplace : resultsPlace player.badgeId parsed.snapshot
      = parsed.snapshot.placeOf player.score := by
    rw [resultsPlace_eq, hown]
  refine ⟨?_, hplace⟩
  rw [rankPlayers_get parsed.nodup_ids (parsed.perm.mem_iff.mpr hplayer), hplace,
    GameSnapshot.placeOf, place_perm parsed.perm]

/-- The players the TV ranks first. -/
def rankOnePlayers (parsed : ParsedSnapshot) (ranks : Std.TreeMap String Nat) : List PlayerScore :=
  parsed.snapshot.playerValues.filter fun player => ranks[player.badgeId]? == some 1

/-- The winners are the callsigns of the players the TV ranks first. -/
theorem finish_winners_eq_rankOne (parsed : ParsedSnapshot) :
    parsed.snapshot.finish.winners
      = ((rankOnePlayers parsed (rankPlayers collation parsed.incoming)).map
          (·.callsign)).insertionSort (· ≤ ·) := by
  rw [GameSnapshot.finish_winners, GameSnapshot.topCallsigns_eq]
  congr 2
  apply List.filter_congr
  intro player hplayer
  obtain ⟨hrank, hplace⟩ := @rankPlayers_eq_resultsPlace collation parsed player hplayer
  rw [hrank, hplace, Bool.eq_iff_iff, beq_iff_eq, beq_iff_eq, Option.some.injEq]

/-! ## The lanes between settles -/

/-- The ranks of the lanes ascend in lane order. -/
def Lanes.Ascending (lanes : Lanes) : Prop :=
  (lanes.laneOrder.map lanes.rank).Pairwise (· ≤ ·)

/-- A settle puts the lanes in the order of their ranks. -/
theorem ascending_sorted (parsed : ParsedSnapshot) (gameId : Option String) (now : Int) :
    Lanes.Ascending
      { activeGameId := gameId
        laneOrder := (sortByScore collation parsed.incoming).map (·.badgeId)
        settledRanks := rankPlayers collation (sortByScore collation parsed.incoming)
        lastOrderAt := now } := by
  have hperm := @sortByScore_perm collation parsed.incoming
  have hids : ((sortByScore collation parsed.incoming).map (·.badgeId)).Nodup :=
    (hperm.map (·.badgeId)).nodup_iff.mpr parsed.nodup_ids
  unfold Lanes.Ascending
  rw [List.map_map, List.pairwise_map]
  refine (sortByScore_scores parsed.incoming).imp_of_mem ?_
  intro a b ha hb hscores
  simp only [Function.comp_apply, Lanes.rank, rankPlayers_get hids ha, rankPlayers_get hids hb,
    Option.getD_some]
  exact place_le_place hscores _

/-- **One snapshot keeps the ranks ascending**, settled or not. -/
theorem Lanes.Ascending.render {lanes : Lanes} (h : lanes.Ascending) (parsed : ParsedSnapshot)
    (now : Int) : (lanes.render collation parsed now).Ascending := by
  have henter : (lanes.enterGame parsed).Ascending := by
    unfold Lanes.enterGame
    dsimp only
    split
    · exact List.Pairwise.nil
    · exact h
  unfold Lanes.render Lanes.settle
  split
  · exact ascending_sorted parsed _ now
  · -- the lanes that stay keep their order and their settled ranks
    exact henter.sublist (List.filter_sublist.map _)

theorem ascending_renderAll {lanes : Lanes} (h : lanes.Ascending)
    (renders : List (ParsedSnapshot × Int)) : (renderAll collation lanes renders).Ascending := by
  induction renders generalizing lanes with
  | nil => exact h
  | cons render renders ih => exact ih (h.render render.1 render.2)

theorem byId_get (parsed : ParsedSnapshot) {player : PlayerScore}
    (h : player ∈ parsed.incoming) : (byId parsed.incoming)[player.badgeId]? = some player := by
  unfold byId
  apply Std.TreeMap.getElem?_ofList_of_mem (k := player.badgeId) (compare_eq_iff_eq.mpr rfl)
  · apply distinct_entries
    rw [List.map_map]
    exact parsed.nodup_ids
  · exact List.mem_map_of_mem (f := fun player => (player.badgeId, player)) h

theorem byId_badgeId (parsed : ParsedSnapshot) {id : String} {player : PlayerScore}
    (h : (byId parsed.incoming)[id]? = some player) : player.badgeId = id := by
  -- what the map holds for an id came from the list, under that id
  by_cases hlisted : ∃ other ∈ parsed.incoming, other.badgeId = id
  · obtain ⟨other, hother, rfl⟩ := hlisted
    rw [byId_get parsed hother] at h
    rw [Option.some.inj h]
  · have hnone : (byId parsed.incoming)[id]? = none := by
      apply Std.TreeMap.getElem?_ofList_of_contains_eq_false
      rw [List.map_map, List.contains_eq_mem, decide_eq_false_iff_not]
      intro hmem
      obtain ⟨other, hother, heq⟩ := List.mem_map.mp hmem
      exact hlisted ⟨other, hother, heq⟩
    rw [hnone] at h
    cases h

/-- The painted lanes are lanes of the order, in that order. -/
theorem players_sublist (lanes : Lanes) (parsed : ParsedSnapshot) :
    ((lanes.players parsed).map (·.badgeId)).Sublist lanes.laneOrder := by
  have hfound : ∀ order : List String, ((order.filterMap fun id =>
      (byId parsed.incoming)[id]?).map (·.badgeId)).Sublist order := by
    intro order
    induction order with
    | nil => exact .slnil
    | cons id order ih =>
        cases hget : (byId parsed.incoming)[id]? with
        | none =>
            rw [List.filterMap_cons_none hget]
            exact ih.cons id
        | some player =>
            rw [List.filterMap_cons_some hget, List.map_cons, byId_badgeId parsed hget]
            exact ih.cons_cons id
  exact ((List.take_sublist _ _).map _).trans (hfound lanes.laneOrder)

theorem Lanes.Ascending.shownRanks {lanes : Lanes} (h : lanes.Ascending)
    (parsed : ParsedSnapshot) : (lanes.shownRanks parsed).Pairwise (· ≤ ·) := by
  have hsub := (players_sublist lanes parsed).map lanes.rank
  rw [List.map_map] at hsub
  exact h.sublist hsub

/-- **TV, badge and Workflow agree on the standings**: the TV's rank is
the badge's place, the winners are the callsigns of rank one, and no
sequence of renders shows the ranks out of order. -/
theorem standings_agree (collation : Collation) :
    (∀ (parsed : ParsedSnapshot), ∀ player ∈ parsed.snapshot.playerValues,
        (rankPlayers collation parsed.incoming)[player.badgeId]?
            = some (resultsPlace player.badgeId parsed.snapshot)
          ∧ resultsPlace player.badgeId parsed.snapshot
            = 1 + (parsed.snapshot.playerValues.filter (·.score > player.score)).length)
      ∧ (∀ (parsed : ParsedSnapshot),
        parsed.snapshot.finish.winners
            = ((rankOnePlayers parsed (rankPlayers collation parsed.incoming)).map
                (·.callsign)).insertionSort (· ≤ ·)
          ∧ (parsed.snapshot.finish.winners = [] ↔ parsed.snapshot.playerValues = []))
      ∧ ∀ (renders : List (ParsedSnapshot × Int)) (parsed : ParsedSnapshot) (now : Int),
        (((renderAll collation {} renders).render collation parsed now).shownRanks
          parsed).Pairwise (· ≤ ·) := by
  refine ⟨fun parsed player hplayer => ?_, fun parsed => ?_, fun renders parsed now => ?_⟩
  · obtain ⟨hrank, hplace⟩ := @rankPlayers_eq_resultsPlace collation parsed player hplayer
    refine ⟨hrank, ?_⟩
    rw [hplace, GameSnapshot.placeOf, place, List.countP_eq_length_filter]
  · exact ⟨finish_winners_eq_rankOne parsed, GameSnapshot.winners_finish_eq_nil_iff⟩
  · have hstart : Lanes.Ascending {} := List.Pairwise.nil
    exact ((ascending_renderAll hstart renders).render parsed now).shownRanks parsed

/-! ## One game on the TV -/

/-- Two callsigns by their code points. -/
def compareCodePoints (left right : String) : Int :=
  if left < right then -1 else if left = right then 0 else 1

theorem compareCodePoints_le_zero_iff {left right : String} :
    compareCodePoints left right ≤ 0 ↔ left ≤ right := by
  unfold compareCodePoints
  split
  · next hlt => exact iff_of_true (by decide) hlt.le
  · next hlt =>
      split
      · next heq => exact iff_of_true (by decide) heq.le
      · next hne => exact iff_of_false (by decide) fun hle => hlt (lt_of_le_of_ne hle hne)

/-- A collation: the code points in their order. -/
def Collation.codePoints : Collation where
  localeCompare := compareCodePoints
  total a b := by
    simp only [compareCodePoints_le_zero_iff]
    exact le_total a b
  trans a b c := by
    simp only [compareCodePoints_le_zero_iff]
    exact le_trans

/-- The snapshot some events of a round lead to. -/
def snapshotAfter (events : List Event)
    (h : (Round.busyRound.system.exec [] { clock := 0 } events).isSome = true) : ParsedSnapshot :=
  .ofRun (StepSystem.exec_run ⟨0, rfl⟩ (Option.some_get h).symm)

/-- A player of the round, with `correct` right answers. -/
def lanePlayer (badgeId callsign : String) (correct : Nat) : PlayerScore :=
  { badgeId, callsign, score := correct, correct }

/-- Two badges that are asked. -/
def tiedEvents : List Event :=
  [.start, .iterate,
    .badgeStarted { badgeId := "badge-a", callsign := "A", questionId := "demo-go", attempt := 1 },
    .badgeStarted { badgeId := "badge-b", callsign := "B", questionId := "demo-go", attempt := 2 }]

/-- Then the second one is right. -/
def scoredEvents : List Event :=
  tiedEvents ++ [.advance 100,
    .completed 0 (.ok { Round.demoAnswer with badgeId := "badge-b", callsign := "B" })]

/-- And then a third one joins. -/
def joinedEvents : List Event :=
  scoredEvents ++ [.iterate, .advance 200,
    .badgeStarted
      { badgeId := "badge-c", callsign := "C", questionId := "demo-rust", attempt := 1 }]

/-- Two tied badges keep their lanes and their rank while one of them
scores, until a third one joins: then the TV has the places again, and the
winner. -/
theorem standings_agree_joined :
    let tied := snapshotAfter tiedEvents (by decide +kernel)
    let scored := snapshotAfter scoredEvents (by decide +kernel)
    let joined := snapshotAfter joinedEvents (by decide +kernel)
    let lanes := renderAll .codePoints {} [(tied, 0), (scored, 100)]
    let ranks := rankPlayers .codePoints joined.incoming
    lanes.shownRanks scored = [1, 1]
      ∧ (lanes.render .codePoints joined 200).shownRanks joined = [1, 2, 2]
      ∧ ((lanes.render .codePoints joined 200).shownRanks joined).Pairwise (· ≤ ·)
      ∧ ranks["badge-a"]? = some 2 ∧ resultsPlace "badge-a" joined.snapshot = 2
      ∧ (rankOnePlayers joined ranks).map (·.callsign) = ["B"] := by
  let asked := lanePlayer "badge-a" "A" 0
  let right := lanePlayer "badge-b" "B" 1
  let late := lanePlayer "badge-c" "C" 0
  have htied : (snapshotAfter tiedEvents (by decide +kernel)).incoming
      = [asked, lanePlayer "badge-b" "B" 0] := by decide +kernel
  have hscored : (snapshotAfter scoredEvents (by decide +kernel)).incoming = [asked, right] := by
    decide +kernel
  have hjoined : (snapshotAfter joinedEvents (by decide +kernel)).incoming
      = [asked, right, late] := by decide +kernel
  have hsortTied : sortByScore .codePoints [asked, lanePlayer "badge-b" "B" 0]
      = [asked, lanePlayer "badge-b" "B" 0] :=
    sortByScore_eq (.refl _) (by decide +kernel) (by decide +kernel)
  have hsortJoined : sortByScore .codePoints [asked, right, late] = [right, asked, late] :=
    sortByScore_eq (by decide +kernel) (by decide +kernel) (by decide +kernel)
  have hsorted : sortByScore .codePoints [right, asked, late] = [right, asked, late] :=
    sortByScore_eq (.refl _) (by decide +kernel) (by decide +kernel)
  obtain ⟨hplaces, hwinners, hascending⟩ := standings_agree .codePoints
  obtain ⟨hrank, hplace⟩ := hplaces (snapshotAfter joinedEvents (by decide +kernel)) asked
    (by decide +kernel)
  have htwo :
      resultsPlace "badge-a" (snapshotAfter joinedEvents (by decide +kernel)).snapshot = 2 :=
    hplace.trans (by decide +kernel)
  refine ⟨?_, ?_, hascending _ _ 200, hrank.trans (congrArg some htwo), htwo, ?_⟩
  · simp only [renderAll, List.foldl, Lanes.render, Lanes.settle, Lanes.settles, rankPlayers,
      Lanes.shownRanks, Lanes.players, htied, hscored, hsortTied]
    decide +kernel
  · simp only [renderAll, List.foldl, Lanes.render, Lanes.settle, Lanes.settles, rankPlayers,
      Lanes.shownRanks, Lanes.players, htied, hscored, hjoined, hsortTied, hsortJoined, hsorted]
    decide +kernel
  · -- one winner, so sorting the callsigns changes nothing
    have hone := (hwinners (snapshotAfter joinedEvents (by decide +kernel))).1.symm.trans
      (by decide +kernel : _ = ["B"])
    have hperm := List.perm_insertionSort (· ≤ ·) ((rankOnePlayers
      (snapshotAfter joinedEvents (by decide +kernel))
      (rankPlayers .codePoints (snapshotAfter joinedEvents (by decide +kernel)).incoming)).map
        (·.callsign))
    rw [hone] at hperm
    exact List.perm_singleton.mp hperm.symm

end DurableTrivia.Web

import DurableTrivia.Web.EndRound

/-!
# Index — the search attributes of a round

What the visibility store shows of a round is the last value of every
attribute that the Workflow upserted. The Workflow saves upserts: a
signal writes the two running attributes only where one of them changed.
So the index may lag, and here is by how much: the handoffs it shows are
always those of the snapshot, and the badges it shows are never more.

The lag is real. A badge whose first sign of life is a panic or an
answer is on the roster before any signal of it joined.
-/

namespace DurableTrivia.Web

open DurableTrivia.Shared DurableTrivia.Lib

/-! ## The index -/

/-- Search attributes by name. -/
abbrev Attributes := List (String × AttributeValue)

/-- What the visibility store shows: a value for each attribute it has. -/
abbrev Index := String → Option AttributeValue

/-- The index after an upsert. -/
def Index.upsert (index : Index) (attributes : Attributes) : Index :=
  fun name => (attributes.lookup name).or (index name)

/-- The index after some upserts, oldest first. -/
def indexed (upserts : List Attributes) : Index := upserts.foldl Index.upsert fun _ => none

@[simp] theorem indexed_append (upserts : List Attributes) (attributes : Attributes) :
    indexed (upserts ++ [attributes]) = (indexed upserts).upsert attributes := by
  simp [indexed]

/-- The attributes a command upserts. -/
def Command.attributes : Command → Option Attributes
  | .upsertSearchAttributes attributes => some attributes
  | .scheduleActivity _ _ _ _ | .upsertMemo _ _ => none

/-- The upserts issued so far, oldest first. -/
def State.upserts (s : State) : List Attributes := s.commands.filterMap Command.attributes

/-- Every upsert changes the index. -/
def Telling (upserts : List Attributes) : Prop :=
  ∀ earlier attributes later, upserts = earlier ++ attributes :: later →
    (indexed earlier).upsert attributes ≠ indexed earlier

theorem telling_nil : Telling [] := by
  intro earlier attributes later h
  simp at h

/-- One more upsert that changes the index. -/
theorem Telling.append {upserts : List Attributes} (h : Telling upserts) {attributes : Attributes}
    (hnew : (indexed upserts).upsert attributes ≠ indexed upserts) :
    Telling (upserts ++ [attributes]) := by
  intro earlier other later heq
  rcases List.append_eq_append_iff.mp heq with ⟨between, rfl, hlast⟩ | ⟨between, rfl, hlast⟩
  · cases between with
    | nil =>
        obtain ⟨rfl, rfl⟩ := List.cons_eq_cons.mp hlast
        simpa using hnew
    | cons head tail => simp at hlast
  · cases between with
    | nil =>
        obtain ⟨rfl, rfl⟩ := List.cons_eq_cons.mp hlast.symm
        simpa using hnew
    | cons head tail =>
        obtain ⟨rfl, rfl⟩ := List.cons_eq_cons.mp hlast
        exact h earlier other tail rfl

/-- The five attributes at once. -/
structure Index.Shows (index : Index) (status winner : String) (badges reassignments : Nat) :
    Prop where
  status : index "TriviaGameStatus" = some (.keyword status)
  winner : index "TriviaWinner" = some (.keyword winner)
  badges : index "TriviaBadgeCount" = some (.int badges)
  reassignments : index "TriviaReassignments" = some (.int reassignments)
  rustSdk : index "TriviaRustSdk" = some (.bool true)

/-! ## What the index is about -/

namespace GameWorkflow

/-- How many badges are on the roster. -/
def badges (wf : GameWorkflow) : Nat := wf.snapshot.players.size

/-- The two running attributes, as a signal writes them. -/
def runningAttributes (wf : GameWorkflow) : Attributes :=
  [("TriviaBadgeCount", .int wf.badges), ("TriviaReassignments", .int wf.snapshot.reassignments)]

/-- `wf'` comes after `wf`, and its two attributes differ by nothing that
a signal wrote. -/
structure Silent (wf wf' : GameWorkflow) : Prop where
  indexing : wf'.indexSearchAttributes = wf.indexSearchAttributes
  badges : wf.badges ≤ wf'.badges
  reassignments : wf'.snapshot.reassignments = wf.snapshot.reassignments

theorem Silent.refl (wf : GameWorkflow) : Silent wf wf := ⟨rfl, Nat.le_refl _, rfl⟩

theorem Silent.trans {wf wf' wf'' : GameWorkflow} (h : Silent wf wf') (h' : Silent wf' wf'') :
    Silent wf wf'' :=
  ⟨h'.indexing.trans h.indexing, Nat.le_trans h.badges h'.badges,
    h'.reassignments.trans h.reassignments⟩

variable (wf : GameWorkflow) (event : BadgeEvent)

theorem badges_upsertPlayer (players : Std.TreeMap String PlayerScore) (badgeId callsign : String)
    (change : PlayerScore → PlayerScore) :
    players.size ≤ (upsertPlayer players badgeId callsign change).size :=
  Std.TreeMap.size_le_size_insert

theorem silent_panicEvent : Silent wf (wf.panicEvent event) :=
  ⟨rfl, badges_upsertPlayer _ _ _ _, rfl⟩

theorem silent_recordAnswer (question : Question) (answer : BadgeAnswer) (nowUnixMs : Nat) :
    Silent wf (wf.recordAnswer question answer nowUnixMs).1 := by
  unfold recordAnswer
  split
  · exact ⟨rfl, Nat.le_refl _, rfl⟩
  · exact ⟨rfl, badges_upsertPlayer _ _ _ _, rfl⟩

/-! ### The signal of a start -/

theorem recordAttempt_reassignments :
    (wf.recordAttempt event).snapshot.reassignments = wf.snapshot.reassignments := by
  unfold recordAttempt
  dsimp only
  split <;> rfl

/-- A start hands its question over, or it does not. -/
theorem recordActivityStarted_shown :
    (wf.recordActivityStarted event).1.indexSearchAttributes = wf.indexSearchAttributes
      ∧ (wf.recordActivityStarted event).1.snapshot.players = wf.snapshot.players
      ∧ (wf.recordActivityStarted event).1.snapshot.reassignments
        = wf.snapshot.reassignments + (wf.recordActivityStarted event).2.toNat := by
  refine ⟨?_, congrArg Books.players (books_recordActivityStarted wf event), ?_⟩
  · unfold recordActivityStarted
    split <;> rfl
  · unfold recordActivityStarted
    split
    · exact recordAttempt_reassignments _ event
    · exact recordAttempt_reassignments wf event

theorem join_shown :
    (wf.join event).indexSearchAttributes = wf.indexSearchAttributes
      ∧ (wf.join event).snapshot.reassignments = wf.snapshot.reassignments
      ∧ (wf.join event).badges
        = wf.badges + (!wf.snapshot.players.contains event.badgeId).toNat := by
  unfold join
  split
  · next hknown => exact ⟨rfl, rfl, by simp [hknown]⟩
  · next hnew =>
      refine ⟨rfl, rfl, ?_⟩
      show (wf.snapshot.players.insert event.badgeId _).size = _
      rw [Std.TreeMap.size_insert, if_neg hnew]
      simp [hnew, badges]

/-- **The signal of a start** counts a badge that joins and a question
that changes hands, and writes both attributes where it counted one. -/
theorem badgeStarted_shown : ∃ joined reassigned : Bool,
    (wf.badgeStarted event).1.indexSearchAttributes = wf.indexSearchAttributes
      ∧ (wf.badgeStarted event).1.badges = wf.badges + joined.toNat
      ∧ (wf.badgeStarted event).1.snapshot.reassignments
        = wf.snapshot.reassignments + reassigned.toNat
      ∧ (wf.badgeStarted event).2 =
        if shouldUpsertRunningAttributes wf.indexSearchAttributes joined reassigned then
          [.upsertSearchAttributes (wf.badgeStarted event).1.runningAttributes]
        else [] := by
  obtain ⟨hindexing, hplayers, hreassignments⟩ := wf.recordActivityStarted_shown event
  obtain ⟨hindexing', hreassignments', hbadges'⟩ :=
    (wf.recordActivityStarted event).1.join_shown event
  refine ⟨!(wf.recordActivityStarted event).1.snapshot.players.contains event.badgeId,
    (wf.recordActivityStarted event).2, hindexing'.trans hindexing, ?_,
    hreassignments'.trans hreassignments, ?_⟩
  · have hbadges : (wf.recordActivityStarted event).1.badges = wf.badges :=
      congrArg Std.TreeMap.size hplayers
    rw [← hbadges]
    exact hbadges'
  · rw [← hindexing, ← hindexing']
    rfl

end GameWorkflow

/-! ## The invariant -/

/-- The index of a round that runs: no badge too many, no handoff too few,
and no upsert without one of either. -/
def Tracks (upserts : List Attributes) (wf : GameWorkflow) : Prop :=
  ∃ badges ≤ wf.badges, (indexed upserts).Shows "Running" "" badges wf.snapshot.reassignments
    ∧ upserts.length ≤ 1 + badges + wf.snapshot.reassignments

theorem Tracks.silent {upserts : List Attributes} {wf wf' : GameWorkflow} (h : Tracks upserts wf)
    (hsilent : wf.Silent wf') : Tracks upserts wf' := by
  obtain ⟨badges, hle, hshows, hlength⟩ := h
  refine ⟨badges, Nat.le_trans hle hsilent.badges, ?_, ?_⟩
  · rwa [hsilent.reassignments]
  · rwa [hsilent.reassignments]

/-- **One upsert of a signal** brings both attributes up to date. -/
theorem Tracks.upsert {upserts : List Attributes} {wf wf' : GameWorkflow} (h : Tracks upserts wf)
    (hbadges : wf.badges ≤ wf'.badges)
    (hreassignments : wf.snapshot.reassignments ≤ wf'.snapshot.reassignments)
    (hmore : wf.badges < wf'.badges ∨ wf.snapshot.reassignments < wf'.snapshot.reassignments) :
    Tracks (upserts ++ [wf'.runningAttributes]) wf'
      ∧ (indexed upserts).upsert wf'.runningAttributes ≠ indexed upserts := by
  obtain ⟨badges, hle, hshows, hlength⟩ := h
  constructor
  · refine ⟨wf'.badges, Nat.le_refl _, ?_, ?_⟩
    · rw [indexed_append]
      exact ⟨hshows.status, hshows.winner, rfl, rfl, hshows.rustSdk⟩
    · rw [List.length_append, List.length_singleton]
      omega
  · intro hsame
    have hnewBadges : indexed upserts "TriviaBadgeCount" = some (.int wf'.badges) := by
      rw [← hsame]
      rfl
    have hnewReassignments :
        indexed upserts "TriviaReassignments" = some (.int wf'.snapshot.reassignments) := by
      rw [← hsame]
      rfl
    rw [hshows.badges] at hnewBadges
    rw [hshows.reassignments] at hnewReassignments
    injections
    omega

namespace Round
variable {r : Round}

/-- What holds of the index in every run. -/
structure IndexInvariant (r : Round) (s : State) : Prop where
  unstarted : s.phase = .unstarted → s.upserts = [] ∧ s.wf.indexSearchAttributes = false
  indexing : s.phase ≠ .unstarted → s.wf.indexSearchAttributes = r.input.indexSearchAttributes
  off : r.input.indexSearchAttributes = false → s.upserts = []
  telling : Telling s.upserts
  running : r.input.indexSearchAttributes = true → s.phase ≠ .unstarted →
    (∀ exit result, s.phase ≠ .returned exit result) → Tracks s.upserts s.wf
  returned : r.input.indexSearchAttributes = true → ∀ exit result, s.phase = .returned exit result →
    (indexed s.upserts).Shows "Finished" (" + ".intercalate result.winners) result.players.size
        result.reassignments
      ∧ s.upserts.length ≤ 2 + result.players.size + result.reassignments

/-- A step without an upsert. -/
theorem IndexInvariant.silent {s s' : State} (h : IndexInvariant r s)
    (hupserts : s'.upserts = s.upserts) (hsilent : s.wf.Silent s'.wf)
    (hstarted : s'.phase = .unstarted ↔ s.phase = .unstarted)
    (hopen : ∀ exit result, s.phase ≠ .returned exit result)
    (hopen' : ∀ exit result, s'.phase ≠ .returned exit result) : IndexInvariant r s' where
  unstarted hphase := by
    rw [hupserts, hsilent.indexing]
    exact h.unstarted (hstarted.mp hphase)
  indexing hphase := by
    rw [hsilent.indexing]
    exact h.indexing fun hno => hphase (hstarted.mpr hno)
  off hoff := by
    rw [hupserts]
    exact h.off hoff
  telling := by
    rw [hupserts]
    exact h.telling
  running hon hphase _ := by
    rw [hupserts]
    exact (h.running hon (fun hno => hphase (hstarted.mpr hno)) hopen).silent hsilent
  returned _ exit result hphase := absurd hphase (hopen' exit result)

/-- Scheduling issues commands, but no upsert. -/
theorem schedule_silent (s : State) (deadlineUnixMs : Nat) :
    (r.schedule s deadlineUnixMs).upserts = s.upserts
      ∧ s.wf.Silent (r.schedule s deadlineUnixMs).wf := by
  unfold schedule
  refine scheduleQuestions_keeps
    (P := fun s' => s'.upserts = s.upserts ∧ s.wf.Silent s'.wf) ?_ ?_ ⟨rfl, .refl _⟩
  · intro s' question deck h _
    refine ⟨?_, h.2.trans ?_⟩
    · rw [← h.1]
      simp [State.upserts, scheduleOne, Command.attributes]
    · unfold scheduleOne
      dsimp only
      split <;> exact ⟨rfl, Nat.le_refl _, rfl⟩
  · intro s' deck h _
    exact h

theorem iterate_silent (s : State) :
    (r.iterate s).upserts = s.upserts ∧ s.wf.Silent (r.iterate s).wf
      ∧ (r.iterate s).phase ≠ .unstarted
      ∧ ∀ exit result, (r.iterate s).phase ≠ .returned exit result := by
  obtain ⟨hupserts, hsilent⟩ := schedule_silent (r := r) s.sweep (effectiveDeadline s)
  have hsweep : s.wf.Silent s.sweep.wf := ⟨rfl, Nat.le_refl _, rfl⟩
  have hit := iterated_iterate r s
  revert hit
  generalize r.iterate s = s'
  intro hit
  cases hit with
  | deadline _ => exact ⟨rfl, hsweep, by simp, by simp⟩
  | exhausted _ _ _ =>
      exact ⟨hupserts, (hsweep.trans hsilent).trans ⟨rfl, Nat.le_refl _, rfl⟩, by simp, by simp⟩
  | sleeping _ _ _ _ => exact ⟨hupserts, hsweep.trans hsilent, by simp, by simp⟩
  | selecting _ _ _ => exact ⟨hupserts, hsweep.trans hsilent, by simp, by simp⟩

/-- Where handlers run, the round has not returned. -/
theorem open_of_waiting {s : State} (h : s.phase.waiting = true) :
    ∀ exit result, s.phase ≠ .returned exit result := by
  intro exit result hphase
  rw [hphase] at h
  cases h

theorem indexInvariant_badgeStarted {s : State} (h : IndexInvariant r s)
    (hwait : s.phase.waiting = true) (event : BadgeEvent) :
    IndexInvariant r { s with
      wf := (s.wf.badgeStarted event).1
      commands := s.commands ++ (s.wf.badgeStarted event).2 } := by
  obtain ⟨joined, reassigned, hindexing, hbadges, hreassignments, hcommands⟩ :=
    s.wf.badgeStarted_shown event
  have hopen := open_of_waiting hwait
  cases hup : shouldUpsertRunningAttributes s.wf.indexSearchAttributes joined reassigned with
  | true =>
      rw [if_pos hup] at hcommands
      obtain ⟨hon, hchanged⟩ := Bool.and_eq_true_iff.mp hup
      have hstarted : s.phase ≠ .unstarted := by
        intro hphase
        rw [(h.unstarted hphase).2] at hon
        cases hon
      have hinput : r.input.indexSearchAttributes = true := (h.indexing hstarted).symm.trans hon
      have hupserts : State.upserts { s with
            wf := (s.wf.badgeStarted event).1
            commands := s.commands ++ (s.wf.badgeStarted event).2 }
          = s.upserts ++ [(s.wf.badgeStarted event).1.runningAttributes] := by
        simp [State.upserts, hcommands, Command.attributes]
      have hmore : s.wf.badges < (s.wf.badgeStarted event).1.badges
          ∨ s.wf.snapshot.reassignments < (s.wf.badgeStarted event).1.snapshot.reassignments := by
        rw [hbadges, hreassignments]
        rcases Bool.or_eq_true_iff.mp hchanged with rfl | rfl
        · exact .inl (Nat.lt_succ_self _)
        · exact .inr (Nat.lt_succ_self _)
      obtain ⟨htracks, hnew⟩ := (h.running hinput hstarted hopen).upsert
        (by rw [hbadges]; exact Nat.le_add_right _ _)
        (by rw [hreassignments]; exact Nat.le_add_right _ _) hmore
      exact
        { unstarted := fun hphase => absurd hphase hstarted
          indexing := fun _ => hindexing.trans (h.indexing hstarted)
          off := fun hoff => by rw [hinput] at hoff; cases hoff
          telling := by
            rw [hupserts]
            exact h.telling.append hnew
          running := fun _ _ _ => by
            rw [hupserts]
            exact htracks
          returned := fun _ exit result hphase => absurd hphase (hopen exit result) }
  | false =>
      rw [if_neg (by simp [hup])] at hcommands
      have hupserts : State.upserts { s with
            wf := (s.wf.badgeStarted event).1
            commands := s.commands ++ (s.wf.badgeStarted event).2 } = s.upserts := by
        simp [State.upserts, hcommands]
      exact
        { unstarted := fun hphase => by
            rw [hupserts]
            exact ⟨(h.unstarted hphase).1, hindexing.trans (h.unstarted hphase).2⟩
          indexing := fun hphase => hindexing.trans (h.indexing hphase)
          off := fun hoff => by
            rw [hupserts]
            exact h.off hoff
          telling := by
            rw [hupserts]
            exact h.telling
          running := fun hon hphase hstill => by
            -- an indexed round writes nothing only where nothing changed
            have hindexed : s.wf.indexSearchAttributes = true := (h.indexing hphase).trans hon
            have hquiet : joined = false ∧ reassigned = false := by
              simpa [shouldUpsertRunningAttributes, hindexed] using hup
            obtain ⟨rfl, rfl⟩ := hquiet
            rw [hupserts]
            exact (h.running hon hphase hstill).silent
              ⟨hindexing, Nat.le_of_eq hbadges.symm, hreassignments⟩
          returned := fun _ exit result hphase => absurd hphase (hopen exit result) }

theorem indexInvariant_start {s : State} (h : IndexInvariant r s) (hphase : s.phase = .unstarted) :
    IndexInvariant r (r.start s) := by
  have hnone : s.commands.filterMap Command.attributes = [] := (h.unstarted hphase).1
  have hupserts : (r.start s).upserts
      = if r.input.indexSearchAttributes then [runningSearchAttributes] else [] := by
    unfold State.upserts start
    split <;> simp [hnone, Command.attributes]
  have hroster : (r.openingSnapshot s.clock).reassignments = 0 := by
    unfold openingSnapshot
    dsimp only
    split <;> rfl
  exact
    { unstarted := fun hno => by cases hno
      indexing := fun _ => rfl
      off := fun hoff => by simp [hupserts, hoff]
      telling := by
        rw [hupserts]
        split
        · refine telling_nil.append fun hsame => ?_
          have hstatus := congrFun hsame "TriviaGameStatus"
          simp [Index.upsert, indexed, runningSearchAttributes] at hstatus
        · exact telling_nil
      running := fun hon _ _ => by
        rw [hupserts, if_pos hon]
        refine ⟨0, Nat.zero_le _, ?_, by simp⟩
        show (indexed [runningSearchAttributes]).Shows "Running" "" 0
          (r.openingSnapshot s.clock).reassignments
        rw [hroster]
        exact ⟨rfl, rfl, rfl, rfl, rfl⟩
      returned := fun _ exit result hno => by cases hno }

theorem indexInvariant_close {s : State} (h : IndexInvariant r s) {exit : Exit}
    (hphase : s.phase = .closing exit) (memoError : Option String) :
    IndexInvariant r (r.close s exit memoError) := by
  have hopen : ∀ exit result, s.phase ≠ .returned exit result := by simp [hphase]
  have hstarted : s.phase ≠ .unstarted := by simp [hphase]
  have hupserts : (r.close s exit memoError).upserts
      = s.upserts ++ if r.input.indexSearchAttributes then
          [finishedSearchAttributes (r.close s exit memoError).wf.snapshot] else [] := by
    unfold State.upserts close
    cases r.input.indexSearchAttributes <;> cases memoError <;>
      simp [Command.attributes, List.filterMap_cons]
  have hsize : (r.close s exit memoError).wf.badges = s.wf.badges := by
    cases memoError <;> rfl
  have hreassignments : (r.close s exit memoError).wf.snapshot.reassignments
      = s.wf.snapshot.reassignments := by
    cases memoError <;> rfl
  exact
    { unstarted := fun hno => by cases hno
      indexing := fun _ => h.indexing hstarted
      off := fun hoff => by simp [hupserts, hoff, h.off hoff]
      telling := by
        rw [hupserts]
        split
        · next hon =>
            obtain ⟨badges, hle, hshows, hlength⟩ := h.running hon hstarted hopen
            refine h.telling.append fun hsame => ?_
            have hstatus := congrFun hsame "TriviaGameStatus"
            rw [hshows.status] at hstatus
            simp [Index.upsert, finishedSearchAttributes] at hstatus
        · rw [List.append_nil]
          exact h.telling
      running := fun _ _ hno => absurd rfl (hno exit _)
      returned := fun hon exit' result hreturned => by
        obtain ⟨badges, hle, hshows, hlength⟩ := h.running hon hstarted hopen
        obtain ⟨rfl, rfl⟩ : exit = exit' ∧ (r.close s exit memoError).wf.snapshot = result := by
          simpa [close] using hreturned
        rw [hupserts, if_pos hon]
        refine ⟨?_, ?_⟩
        · rw [indexed_append]
          exact ⟨rfl, rfl, rfl, rfl, hshows.rustSdk⟩
        · have hroster : s.wf.badges = (r.close s exit memoError).wf.snapshot.players.size :=
            hsize.symm
          rw [List.length_append, List.length_singleton, ← hroster, hreassignments]
          omega }

theorem indexInvariant_step {s s' : State} {e : Event} (h : IndexInvariant r s)
    (hs : r.step s e = some s') : IndexInvariant r s' := by
  have ht := transition_of_step hs
  cases ht with
  | advance hwait hle =>
      exact h.silent rfl (.refl _) Iff.rfl (open_of_waiting hwait) (open_of_waiting hwait)
  | badgeStarted hwait => exact indexInvariant_badgeStarted h hwait _
  | panicEvent hwait =>
      exact h.silent rfl (s.wf.silent_panicEvent _) Iff.rfl (open_of_waiting hwait)
        (open_of_waiting hwait)
  | recovered hwait | applyChaos hwait hvalid | endRound hwait hvalid =>
      exact h.silent rfl ⟨rfl, Nat.le_refl _, rfl⟩ Iff.rfl (open_of_waiting hwait)
        (open_of_waiting hwait)
  | start hphase => exact indexInvariant_start h hphase
  | iterate hphase =>
      obtain ⟨hupserts, hsilent, hstarted, hopen⟩ := iterate_silent (r := r) s
      exact h.silent hupserts hsilent (iff_of_false hstarted (by simp [hphase]))
        (by simp [hphase]) hopen
  | tick hphase hdue =>
      have hstarted : s.phase ≠ .unstarted := by
        intro hno
        rw [hno] at hphase
        cases hphase
      have hopen : ∀ exit result, s.phase ≠ .returned exit result := by
        intro exit result hno
        rw [hno] at hphase
        cases hphase
      exact h.silent rfl (.refl _) (iff_of_false (by simp) hstarted) hopen (by simp)
  | @completed dueUnixMs index outstanding result hphase hget =>
      have hcommands := (locals_complete s index outstanding result).2.2.2.1
      have hphase' := phase_complete s index outstanding result
      refine h.silent (by simp [State.upserts, hcommands]) ?_ (iff_of_false ?_ (by simp [hphase]))
        (by simp [hphase]) ?_
      · cases result with
        | error error => exact ⟨rfl, Nat.le_refl _, rfl⟩
        | ok answer => exact s.wf.silent_recordAnswer outstanding.question answer s.clock
      · rcases hphase' with hhead | hclosing
        · simp [hhead]
        · simp [hclosing]
      · rcases hphase' with hhead | hclosing
        · simp [hhead]
        · simp [hclosing]
  | drained hphase hempty =>
      exact h.silent rfl (.refl _) (iff_of_false (by simp) (by simp [hphase])) (by simp [hphase])
        (by simp)
  | close hphase => exact indexInvariant_close h hphase _

/-- **The index of a round.** In every run an indexed round shows its
handoffs as they are and never a badge too many; every upsert changes
what is shown, so that there are at most two more of them than badges and
handoffs together; and the round it returned with is shown exactly. A
round that is not indexed upserts nothing. -/
theorem index_run {s : State} (h : r.system.Reachable s) :
    (r.input.indexSearchAttributes = false → s.upserts = [])
      ∧ Telling s.upserts
      ∧ (r.input.indexSearchAttributes = true → s.phase ≠ .unstarted →
        (∀ exit result, s.phase ≠ .returned exit result) →
        ∃ badges ≤ s.wf.snapshot.players.size,
          (indexed s.upserts).Shows "Running" "" badges s.wf.snapshot.reassignments
            ∧ s.upserts.length ≤ 1 + badges + s.wf.snapshot.reassignments)
      ∧ (r.input.indexSearchAttributes = true → ∀ exit result, s.phase = .returned exit result →
        (indexed s.upserts).Shows "Finished" (" + ".intercalate result.winners) result.players.size
            result.reassignments
          ∧ s.upserts.length ≤ 2 + result.players.size + result.reassignments) := by
  have hinv : IndexInvariant r s := by
    refine h.invariant (I := IndexInvariant r) ?_ fun s e s' => indexInvariant_step
    rintro s₀ ⟨clock, rfl⟩
    exact ⟨fun _ => ⟨rfl, rfl⟩, fun hno => absurd rfl hno, fun _ => rfl, telling_nil,
      fun _ hno => absurd rfl hno, fun _ exit result hno => by cases hno⟩
  exact ⟨hinv.off, hinv.telling, hinv.running, hinv.returned⟩

/-- A busy round that is indexed. -/
def indexedRound : Round :=
  { busyRound with input := { busyRound.input with indexSearchAttributes := true } }

/-- One badge joined, and another one crashed before any start of it. -/
theorem index_run_lagging :
    ∃ s, indexedRound.system.Reachable s ∧ s.wf.snapshot.players.size = 2
      ∧ ∃ badges ≤ 2,
        (indexed s.upserts).Shows "Running" "" badges s.wf.snapshot.reassignments := by
  obtain ⟨hist, s, hrun, htest⟩ := StepSystem.exists_run_of_exec (S := indexedRound.system)
    { clock := 0 }
    [.start, .iterate,
      .badgeStarted
        { badgeId := "badge-b", callsign := "B", questionId := "demo-go", attempt := 1 },
      .panicEvent { badgeId := "badge-a", callsign := "A", questionId := "demo-go", attempt := 1 }]
    (fun result => result.2.wf.snapshot.players.size == 2 && result.2.phase.waiting
      && result.2.phase.due.isSome)
    ⟨0, rfl⟩ (by decide +kernel)
  simp only [Bool.and_eq_true, beq_iff_eq] at htest
  obtain ⟨⟨hsize, hwait⟩, hdue⟩ := htest
  have hstarted : s.phase ≠ .unstarted := by
    intro hphase
    rw [hphase] at hdue
    cases hdue
  obtain ⟨badges, hle, hshows, _⟩ :=
    (index_run hrun.reachable).2.2.1 rfl hstarted (open_of_waiting hwait)
  exact ⟨s, hrun.reachable, hsize, badges, hsize ▸ hle, hshows⟩

end Round

end DurableTrivia.Web

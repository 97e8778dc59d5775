import DurableTrivia.Shared.Wire

/-!
# History — payloads that already exist

Every contract type is serialized into Temporal History, so a payload
that some version of the program wrote has to keep decoding. `Older`
says, type by type, what a payload of another version may have lost: a
field that came later is read as its default, and nothing else changes.

Representation. A roster has one shape here, the one its sorted entries
build (`canonical`), since a map read back is built anew. It is the same
map, entry by entry.
-/

namespace DurableTrivia.Shared

open Lib

/-! ## What an older payload may have lost -/

/-- What a task of an older history may lack. -/
structure QuestionTask.Older (t t' : QuestionTask) : Prop where
  gameId : t'.gameId = t.gameId
  deadlineUnixMs : t'.deadlineUnixMs = t.deadlineUnixMs
  maxDeadlineUnixMs : t'.maxDeadlineUnixMs = t.maxDeadlineUnixMs ∨ t'.maxDeadlineUnixMs = 0
  question : t'.question = t.question

/-- What a signal of an older history may lack. -/
structure BadgeEvent.Older (e e' : BadgeEvent) : Prop where
  badgeId : e'.badgeId = e.badgeId
  callsign : e'.callsign = e.callsign
  questionId : e'.questionId = e.questionId
  attempt : e'.attempt = e.attempt ∨ e'.attempt = 1

/-- What a reassignment of an older history may lack. -/
structure Reassignment.Older (r r' : Reassignment) : Prop where
  questionId : r'.questionId = r.questionId
  fromCallsign : r'.fromCallsign = r.fromCallsign
  toCallsign : r'.toCallsign = r.toCallsign
  reason : r'.reason = r.reason
  attempt : r'.attempt = r.attempt ∨ r'.attempt = 1

/-- What a failure of an older history may lack. -/
structure BadgeFailure.Older (f f' : BadgeFailure) : Prop where
  questionId : f'.questionId = f.questionId
  callsign : f'.callsign = f.callsign
  attempt : f'.attempt = f.attempt ∨ f'.attempt = 1

/-- What a spotlight of an older history may lack. -/
structure AnswerSpotlight.Older (a a' : AnswerSpotlight) : Prop where
  question : a'.question = a.question
  correctAnswer : a'.correctAnswer = a.correctAnswer
  callsign : a'.callsign = a.callsign
  wasCorrect : a'.wasCorrect = a.wasCorrect
  score : a'.score = a.score
  points : a'.points = a.points ∨ a'.points = 1

/-- What an event of an older history may lack. -/
structure GameEvent.Older (e e' : GameEvent) : Prop where
  text : e'.text = e.text
  kind : e'.kind = e.kind ∨ e'.kind = .lifecycle

/-- What the modifiers of an older history may lack. -/
structure ChaosState.Older (c c' : ChaosState) : Prop where
  doublePointsUntilUnixMs : c'.doublePointsUntilUnixMs = c.doublePointsUntilUnixMs
  rustOnlyUntilUnixMs : c'.rustOnlyUntilUnixMs = c.rustOnlyUntilUnixMs
  suddenDeath : c'.suddenDeath = c.suddenDeath
  extensionUsed : c'.extensionUsed = c.extensionUsed
  latestPowerup : c'.latestPowerup = c.latestPowerup ∨ c'.latestPowerup = none

/-- What an input of an older history may lack. -/
structure GameInput.Older (i i' : GameInput) : Prop where
  gameId : i'.gameId = i.gameId
  questions : i'.questions = i.questions
  durationSeconds : i'.durationSeconds = i.durationSeconds
  backlogOverride : i'.backlogOverride = i.backlogOverride
  detectedBadgeCount : i'.detectedBadgeCount = i.detectedBadgeCount ∨ i'.detectedBadgeCount = none
  indexSearchAttributes : i'.indexSearchAttributes = i.indexSearchAttributes
    ∨ i'.indexSearchAttributes = false

/-- What a snapshot of an older history may lack. -/
structure GameSnapshot.Older (s s' : GameSnapshot) : Prop where
  gameId : s'.gameId = s.gameId
  status : s'.status = s.status
  startedUnixMs : s'.startedUnixMs = s.startedUnixMs
  deadlineUnixMs : s'.deadlineUnixMs = s.deadlineUnixMs
  completedQuestions : s'.completedQuestions = s.completedQuestions
  scheduledQuestions : s'.scheduledQuestions = s.scheduledQuestions
  players : s'.players.Equiv s.players
  winners : s'.winners = s.winners
  latestAnswer : Option.Rel AnswerSpotlight.Older s.latestAnswer s'.latestAnswer
  events : List.Forall₂ GameEvent.Older s.events s'.events
  detectedBadgeCount : s'.detectedBadgeCount = s.detectedBadgeCount ∨ s'.detectedBadgeCount = 0
  reassignments : s'.reassignments = s.reassignments ∨ s'.reassignments = 0
  heartbeatTimeouts : s'.heartbeatTimeouts = s.heartbeatTimeouts ∨ s'.heartbeatTimeouts = 0
  activityAttempts : s'.activityAttempts = s.activityAttempts ∨ s'.activityAttempts = 0
  latestReassignment : Option.Rel Reassignment.Older s.latestReassignment s'.latestReassignment
    ∨ s'.latestReassignment = none
  latestFailure : Option.Rel BadgeFailure.Older s.latestFailure s'.latestFailure
    ∨ s'.latestFailure = none
  chaos : s.chaos.Older s'.chaos ∨ s'.chaos = {}

/-! ## Types that every version writes alike -/

theorem exact_answerIndex : answerIndex.Exact := fun _ _ _ h => h.2.2

theorem Question.exact_wire : Question.wire.Exact := by
  apply Codec.exact_struct
  simp [Row.Exact, Field.required, Codec.Exact.vector, exact_answerIndex]

theorem BadgeAnswer.exact_wire : BadgeAnswer.wire.Exact := by
  apply Codec.exact_struct
  simp [Row.Exact, Field.required, exact_answerIndex]

theorem PowerupNotice.exact_wire : PowerupNotice.wire.Exact := by
  apply Codec.exact_struct
  simp [Row.Exact, Field.required, u32, u64, ChaosCommand.wire]

theorem PlayerScore.exact_wire : PlayerScore.wire.Exact := by
  apply Codec.exact_struct
  simp [Row.Exact, Field.required, u32, i32]

/-! ## What is read of another version's payload -/

theorem QuestionTask.older_of_renders {t t' : QuestionTask} {j : Json}
    (h : QuestionTask.wire.Renders t j t') : t.Older t' := by
  obtain ⟨entries, rfl, -, hgame, hdeadline, hmax, hquestion, -⟩ := h
  exact ⟨Codec.exact_string.required hgame, Codec.exact_nat.required hdeadline,
    Codec.exact_nat.defaulted hmax, Question.exact_wire.required hquestion⟩

theorem BadgeEvent.older_of_renders {e e' : BadgeEvent} {j : Json}
    (h : BadgeEvent.wire.Renders e j e') : e.Older e' := by
  obtain ⟨entries, rfl, -, hbadge, hcallsign, hquestion, hattempt, -⟩ := h
  exact ⟨Codec.exact_string.required hbadge, Codec.exact_string.required hcallsign,
    Codec.exact_string.required hquestion, Codec.exact_nat.defaulted hattempt⟩

theorem Reassignment.older_of_renders {r r' : Reassignment} {j : Json}
    (h : Reassignment.wire.Renders r j r') : r.Older r' := by
  obtain ⟨entries, rfl, -, hquestion, hfrom, hto, hreason, hattempt, -⟩ := h
  exact ⟨Codec.exact_string.required hquestion, Codec.exact_string.required hfrom,
    Codec.exact_string.required hto, Codec.exact_string.required hreason,
    Codec.exact_nat.defaulted hattempt⟩

theorem BadgeFailure.older_of_renders {f f' : BadgeFailure} {j : Json}
    (h : BadgeFailure.wire.Renders f j f') : f.Older f' := by
  obtain ⟨entries, rfl, -, hquestion, hcallsign, hattempt, -⟩ := h
  exact ⟨Codec.exact_string.required hquestion, Codec.exact_string.required hcallsign,
    Codec.exact_nat.defaulted hattempt⟩

theorem AnswerSpotlight.older_of_renders {a a' : AnswerSpotlight} {j : Json}
    (h : AnswerSpotlight.wire.Renders a j a') : a.Older a' := by
  obtain ⟨entries, rfl, -, hquestion, hcorrect, hcallsign, hwas, hscore, hpoints, -⟩ := h
  exact ⟨Codec.exact_string.required hquestion, Codec.exact_string.required hcorrect,
    Codec.exact_string.required hcallsign, Codec.exact_bool.required hwas,
    Codec.exact_int.required hscore, Codec.exact_int.defaulted hpoints⟩

theorem GameEvent.older_of_renders {e e' : GameEvent} {j : Json}
    (h : GameEvent.wire.Renders e j e') : e.Older e' := by
  obtain ⟨entries, rfl, -, htext, hkind, -⟩ := h
  exact ⟨Codec.exact_string.required htext, Codec.exact_unitVariants.defaulted hkind⟩

theorem ChaosState.older_of_renders {c c' : ChaosState} {j : Json}
    (h : ChaosState.wire.Renders c j c') : c.Older c' := by
  obtain ⟨entries, rfl, -, hdouble, hrust, hsudden, hextension, hpowerup, -⟩ := h
  exact ⟨Codec.exact_nat.optional hdouble, Codec.exact_nat.optional hrust,
    Codec.exact_bool.required hsudden, Codec.exact_bool.required hextension,
    PowerupNotice.exact_wire.option.defaulted hpowerup⟩

theorem GameInput.older_of_renders {i i' : GameInput} {j : Json}
    (h : GameInput.wire.Renders i j i') : i.Older i' := by
  obtain ⟨entries, rfl, -, hgame, hquestions, hduration, hbacklog, hdetected, hindex, -⟩ := h
  exact ⟨Codec.exact_string.required hgame, Question.exact_wire.list.required hquestions,
    Codec.exact_nat.required hduration, Codec.exact_nat.optional hbacklog,
    Codec.exact_nat.option.defaulted hdetected, Codec.exact_bool.defaulted hindex⟩

/-- A part with a default: older, or the default itself. -/
theorem older_or_default {α : Type} {c : Codec α} {Older : α → α → Prop} {name : String}
    {value a b : α} {hfits : c.Fits value} {entry : Option Json}
    (hOlder : ∀ {a j b}, c.Renders a j b → Older a b)
    (h : (Field.defaulted name c value hfits).Renders a entry b) : Older a b ∨ b = value := by
  refine (Codec.renders_of_defaulted h).imp_left ?_
  rintro ⟨j, h⟩
  exact hOlder h

theorem GameSnapshot.older_of_renders {s s' : GameSnapshot} {j : Json}
    (h : GameSnapshot.wire.Renders s j s') : s.Older s' := by
  obtain ⟨entries, rfl, -, hgame, hstatus, hstarted, hdeadline, hcompleted, hscheduled, hplayers,
    hdetected, hanswer, hevents, hwinners, hreassignments, htimeouts, hattempts, hreassignment,
    hfailure, hchaos, -⟩ := h
  obtain ⟨_, hplayers⟩ := Codec.renders_of_required hplayers
  obtain ⟨_, hanswer⟩ := Codec.renders_of_optional hanswer
  obtain ⟨_, hevents⟩ := Codec.renders_of_required hevents
  exact
    { gameId := Codec.exact_string.optional hgame
      status := Codec.exact_unitVariants.required hstatus
      startedUnixMs := Codec.exact_nat.optional hstarted
      deadlineUnixMs := Codec.exact_nat.optional hdeadline
      completedQuestions := Codec.exact_nat.required hcompleted
      scheduledQuestions := Codec.exact_nat.required hscheduled
      players := PlayerScore.exact_wire.map hplayers
      winners := Codec.exact_string.list.required hwinners
      latestAnswer := Codec.rel_of_option AnswerSpotlight.older_of_renders hanswer
      events := Codec.forall₂_of_list GameEvent.older_of_renders hevents
      detectedBadgeCount := Codec.exact_nat.defaulted hdetected
      reassignments := Codec.exact_nat.defaulted hreassignments
      heartbeatTimeouts := Codec.exact_nat.defaulted htimeouts
      activityAttempts := Codec.exact_nat.defaulted hattempts
      latestReassignment :=
        older_or_default (Codec.rel_of_option Reassignment.older_of_renders) hreassignment
      latestFailure := older_or_default (Codec.rel_of_option BadgeFailure.older_of_renders) hfailure
      chaos := older_or_default ChaosState.older_of_renders hchaos }

/-- The fields of a snapshot that declare a default. -/
def laterFields : List String :=
  ["detected_badge_count", "reassignments", "heartbeat_timeouts", "activity_attempts",
    "latest_reassignment", "latest_failure", "chaos"]

/-- **A snapshot of an earlier version.** Take what is written for a
snapshot, leave out any of the later fields, add keys of other names and
change the order: it decodes, to what the rest of it says and defaults. -/
theorem snapshot_history {s : GameSnapshot} (h : s.InRange) {written entries : List (String × Json)}
    (hwritten : GameSnapshot.wire.encode s = .object written)
    (honce : ((entries.map Prod.fst).filter (· ∈ written.map Prod.fst)).Nodup)
    (hentries : ∀ key ∈ written.map Prod.fst, entries.lookup key = written.lookup key
      ∨ entries.lookup key = none ∧ key ∈ laterFields) :
    ∃ s' kept, GameSnapshot.wire.decode (.object entries) = .ok s' ∧ s.Older s'
      ∧ GameSnapshot.wire.encode s' = .object kept
      ∧ ∀ key ∈ written.map Prod.fst, entries.lookup key ≠ none →
        kept.lookup key = entries.lookup key := by
  rw [← s.encode_canonical] at hwritten
  obtain rfl := Json.object.inj hwritten
  rw [Row.map_fst_write] at honce hentries ⊢
  obtain ⟨s', hrenders, hkept⟩ := Codec.exists_renders_struct h.fits_canonical honce hentries
  have holder := GameSnapshot.older_of_renders hrenders
  refine ⟨s', _, Codec.decode_of_renders _ hrenders, ?_, rfl, ?_⟩
  · exact { holder with players := holder.players.trans (canonical_equiv s.players) }
  · intro key hkey hsome
    rw [hkept key hkey hsome]
    rcases hentries key hkey with heq | ⟨hnone, -⟩
    · exact heq.symm
    · exact absurd hnone hsome

/-- Two players, one of them behind. -/
def playedRoster : List PlayerScore :=
  [{ badgeId := "badge-a", callsign := "KEEN-SEAL-70", score := 4, correct := 2 },
    { badgeId := "badge-b", callsign := "BRAVE-CRAB-C8", score := -1, wrong := 1 }]

/-- A board in the middle of a round. -/
def playedBoard : GameSnapshot :=
  { gameId := some "game", status := .running, startedUnixMs := some 1000
    deadlineUnixMs := some 301000, completedQuestions := 3, scheduledQuestions := 5
    players := .ofList (playedRoster.map fun player => (player.badgeId, player))
    detectedBadgeCount := 2
    events := [{ text := "BRAVE-CRAB-C8 is back", kind := .handoff }]
    reassignments := 1, activityAttempts := 4
    latestReassignment := some
      { questionId := "q-1", fromCallsign := "BRAVE-CRAB-C8", toCallsign := "KEEN-SEAL-70"
        reason := "heartbeat", attempt := 2 }
    chaos := { suddenDeath := true, latestPowerup := some ⟨1, .suddenDeath, 5000⟩ } }

/-- What a version without handoffs wrote of it, with its entries turned
around and a key of its own. -/
def playedEntries : List (String × Json) :=
  match GameSnapshot.wire.encode playedBoard with
  | .object written =>
      ("venue", .string "booth") :: (written.filter fun entry =>
        entry.1 ∉ ["reassignments", "latest_reassignment", "activity_attempts"]).reverse
  | _ => []

theorem snapshot_history_played :
    ∃ s' kept, GameSnapshot.wire.decode (.object playedEntries) = .ok s'
      ∧ s'.players.Equiv playedBoard.players ∧ s'.gameId = some "game"
      ∧ (s'.reassignments = 1 ∨ s'.reassignments = 0)
      ∧ GameSnapshot.wire.encode s' = .object kept
      ∧ kept.lookup "chaos" = some (ChaosState.wire.encode playedBoard.chaos) := by
  have hplayers : ∀ player ∈ playedBoard.playerValues, player.InRange := by
    have hvalues : playedBoard.playerValues = playedRoster := by decide +kernel
    rw [hvalues]
    intro player hplayer
    fin_cases hplayer <;> constructor <;> simp [InI32, InU32]
  have hchaos : playedBoard.chaos.InRange := by
    constructor <;> simp [playedBoard, InU32, InU64]
  have hrange : playedBoard.InRange := by
    constructor
    case players => exact hplayers
    case chaos => exact hchaos
    all_goals simp [playedBoard, InU32, InU64]
  obtain ⟨s', kept, hdecode, holder, hkept, hkeeps⟩ :=
    @snapshot_history playedBoard hrange _ playedEntries rfl (by decide +kernel) (by
      intro key hkey
      fin_cases hkey <;> first | exact .inl rfl | exact .inr ⟨rfl, by decide⟩)
  have hwritten : playedEntries.lookup "chaos"
      = some (ChaosState.wire.encode playedBoard.chaos) := rfl
  have hthere : playedEntries.lookup "chaos" ≠ none := by
    rw [hwritten]
    exact Option.some_ne_none _
  exact ⟨s', kept, hdecode, holder.players, holder.gameId, holder.reassignments, hkept,
    (hkeeps "chaos" (by decide +kernel) hthere).trans hwritten⟩

end DurableTrivia.Shared

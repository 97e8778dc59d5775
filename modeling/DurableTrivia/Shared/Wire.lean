import DurableTrivia.Lib.JsonRecords
import DurableTrivia.Shared.Contract

/-!
# Wire — the contract types as they are serialized

The derived serializers of `shared/src/contract.rs`, one codec a type:
its fields in their order under their names, with the attributes the
source gives them. `#[serde(default)]` is `Field.defaulted`, an `Option`
without it `Field.optional`, `rename_all` the variant names and
`deserialize_with` the reading of an answer index.

Representation. The documents are JSON trees: text and tree are the JSON
library's business. `usize` is the 64-bit one of the controller, the only
program that reads a `GameInput`.
-/

namespace DurableTrivia.Shared

open Lib

/-! ## Scalars -/

/-- The numbers of a `u32`. -/
def u32 : Codec Nat := .nat (2 ^ 32)

/-- The numbers of a `u64`. -/
def u64 : Codec Nat := .nat (2 ^ 64)

/-- The numbers of a `usize`, of 64 bits on the host. -/
def usize : Codec Nat := .nat (2 ^ 64)

/-- The numbers of an `i32`. -/
def i32 : Codec Int := .int (-2 ^ 31) (2 ^ 31)

@[simp] theorem fits_u32 {value : Nat} : u32.Fits value ↔ value < 2 ^ 32 := Iff.rfl
@[simp] theorem fits_u64 {value : Nat} : u64.Fits value ↔ value < 2 ^ 64 := Iff.rfl
@[simp] theorem fits_usize {value : Nat} : usize.Fits value ↔ value < 2 ^ 64 := Iff.rfl
@[simp] theorem fits_i32 {value : Int} : i32.Fits value ↔ -2 ^ 31 ≤ value ∧ value < 2 ^ 31 :=
  Iff.rfl

/-- A `u8` that is the index of an answer. -/
def deserializeAnswerIndex (j : Json) : Except Fault UInt8 := do
  let index ← Codec.decodeInt 0 256 j
  if index < 4 then .ok (UInt8.ofNat index.toNat)
  else .error (.custom s!"answer index {index} is outside 0..4")

/-- **No index beyond the four answers is read.** -/
theorem deserializeAnswerIndex_lt {j : Json} {index : UInt8}
    (h : deserializeAnswerIndex j = .ok index) : index < 4 := by
  obtain ⟨value, hread, h⟩ := bind_eq_ok.mp h
  have hrange := (Codec.decodeInt_eq_ok.mp hread).2
  split at h
  · rename_i hlt
    cases h
    rw [UInt8.lt_iff_toNat_lt, UInt8.toNat_ofNat']
    show value.toNat % 256 < 4
    omega
  · cases h

theorem deserializeAnswerIndex_int {index : UInt8} (h : index < 4) :
    deserializeAnswerIndex (.int index.toNat) = .ok index := by
  have hlt : index.toNat < 4 := UInt8.lt_iff_toNat_lt.mp h
  refine bind_eq_ok.mpr ⟨index.toNat, Codec.decodeInt_eq_ok.mpr ⟨rfl, by omega, by omega⟩, ?_⟩
  rw [if_pos (by omega)]
  simp

/-- The index of an answer. -/
def answerIndex : Codec UInt8 :=
  .plain (fun index => .int index.toNat) deserializeAnswerIndex (· < 4)
    deserializeAnswerIndex_lt deserializeAnswerIndex_int

/-! ## Enumerations -/

/-- The name of a command in JSON. -/
def ChaosCommand.name : ChaosCommand → String
  | .doublePoints => "double_points"
  | .rustOnly => "rust_only"
  | .suddenDeath => "sudden_death"
  | .extendThirtySeconds => "extend_thirty_seconds"

/-- Commands in JSON. -/
def ChaosCommand.wire : Codec ChaosCommand :=
  .unitVariants ([.doublePoints, .rustOnly, .suddenDeath, .extendThirtySeconds].map
    fun command : ChaosCommand => (command.name, command)) ChaosCommand.name
    (by intro command; cases command <;> rfl)

/-- The name of a status in JSON. -/
def GameStatus.name : GameStatus → String
  | .waiting => "waiting"
  | .running => "running"
  | .finished => "finished"

/-- Statuses in JSON. -/
def GameStatus.wire : Codec GameStatus :=
  .unitVariants ([.waiting, .running, .finished].map
    fun status : GameStatus => (status.name, status)) GameStatus.name
    (by intro status; cases status <;> rfl)

/-- The name of an event kind in JSON. -/
def EventKind.name : EventKind → String
  | .lifecycle => "lifecycle"
  | .answer => "answer"
  | .fault => "fault"
  | .handoff => "handoff"
  | .chaos => "chaos"

/-- Event kinds in JSON. -/
def EventKind.wire : Codec EventKind :=
  .unitVariants ([.lifecycle, .answer, .fault, .handoff, .chaos].map
    fun kind : EventKind => (kind.name, kind)) EventKind.name
    (by intro kind; cases kind <;> rfl)

/-! ## Records -/

/-- Questions in JSON. -/
def Question.wire : Codec Question :=
  .struct
    { toFun q := (q.id, q.category, q.difficulty, q.prompt, q.answers, q.correctIndex, ())
      invFun := fun (id, category, difficulty, prompt, answers, correctIndex, ()) =>
        { id, category, difficulty, prompt, answers, correctIndex } }
    (.cons (.required "id" .string) <|
      .cons (.required "category" .string) <|
      .cons (.required "difficulty" .string) <|
      .cons (.required "prompt" .string) <|
      .cons (.required "answers" (Codec.string.vector 4)) <|
      .cons (.required "correct_index" answerIndex) .nil)
    (by decide)

/-- Tasks in JSON. -/
def QuestionTask.wire : Codec QuestionTask :=
  .struct
    { toFun t := (t.gameId, t.deadlineUnixMs, t.maxDeadlineUnixMs, t.question, ())
      invFun := fun (gameId, deadlineUnixMs, maxDeadlineUnixMs, question, ()) =>
        { gameId, deadlineUnixMs, maxDeadlineUnixMs, question } }
    (.cons (.required "game_id" .string) <|
      .cons (.required "deadline_unix_ms" u64) <|
      .cons (.defaulted "max_deadline_unix_ms" u64 0 (fits_u64.mpr (by decide))) <|
      .cons (.required "question" Question.wire) .nil)
    (by decide)

/-- Answers in JSON. -/
def BadgeAnswer.wire : Codec BadgeAnswer :=
  .struct
    { toFun a := (a.badgeId, a.callsign, a.questionId, a.selectedIndex, ())
      invFun := fun (badgeId, callsign, questionId, selectedIndex, ()) =>
        { badgeId, callsign, questionId, selectedIndex } }
    (.cons (.required "badge_id" .string) <|
      .cons (.required "callsign" .string) <|
      .cons (.required "question_id" .string) <|
      .cons (.required "selected_index" answerIndex) .nil)
    (by decide)

/-- The attempt of a document that names none. -/
def defaultAttempt : Nat := 1

/-- Signals in JSON. -/
def BadgeEvent.wire : Codec BadgeEvent :=
  .struct
    { toFun e := (e.badgeId, e.callsign, e.questionId, e.attempt, ())
      invFun := fun (badgeId, callsign, questionId, attempt, ()) =>
        { badgeId, callsign, questionId, attempt } }
    (.cons (.required "badge_id" .string) <|
      .cons (.required "callsign" .string) <|
      .cons (.required "question_id" .string) <|
      .cons (.defaulted "attempt" u32 defaultAttempt (fits_u32.mpr (by decide))) .nil)
    (by decide)

/-- Notices in JSON. -/
def PowerupNotice.wire : Codec PowerupNotice :=
  .struct
    { toFun n := (n.sequence, n.command, n.issuedUnixMs, ())
      invFun := fun (sequence, command, issuedUnixMs, ()) => { sequence, command, issuedUnixMs } }
    (.cons (.required "sequence" u32) <|
      .cons (.required "command" ChaosCommand.wire) <|
      .cons (.required "issued_unix_ms" u64) .nil)
    (by decide)

/-- Modifiers in JSON. -/
def ChaosState.wire : Codec ChaosState :=
  .struct
    { toFun c := (c.doublePointsUntilUnixMs, c.rustOnlyUntilUnixMs, c.suddenDeath, c.extensionUsed,
        c.latestPowerup, ())
      invFun := fun (doublePointsUntilUnixMs, rustOnlyUntilUnixMs, suddenDeath, extensionUsed,
        latestPowerup, ()) => { doublePointsUntilUnixMs, rustOnlyUntilUnixMs, suddenDeath,
                                extensionUsed, latestPowerup } }
    (.cons (.optional "double_points_until_unix_ms" u64 (by rintro _ ⟨⟩)) <|
      .cons (.optional "rust_only_until_unix_ms" u64 (by rintro _ ⟨⟩)) <|
      .cons (.required "sudden_death" .bool) <|
      .cons (.required "extension_used" .bool) <|
      .cons (.defaulted "latest_powerup" (PowerupNotice.wire.option (by rintro _ ⟨⟩)) none
        (Codec.fits_none _)) .nil)
    (by decide)

/-- Reassignments in JSON. -/
def Reassignment.wire : Codec Reassignment :=
  .struct
    { toFun r := (r.questionId, r.fromCallsign, r.toCallsign, r.reason, r.attempt, ())
      invFun := fun (questionId, fromCallsign, toCallsign, reason, attempt, ()) =>
        { questionId, fromCallsign, toCallsign, reason, attempt } }
    (.cons (.required "question_id" .string) <|
      .cons (.required "from_callsign" .string) <|
      .cons (.required "to_callsign" .string) <|
      .cons (.required "reason" .string) <|
      .cons (.defaulted "attempt" u32 defaultAttempt (fits_u32.mpr (by decide))) .nil)
    (by decide)

/-- Failures in JSON. -/
def BadgeFailure.wire : Codec BadgeFailure :=
  .struct
    { toFun f := (f.questionId, f.callsign, f.attempt, ())
      invFun := fun (questionId, callsign, attempt, ()) => { questionId, callsign, attempt } }
    (.cons (.required "question_id" .string) <|
      .cons (.required "callsign" .string) <|
      .cons (.defaulted "attempt" u32 defaultAttempt (fits_u32.mpr (by decide))) .nil)
    (by decide)

/-- Inputs in JSON. -/
def GameInput.wire : Codec GameInput :=
  .struct
    { toFun i := (i.gameId, i.questions, i.durationSeconds, i.backlogOverride, i.detectedBadgeCount,
        i.indexSearchAttributes, ())
      invFun := fun (gameId, questions, durationSeconds, backlogOverride, detectedBadgeCount,
        indexSearchAttributes, ()) => { gameId, questions, durationSeconds, backlogOverride,
                                        detectedBadgeCount, indexSearchAttributes } }
    (.cons (.required "game_id" .string) <|
      .cons (.required "questions" Question.wire.list) <|
      .cons (.required "duration_seconds" u64) <|
      .cons (.optional "backlog_override" usize (by rintro _ ⟨⟩)) <|
      .cons (.defaulted "detected_badge_count" (usize.option (by rintro _ ⟨⟩)) none
        (Codec.fits_none _)) <|
      .cons (.defaulted "index_search_attributes" .bool false trivial) .nil)
    (by decide)

/-- Rows of the standings in JSON. -/
def PlayerScore.wire : Codec PlayerScore :=
  .struct
    { toFun p := (p.badgeId, p.callsign, p.score, p.correct, p.wrong, p.panics, ())
      invFun := fun (badgeId, callsign, score, correct, wrong, panics, ()) =>
        { badgeId, callsign, score, correct, wrong, panics } }
    (.cons (.required "badge_id" .string) <|
      .cons (.required "callsign" .string) <|
      .cons (.required "score" i32) <|
      .cons (.required "correct" u32) <|
      .cons (.required "wrong" u32) <|
      .cons (.required "panics" u32) .nil)
    (by decide)

/-- The points of a document that names none. -/
def defaultPoints : Int := 1

/-- Spotlights in JSON. -/
def AnswerSpotlight.wire : Codec AnswerSpotlight :=
  .struct
    { toFun a := (a.question, a.correctAnswer, a.callsign, a.wasCorrect, a.score, a.points, ())
      invFun := fun (question, correctAnswer, callsign, wasCorrect, score, points, ()) =>
        { question, correctAnswer, callsign, wasCorrect, score, points } }
    (.cons (.required "question" .string) <|
      .cons (.required "correct_answer" .string) <|
      .cons (.required "callsign" .string) <|
      .cons (.required "was_correct" .bool) <|
      .cons (.required "score" i32) <|
      .cons (.defaulted "points" i32 defaultPoints (fits_i32.mpr (by decide))) .nil)
    (by decide)

/-- Events in JSON. -/
def GameEvent.wire : Codec GameEvent :=
  .struct
    { toFun e := (e.text, e.kind, ())
      invFun := fun (text, kind, ()) => { text, kind } }
    (.cons (.required "text" .string) <|
      .cons (.defaulted "kind" EventKind.wire .lifecycle trivial) .nil)
    (by decide)

theorem ChaosState.fits_default : ChaosState.wire.Fits {} := by
  simp [ChaosState.wire, Codec.struct, Row.Fits, Field.optional, Field.required, Field.defaulted,
    Codec.option, Codec.bool, Codec.plain]

/-- Snapshots in JSON. -/
def GameSnapshot.wire : Codec GameSnapshot :=
  .struct
    { toFun s := (s.gameId, s.status, s.startedUnixMs, s.deadlineUnixMs, s.completedQuestions,
        s.scheduledQuestions, s.players, s.detectedBadgeCount, s.latestAnswer, s.events, s.winners,
        s.reassignments, s.heartbeatTimeouts, s.activityAttempts, s.latestReassignment,
        s.latestFailure, s.chaos, ())
      invFun := fun (gameId, status, startedUnixMs, deadlineUnixMs, completedQuestions,
        scheduledQuestions, players, detectedBadgeCount, latestAnswer, events, winners,
        reassignments, heartbeatTimeouts, activityAttempts, latestReassignment, latestFailure,
        chaos, ()) => { gameId, status, startedUnixMs, deadlineUnixMs, completedQuestions,
                        scheduledQuestions, players, detectedBadgeCount, latestAnswer, events,
                        winners, reassignments, heartbeatTimeouts, activityAttempts,
                        latestReassignment, latestFailure, chaos } }
    (.cons (.optional "game_id" .string (by rintro _ ⟨⟩)) <|
      .cons (.required "status" GameStatus.wire) <|
      .cons (.optional "started_unix_ms" u64 (by rintro _ ⟨⟩)) <|
      .cons (.optional "deadline_unix_ms" u64 (by rintro _ ⟨⟩)) <|
      .cons (.required "completed_questions" u32) <|
      .cons (.required "scheduled_questions" u32) <|
      .cons (.required "players" PlayerScore.wire.map) <|
      .cons (.defaulted "detected_badge_count" u32 0 (fits_u32.mpr (by decide))) <|
      .cons (.optional "latest_answer" AnswerSpotlight.wire (by rintro _ ⟨⟩)) <|
      .cons (.required "events" GameEvent.wire.list) <|
      .cons (.required "winners" Codec.string.list) <|
      .cons (.defaulted "reassignments" u32 0 (fits_u32.mpr (by decide))) <|
      .cons (.defaulted "heartbeat_timeouts" u32 0 (fits_u32.mpr (by decide))) <|
      .cons (.defaulted "activity_attempts" u32 0 (fits_u32.mpr (by decide))) <|
      .cons (.defaulted "latest_reassignment"
        (Reassignment.wire.option (by rintro _ ⟨⟩)) none (Codec.fits_none _)) <|
      .cons (.defaulted "latest_failure"
        (BadgeFailure.wire.option (by rintro _ ⟨⟩)) none (Codec.fits_none _)) <|
      .cons (.defaulted "chaos" ChaosState.wire {} ChaosState.fits_default) .nil)
    (by decide)

/-! ## What the types of the source hold -/

/-- A `u32`. -/
def InU32 (value : Nat) : Prop := value < 2 ^ 32

/-- A `u64`. -/
def InU64 (value : Nat) : Prop := value < 2 ^ 64

/-- An `i32`. -/
def InI32 (value : Int) : Prop := -2 ^ 31 ≤ value ∧ value < 2 ^ 31

/-- The task is within the source's types. -/
structure QuestionTask.InRange (t : QuestionTask) : Prop where
  deadlineUnixMs : InU64 t.deadlineUnixMs
  maxDeadlineUnixMs : InU64 t.maxDeadlineUnixMs
  correctIndex : t.question.correctIndex < 4

/-- The input is within the source's types. -/
structure GameInput.InRange (i : GameInput) : Prop where
  correctIndex : ∀ question ∈ i.questions, question.correctIndex < 4
  durationSeconds : InU64 i.durationSeconds
  backlogOverride : ∀ slots ∈ i.backlogOverride, InU64 slots
  detectedBadgeCount : ∀ badges ∈ i.detectedBadgeCount, InU64 badges

/-- The row is within the source's types. -/
structure PlayerScore.InRange (p : PlayerScore) : Prop where
  score : InI32 p.score
  correct : InU32 p.correct
  wrong : InU32 p.wrong
  panics : InU32 p.panics

/-- The modifiers are within the source's types. -/
structure ChaosState.InRange (c : ChaosState) : Prop where
  doublePointsUntilUnixMs : ∀ unixMs ∈ c.doublePointsUntilUnixMs, InU64 unixMs
  rustOnlyUntilUnixMs : ∀ unixMs ∈ c.rustOnlyUntilUnixMs, InU64 unixMs
  latestPowerup : ∀ notice ∈ c.latestPowerup, InU32 notice.sequence ∧ InU64 notice.issuedUnixMs

/-- The snapshot is within the source's types. -/
structure GameSnapshot.InRange (s : GameSnapshot) : Prop where
  startedUnixMs : ∀ unixMs ∈ s.startedUnixMs, InU64 unixMs
  deadlineUnixMs : ∀ unixMs ∈ s.deadlineUnixMs, InU64 unixMs
  completedQuestions : InU32 s.completedQuestions
  scheduledQuestions : InU32 s.scheduledQuestions
  players : ∀ player ∈ s.playerValues, player.InRange
  detectedBadgeCount : InU32 s.detectedBadgeCount
  latestAnswer : ∀ answer ∈ s.latestAnswer, InI32 answer.score ∧ InI32 answer.points
  reassignments : InU32 s.reassignments
  heartbeatTimeouts : InU32 s.heartbeatTimeouts
  activityAttempts : InU32 s.activityAttempts
  latestReassignment : ∀ reassignment ∈ s.latestReassignment, InU32 reassignment.attempt
  latestFailure : ∀ failure ∈ s.latestFailure, InU32 failure.attempt
  chaos : s.chaos.InRange

theorem Question.fits_wire {q : Question} : Question.wire.Fits q ↔ q.correctIndex < 4 := by
  constructor
  · rintro ⟨-, -, -, -, -, h, -⟩
    exact h
  · intro h
    exact ⟨trivial, trivial, trivial, trivial, fun _ _ => trivial, h, trivial⟩

theorem QuestionTask.fits_wire {t : QuestionTask} : QuestionTask.wire.Fits t ↔ t.InRange := by
  constructor
  · rintro ⟨-, hdeadline, hmax, hquestion, -⟩
    exact ⟨hdeadline, hmax, Question.fits_wire.mp hquestion⟩
  · rintro ⟨hdeadline, hmax, hquestion⟩
    exact ⟨trivial, hdeadline, hmax, Question.fits_wire.mpr hquestion, trivial⟩

theorem BadgeAnswer.fits_wire {a : BadgeAnswer} :
    BadgeAnswer.wire.Fits a ↔ a.selectedIndex < 4 := by
  constructor
  · rintro ⟨-, -, -, h, -⟩
    exact h
  · intro h
    exact ⟨trivial, trivial, trivial, h, trivial⟩

theorem BadgeEvent.fits_wire {e : BadgeEvent} : BadgeEvent.wire.Fits e ↔ InU32 e.attempt := by
  constructor
  · rintro ⟨-, -, -, h, -⟩
    exact h
  · intro h
    exact ⟨trivial, trivial, trivial, h, trivial⟩

theorem GameInput.fits_wire {i : GameInput} : GameInput.wire.Fits i ↔ i.InRange := by
  constructor
  · rintro ⟨-, hquestions, hduration, hbacklog, hdetected, -, -⟩
    exact ⟨fun q hq => Question.fits_wire.mp (hquestions q hq), hduration, hbacklog, hdetected⟩
  · rintro ⟨hquestions, hduration, hbacklog, hdetected⟩
    exact ⟨trivial, fun q hq => Question.fits_wire.mpr (hquestions q hq), hduration, hbacklog,
      hdetected, trivial, trivial⟩

theorem PlayerScore.fits_wire {p : PlayerScore} : PlayerScore.wire.Fits p ↔ p.InRange := by
  constructor
  · rintro ⟨-, -, hscore, hcorrect, hwrong, hpanics, -⟩
    exact ⟨hscore, hcorrect, hwrong, hpanics⟩
  · rintro ⟨hscore, hcorrect, hwrong, hpanics⟩
    exact ⟨trivial, trivial, hscore, hcorrect, hwrong, hpanics, trivial⟩

theorem ChaosState.fits_wire {c : ChaosState} : ChaosState.wire.Fits c ↔ c.InRange := by
  constructor
  · rintro ⟨hdouble, hrust, -, -, hpowerup, -⟩
    refine ⟨hdouble, hrust, fun notice hnotice => ?_⟩
    obtain ⟨hsequence, -, hissued, -⟩ := hpowerup notice hnotice
    exact ⟨hsequence, hissued⟩
  · rintro ⟨hdouble, hrust, hpowerup⟩
    refine ⟨hdouble, hrust, trivial, trivial, fun notice hnotice => ?_, trivial⟩
    obtain ⟨hsequence, hissued⟩ := hpowerup notice hnotice
    exact ⟨hsequence, trivial, hissued, trivial⟩

/-- The snapshot with its roster in the one shape of its entries. -/
def GameSnapshot.canonical (s : GameSnapshot) : GameSnapshot :=
  { s with players := Lib.canonical s.players }

theorem GameSnapshot.fits_wire {s : GameSnapshot} :
    GameSnapshot.wire.Fits s ↔ s.canonical = s ∧ s.InRange := by
  constructor
  · rintro ⟨-, -, hstarted, hdeadline, hcompleted, hscheduled, ⟨hshape, hplayers⟩, hdetected,
      hanswer, -, -, hreassignments, htimeouts, hattempts, hreassignment, hfailure, hchaos, -⟩
    refine ⟨congrArg (fun players => { s with players }) hshape,
      { startedUnixMs := hstarted, deadlineUnixMs := hdeadline, completedQuestions := hcompleted
        scheduledQuestions := hscheduled
        players := fun player hplayer => PlayerScore.fits_wire.mp (hplayers player hplayer)
        detectedBadgeCount := hdetected
        latestAnswer := fun answer hmem => ?_
        reassignments := hreassignments, heartbeatTimeouts := htimeouts
        activityAttempts := hattempts
        latestReassignment := fun reassignment hmem => ?_
        latestFailure := fun failure hmem => ?_
        chaos := ChaosState.fits_wire.mp hchaos }⟩
    · obtain ⟨-, -, -, -, hscore, hpoints, -⟩ := hanswer answer hmem
      exact ⟨hscore, hpoints⟩
    · obtain ⟨-, -, -, -, hattempt, -⟩ := hreassignment reassignment hmem
      exact hattempt
    · obtain ⟨-, -, hattempt, -⟩ := hfailure failure hmem
      exact hattempt
  · rintro ⟨hcanonical, h⟩
    have hshape : Lib.canonical s.players = s.players := congrArg GameSnapshot.players hcanonical
    refine ⟨fun _ _ => trivial, trivial, h.startedUnixMs, h.deadlineUnixMs, h.completedQuestions,
      h.scheduledQuestions,
      ⟨hshape, fun player hplayer => PlayerScore.fits_wire.mpr (h.players player hplayer)⟩,
      h.detectedBadgeCount, fun answer hmem => ?_, fun _ _ => ⟨trivial, trivial, trivial⟩,
      fun _ _ => trivial, h.reassignments, h.heartbeatTimeouts, h.activityAttempts,
      fun reassignment hmem => ?_, fun failure hmem => ?_, ChaosState.fits_wire.mpr h.chaos,
      trivial⟩
    · obtain ⟨hscore, hpoints⟩ := h.latestAnswer answer hmem
      exact ⟨trivial, trivial, trivial, trivial, hscore, hpoints, trivial⟩
    · exact ⟨trivial, trivial, trivial, trivial, h.latestReassignment reassignment hmem, trivial⟩
    · exact ⟨trivial, trivial, h.latestFailure failure hmem, trivial⟩

theorem GameSnapshot.InRange.fits_canonical {s : GameSnapshot} (h : s.InRange) :
    GameSnapshot.wire.Fits s.canonical := by
  have hplayers : s.canonical.playerValues = s.playerValues := by
    simp [GameSnapshot.playerValues, GameSnapshot.canonical]
  have htwice : s.canonical.canonical = s.canonical := by
    simp [GameSnapshot.canonical]
  exact GameSnapshot.fits_wire.mpr ⟨htwice, { h with players := hplayers ▸ h.players }⟩

theorem GameSnapshot.encode_canonical (s : GameSnapshot) :
    GameSnapshot.wire.encode s.canonical = GameSnapshot.wire.encode s := by
  have hplayers : PlayerScore.wire.map.encode (Lib.canonical s.players)
      = PlayerScore.wire.map.encode s.players := by
    simp [Codec.map]
  simp only [GameSnapshot.wire, Codec.struct, Row.write, Field.required, GameSnapshot.canonical,
    Equiv.coe_fn_mk, hplayers]

/-- **The contract is what both sides read and write.** Of each payload:
what the types of the source hold reads back as it was written, a
snapshot up to the shape of its roster, which stays the same map; and
whatever document is accepted gives values of these types, so that no
answer index is beyond the four answers. -/
theorem payloads_wire :
    (∀ t : QuestionTask, t.InRange → QuestionTask.wire.decode (QuestionTask.wire.encode t) = .ok t)
      ∧ (∀ j t, QuestionTask.wire.decode j = .ok t → t.InRange)
      ∧ (∀ a : BadgeAnswer, a.selectedIndex < 4 →
          BadgeAnswer.wire.decode (BadgeAnswer.wire.encode a) = .ok a)
      ∧ (∀ j a, BadgeAnswer.wire.decode j = .ok a → a.selectedIndex < 4)
      ∧ (∀ e : BadgeEvent, InU32 e.attempt →
        BadgeEvent.wire.decode (BadgeEvent.wire.encode e) = .ok e)
      ∧ (∀ j e, BadgeEvent.wire.decode j = .ok e → InU32 e.attempt)
      ∧ (∀ i : GameInput, i.InRange → GameInput.wire.decode (GameInput.wire.encode i) = .ok i)
      ∧ (∀ j i, GameInput.wire.decode j = .ok i → i.InRange)
      ∧ (∀ s : GameSnapshot, s.InRange →
          GameSnapshot.wire.decode (GameSnapshot.wire.encode s) = .ok s.canonical
            ∧ s.canonical.players.Equiv s.players)
      ∧ ∀ j s, GameSnapshot.wire.decode j = .ok s → s.InRange := by
  refine ⟨fun t h => Codec.decode_encode _ (QuestionTask.fits_wire.mpr h),
    fun j t h => QuestionTask.fits_wire.mp (Codec.fits_of_decode _ h),
    fun a h => Codec.decode_encode _ (BadgeAnswer.fits_wire.mpr h),
    fun j a h => BadgeAnswer.fits_wire.mp (Codec.fits_of_decode _ h),
    fun e h => Codec.decode_encode _ (BadgeEvent.fits_wire.mpr h),
    fun j e h => BadgeEvent.fits_wire.mp (Codec.fits_of_decode _ h),
    fun i h => Codec.decode_encode _ (GameInput.fits_wire.mpr h),
    fun j i h => GameInput.fits_wire.mp (Codec.fits_of_decode _ h), fun s h => ⟨?_, ?_⟩,
    fun j s h => (GameSnapshot.fits_wire.mp (Codec.fits_of_decode _ h)).2⟩
  · rw [← s.encode_canonical]
    exact Codec.decode_encode _ h.fits_canonical
  · exact canonical_equiv s.players

end DurableTrivia.Shared

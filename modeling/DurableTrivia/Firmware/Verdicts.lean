import DurableTrivia.Firmware.Choices
import DurableTrivia.Firmware.Play

/-!
# Verdicts — whether the badge's verdict is what Temporal records

Both sides decide the same answer to the same question, so they agree on
whether it is correct. What it is worth they ask different clocks: the
badge goes by its last poll, the Workflow by the modifier in force when
it processes the completion, at least `FEEDBACK_HOLD` later. The two
agree exactly when these find the same.
-/

namespace DurableTrivia.Firmware

open DurableTrivia.Shared DurableTrivia.Lib

/-- The score change a request shows. -/
def UiRequest.scoreDelta : UiRequest → Option Int
  | .feedback _ scoreDelta => some scoreDelta
  | .status _ | .waiting | .question _ _ | .crashed | .recovered | .results _ | .resultPending
  | .powerup _ => none

/-- The task an execution was started with. -/
def Activity.task : Activity → Option QuestionTask
  | .free | .ended _ => none
  | .checking task | .refusing task | .showing task | .preparing task | .waiting task _
  | .joining task _ | .feedback task _ | .blackout task | .recovering task => some task

/-- The answer the badge holds its verdict on. -/
def Activity.held : Activity → Option (QuestionTask × UInt8)
  | .feedback task selectedIndex => some (task, selectedIndex)
  | .free | .ended _ | .checking _ | .refusing _ | .showing _ | .preparing _ | .waiting _ _
  | .joining _ _ | .blackout _ | .recovering _ => none

/-! ## What the badge keeps -/

namespace Play
variable {r : Web.Round}

/-! ## The invariant -/

/-- A step of the history in which the badge asked its screen for the
verdict. -/
def Asked (hist : List (Play × PlayEvent)) (verdict : Verdict) : Prop :=
  ∃ q saves badge, (q, PlayEvent.joined saves) ∈ hist ∧ q.verdictNow = some verdict
    ∧ q.badge.step (.joined q.pointValue saves) = some badge
    ∧ badge.inbox = q.badge.inbox
      ++ [{ sender := .activity q.badge.asked, request := verdict.request }]

theorem Asked.cons {hist : List (Play × PlayEvent)} {verdict : Verdict} (h : Asked hist verdict)
    (t : Play × PlayEvent) : Asked (t :: hist) verdict := by
  obtain ⟨q, saves, badge, hmem, hnow, hstep, hinbox⟩ := h
  exact ⟨q, saves, badge, List.mem_cons_of_mem t hmem, hnow, hstep, hinbox⟩

/-- Every verdict that is held or was returned was asked for. -/
structure AllAsked (hist : List (Play × PlayEvent)) (p : Play) : Prop where
  held : ∀ verdict, p.verdict = some verdict → Asked hist verdict
  completions : ∀ completion ∈ p.completions, Asked hist completion.verdict

theorem AllAsked.kept {hist : List (Play × PlayEvent)} {p p' : Play} {t : Play × PlayEvent}
    (h : AllAsked hist p) (hverdict : p'.verdict = p.verdict)
    (hcompletions : ∀ completion ∈ p'.completions, completion ∈ p.completions
      ∨ p.verdict = some completion.verdict) : AllAsked (t :: hist) p' := by
  constructor
  · intro verdict hheld
    exact (h.held verdict (hverdict.symm.trans hheld)).cons t
  · intro completion hc
    rcases hcompletions completion hc with hbefore | hheld
    · exact (h.completions completion hbefore).cons t
    · exact (h.held _ hheld).cons t

end Play

end DurableTrivia.Firmware

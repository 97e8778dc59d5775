import DurableTrivia.BadgeScreen.Wrap
import DurableTrivia.Web.Questions

/-!
# Question — what the question screen shows of a question

`Canvas::question` wraps the prompt into three lines of 31 characters and
each answer into two lines of 11. The check a question passes before it
enters a deck counts characters instead, 68 and 20, so an accepted text
may have its words where the lines break badly. It is shown in full
exactly when there is a way to lay it out.
-/

namespace DurableTrivia.BadgeScreen

/-- Characters in a line of an answer label. -/
def answerLabelChars : Nat := 11

/-- Lines of an answer label. -/
def answerLabelLines : Nat := 2

/-- Characters in a line of the prompt. -/
def promptChars : Nat := 31

/-- Lines of the prompt. -/
def promptLines : Nat := 3

instance : NeZero answerLabelChars := ⟨by decide⟩
instance : NeZero promptChars := ⟨by decide⟩

/-- The lines of the prompt on the screen. -/
def promptShown (prompt : String) : List String := wrap prompt promptChars promptLines

/-- The lines of an answer on its panel. -/
def answerShown (label : String) : List String := wrap label answerLabelChars answerLabelLines

/-- The question screen drops no text. -/
def QuestionShown (prompt : String) (answers : Vector String 4) : Prop :=
  ShownInFull (promptShown prompt) prompt
    ∧ ∀ answer ∈ answers, ShownInFull (answerShown answer) answer

/-- The prompt and each answer can be laid out on their part of the screen. -/
def QuestionHasSpace (prompt : String) (answers : Vector String 4) : Prop :=
  HasSpace prompt promptChars promptLines
    ∧ ∀ answer ∈ answers, HasSpace answer answerLabelChars answerLabelLines

/-- **An accepted question is shown in full exactly when it can be laid out.** -/
theorem accepted_question_shown_iff (toLowercase : String → String) (prompt : String)
    (answers : Vector String 4) :
    (Web.fits toLowercase prompt answers = true → QuestionShown prompt answers) ↔
      (Web.fits toLowercase prompt answers = true → QuestionHasSpace prompt answers) := by
  have hprompt :
      ShownInFull (promptShown prompt) prompt ↔ HasSpace prompt promptChars promptLines :=
    shownInFull_iff (by decide) prompt
  have hanswer : ∀ answer, ShownInFull (answerShown answer) answer ↔
      HasSpace answer answerLabelChars answerLabelLines := shownInFull_iff (by decide)
  simp only [QuestionShown, QuestionHasSpace, hprompt, hanswer]

/-- Three words for two lines. -/
def spreadAnswers : Vector String 4 := #v["aaaaaaa bbbbbbb cccc", "b", "c", "d"]

/-- **An accepted answer loses its last word**: 20 characters that two
lines of 11 would hold if words could be broken. -/
theorem accepted_answer_cut_off :
    Web.fits String.toLower "Which one?" spreadAnswers = true
      ∧ answerShown spreadAnswers[0] = ["aaaaaaa", "bbbbbbb"]
      ∧ ¬ QuestionShown "Which one?" spreadAnswers := by
  have hshown : answerShown spreadAnswers[0] = ["aaaaaaa", "bbbbbbb"] := by decide +kernel
  refine ⟨by decide +kernel, hshown, ?_⟩
  intro hquestion
  have hanswer := hquestion.2 spreadAnswers[0] (by simp)
  rw [hshown] at hanswer
  exact absurd hanswer.length_le (by decide +kernel)

end DurableTrivia.BadgeScreen

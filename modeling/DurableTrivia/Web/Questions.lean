import Mathlib
import DurableTrivia.Shared.Contract

/-!
# Questions — the check a question passes before it enters a deck

`fits` and `validate_questions` (`web/src/questions.rs`). The lower-case
mapping of Unicode is a parameter.
-/

namespace DurableTrivia.Web

open Shared

/-- Characters of a prompt at most. -/
def maxPromptChars : Nat := 68

/-- Characters of an answer at most. -/
def maxAnswerChars : Nat := 20

variable (toLowercase : String → String)

/-- The lengths are right, and the answers distinct and not empty. -/
def fits (prompt : String) (answers : Vector String 4) : Bool :=
  decide (prompt.length ≤ maxPromptChars)
    && answers.all (fun answer => !answer.isEmpty && decide (answer.length ≤ maxAnswerChars))
    && (answers.toList.map toLowercase).toFinset.card == 4

/-- `validate_questions`, with the ids and prompts seen so far. -/
def validateQuestionsFrom (ids prompts : Finset String) : List Question → Except String Unit
  | [] => .ok ()
  | question :: questions =>
    if fits toLowercase question.prompt question.answers = false then
      .error ("question does not fit badge: " ++ question.id)
    else if question.correctIndex > 3 then
      .error ("invalid correct answer index: " ++ question.id)
    else if question.id ∈ ids ∨ toLowercase question.prompt ∈ prompts then
      .error ("duplicate question in deck: " ++ question.id)
    else
      validateQuestionsFrom (insert question.id ids) (insert (toLowercase question.prompt) prompts)
        questions

/-- Check a list of questions, up to the first that is wrong. -/
def validateQuestions (questions : List Question) : Except String Unit :=
  validateQuestionsFrom toLowercase ∅ ∅ questions

/-! ## What a checked deck is -/

/-- Keys that repeat neither each other nor one seen before. -/
def Fresh (seen : Finset String) (keys : List String) : Prop :=
  keys.Nodup ∧ ∀ key ∈ keys, key ∉ seen

theorem fresh_cons {seen : Finset String} {key : String} {keys : List String} :
    Fresh seen (key :: keys) ↔ key ∉ seen ∧ Fresh (insert key seen) keys := by
  unfold Fresh
  constructor
  · rintro ⟨hnodup, hnew⟩
    rw [List.nodup_cons] at hnodup
    refine ⟨hnew key (by simp), hnodup.2, ?_⟩
    intro other hother hmem
    rcases Finset.mem_insert.mp hmem with rfl | hold
    · exact hnodup.1 hother
    · exact hnew other (List.mem_cons_of_mem _ hother) hold
  · rintro ⟨hkey, hnodup, hnew⟩
    refine ⟨List.nodup_cons.mpr ⟨?_, hnodup⟩, ?_⟩
    · intro hmem
      exact hnew key hmem (by simp)
    · intro other hother
      rcases List.mem_cons.mp hother with rfl | hother
      · exact hkey
      · exact fun hold => hnew other hother (Finset.mem_insert_of_mem hold)

/-- A deck in which every question fits and no id or prompt is used twice. -/
structure Checked (ids prompts : Finset String) (questions : List Question) : Prop where
  allFit : ∀ question ∈ questions, fits toLowercase question.prompt question.answers = true
  correctIndex : ∀ question ∈ questions, question.correctIndex ≤ 3
  ids : Fresh ids (questions.map (·.id))
  prompts : Fresh prompts (questions.map fun question => toLowercase question.prompt)

variable {toLowercase}

theorem checked_cons {ids prompts : Finset String} {question : Question}
    {questions : List Question} :
    Checked toLowercase ids prompts (question :: questions) ↔
      (fits toLowercase question.prompt question.answers = true ∧ question.correctIndex ≤ 3
        ∧ question.id ∉ ids ∧ toLowercase question.prompt ∉ prompts)
      ∧ Checked toLowercase (insert question.id ids)
          (insert (toLowercase question.prompt) prompts) questions := by
  constructor
  · rintro ⟨hfit, hindex, hids, hprompts⟩
    rw [List.map_cons, fresh_cons] at hids hprompts
    rw [List.forall_mem_cons] at hfit hindex
    exact ⟨⟨hfit.1, hindex.1, hids.1, hprompts.1⟩, hfit.2, hindex.2, hids.2, hprompts.2⟩
  · rintro ⟨⟨hfit, hindex, hid, hprompt⟩, hrest⟩
    refine ⟨?_, ?_, ?_, ?_⟩
    · exact List.forall_mem_cons.mpr ⟨hfit, hrest.allFit⟩
    · exact List.forall_mem_cons.mpr ⟨hindex, hrest.correctIndex⟩
    · exact fresh_cons.mpr ⟨hid, hrest.ids⟩
    · exact fresh_cons.mpr ⟨hprompt, hrest.prompts⟩

theorem validateQuestionsFrom_ok {questions : List Question} {ids prompts : Finset String} :
    validateQuestionsFrom toLowercase ids prompts questions = .ok () ↔
      Checked toLowercase ids prompts questions := by
  induction questions generalizing ids prompts with
  | nil =>
      constructor
      · intro _
        exact ⟨by simp, by simp, by simp [Fresh], by simp [Fresh]⟩
      · intro _
        rfl
  | cons question questions ih =>
      rw [checked_cons, ← ih, validateQuestionsFrom]
      by_cases hfit : fits toLowercase question.prompt question.answers = true
      · by_cases hindex : question.correctIndex > 3
        · simp [hfit, hindex, UInt8.not_le.mpr hindex]
        · by_cases hseen : question.id ∈ ids ∨ toLowercase question.prompt ∈ prompts
          · rcases hseen with hid | hprompt
            · simp [hfit, hindex, hid]
            · simp [hfit, hindex, hprompt]
          · rw [not_or] at hseen
            simp [hfit, hindex, UInt8.not_lt.mp hindex, hseen.1, hseen.2]
      · simp [hfit]

/-- **A deck passes exactly when there is nothing to report.** -/
theorem validateQuestions_ok {questions : List Question} :
    validateQuestions toLowercase questions = .ok () ↔ Checked toLowercase ∅ ∅ questions :=
  validateQuestionsFrom_ok

/-! ## Parts and permutations of a checked deck -/

theorem Fresh.sublist {seen : Finset String} {keys fewer : List String} (h : Fresh seen keys)
    (hsub : fewer.Sublist keys) : Fresh seen fewer :=
  ⟨h.1.sublist hsub, fun key hkey => h.2 key (hsub.subset hkey)⟩

theorem Fresh.perm {seen : Finset String} {keys others : List String} (h : Fresh seen keys)
    (hperm : others.Perm keys) : Fresh seen others :=
  ⟨hperm.nodup_iff.mpr h.1, fun key hkey => h.2 key (hperm.mem_iff.mp hkey)⟩

theorem Checked.sublist {ids prompts : Finset String} {questions fewer : List Question}
    (h : Checked toLowercase ids prompts questions) (hsub : fewer.Sublist questions) :
    Checked toLowercase ids prompts fewer :=
  { allFit := fun question hmem => h.allFit question (hsub.subset hmem)
    correctIndex := fun question hmem => h.correctIndex question (hsub.subset hmem)
    ids := h.ids.sublist (hsub.map _)
    prompts := h.prompts.sublist (hsub.map _) }

theorem Checked.perm {ids prompts : Finset String} {questions others : List Question}
    (h : Checked toLowercase ids prompts questions) (hperm : others.Perm questions) :
    Checked toLowercase ids prompts others :=
  { allFit := fun question hmem => h.allFit question (hperm.mem_iff.mp hmem)
    correctIndex := fun question hmem => h.correctIndex question (hperm.mem_iff.mp hmem)
    ids := h.ids.perm (hperm.map _)
    prompts := h.prompts.perm (hperm.map _) }

/-- Whether answers fit does not depend on their order. -/
theorem fits_perm {prompt : String} {answers others : Vector String 4}
    (h : others.toList.Perm answers.toList) :
    fits toLowercase prompt others = fits toLowercase prompt answers := by
  have hall : ∀ p : String → Bool, others.all p = answers.all p := by
    intro p
    rw [← Vector.all_toList, ← Vector.all_toList]
    exact h.all_eq
  have hlower : (others.toList.map toLowercase).toFinset
      = (answers.toList.map toLowercase).toFinset :=
    List.toFinset_eq_of_perm _ _ (h.map _)
  unfold fits
  rw [hall, hlower]

end DurableTrivia.Web

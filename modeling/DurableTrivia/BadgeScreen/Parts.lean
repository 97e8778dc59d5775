import DurableTrivia.BadgeScreen.Regions

/-!
# Parts — the question screen divided among what is drawn on it

The question screen is the callsign, the rule under it, the prompt, and
the frame, the button and the label of each panel. Every part keeps to a
region that no other part reaches, so a text of any length stays in its
own region, and questions that differ in one text differ there only.
-/

namespace DurableTrivia.BadgeScreen

open DurableTrivia.Shared

/-- What is drawn on the question screen. -/
inductive Part where
  | callsign
  | rule
  | prompt
  | frame (index : Fin 4)
  | button (index : Fin 4)
  | label (index : Fin 4)
  deriving DecidableEq

/-- The box of a panel. -/
def panelBox (index : Fin 4) : Set Pixel :=
  box (panelOrigin index).1 (panelOrigin index).2 answerPanelWidth answerPanelHeight

namespace Part

/-- The pixels a part lights. -/
def area (callsign : String) (question : Question) : Part → Set Pixel
  | .callsign => textArea 0 0 callsign
  | .rule => hlineArea 0 (width - 1) headerRuleY
  | .prompt => promptArea question.prompt
  | .frame index =>
      frameArea (panelOrigin index).1 (panelOrigin index).2 answerPanelWidth answerPanelHeight
  | .button index => buttonArea index ((panelOrigin index).1 + 2) ((panelOrigin index).2 + 3)
  | .label index =>
      labelArea (panelOrigin index).1 (panelOrigin index).2 (question.answers.get index)

/-- The pixels a part is given. -/
def region : Part → Set Pixel
  | .callsign => {p | p.2 < 7}
  | .rule => {p | p.2 = 8}
  | .prompt => {p | 11 ≤ p.2 ∧ p.2 < 28}
  | .frame index =>
      panelBox index \ box ((panelOrigin index).1 + 2) ((panelOrigin index).2 + 1) 59 14
  | .button index => box ((panelOrigin index).1 + 2) ((panelOrigin index).2 + 3) 10 10
  | .label index => labelBox index

/-- The panel a part belongs to. -/
def panel : Part → Option (Fin 4)
  | .callsign | .rule | .prompt => none
  | .frame index | .button index | .label index => some index

variable {callsign : String} {question : Question} {part other : Part} {p : Pixel}

/-! ## Every part keeps to its region -/

theorem area_subset_region (callsign : String) (question : Question) (part : Part) :
    part.area callsign question ⊆ part.region := by
  intro p hp
  cases part with
  | callsign =>
      have hrows := textArea_rows hp
      show p.2 < 7
      omega
  | rule =>
      obtain ⟨column, _, rfl, _⟩ := hp
      rfl
  | prompt => exact promptArea_rows hp
  | frame index => exact frameArea_border (by decide) (by decide) hp
  | button index => exact buttonArea_subset index hp
  | label index => exact wrappedArea_subset _ (by decide) hp

/-- The parts of a panel are inside it. -/
theorem region_subset_panelBox {index : Fin 4} (h : part.panel = some index) :
    part.region ⊆ panelBox index := by
  intro p hp
  cases part with
  | callsign | rule | prompt => cases h
  | frame i =>
      cases h
      exact hp.1
  | button i =>
      cases h
      change p ∈ box _ _ 10 10 at hp
      show p ∈ box _ _ answerPanelWidth answerPanelHeight
      simp only [box, answerPanelWidth, answerPanelHeight, Set.mem_ofPred_eq] at hp ⊢
      omega
  | label i =>
      cases h
      exact labelBox_subset _ hp

/-- The other parts are above the panels. -/
theorem row_of_region (h : part.panel = none) (hp : p ∈ part.region) : p.2 < 28 := by
  cases part with
  | callsign => exact Nat.lt_trans hp (by decide)
  | rule => exact Nat.lt_of_le_of_lt (Nat.le_of_eq hp) (by decide)
  | prompt => exact hp.2
  | frame i | button i | label i => cases h

theorem row_of_panel {index : Fin 4} (hp : p ∈ panelBox index) : 30 ≤ p.2 :=
  Nat.le_trans (panelOrigin_low index) hp.2.1

/-! ## No part reaches another -/

/-- Above the panels the rows tell the parts apart. -/
theorem eq_of_rows (hpart : part.panel = none) (hother : other.panel = none)
    (hp : p ∈ part.region) (hp' : p ∈ other.region) : part = other := by
  cases part with
  | frame i | button i | label i => cases hpart
  | callsign | rule | prompt =>
      cases other with
      | frame j | button j | label j => cases hother
      | callsign | rule | prompt =>
          simp only [region, Set.mem_ofPred_eq] at hp hp'
          first
          | rfl
          | omega

/-- A frame is around its button and its label, and these are side by side. -/
theorem eq_of_panel {index : Fin 4} (hpart : part.panel = some index)
    (hother : other.panel = some index) (hp : p ∈ part.region) (hp' : p ∈ other.region) :
    part = other := by
  cases part with
  | callsign | rule | prompt => cases hpart
  | frame i | button i | label i =>
      cases hpart
      cases other with
      | callsign | rule | prompt => cases hother
      | frame j | button j | label j =>
          cases hother
          simp only [region, labelBox, box, Set.mem_sdiff, Set.mem_ofPred_eq] at hp hp'
          first
          | rfl
          | omega

/-- **No part reaches another's region.** -/
theorem eq_of_mem_region (hp : p ∈ part.region) (hp' : p ∈ other.region) : part = other := by
  cases hpart : part.panel with
  | none =>
      cases hother : other.panel with
      | none => exact eq_of_rows hpart hother hp hp'
      | some j =>
          have hlow := row_of_panel (region_subset_panelBox hother hp')
          have hhigh := row_of_region hpart hp
          omega
  | some i =>
      have hi := region_subset_panelBox hpart hp
      cases hother : other.panel with
      | none =>
          have hlow := row_of_panel hi
          have hhigh := row_of_region hother hp'
          omega
      | some j =>
          obtain rfl : i = j := eq_of_mem_panels hi (region_subset_panelBox hother hp')
          exact eq_of_panel hpart hother hp hp'

end Part

/-! ## The screen is its parts -/

variable {c c' : Canvas} {callsign callsign' : String} {question question' : Question} {p : Pixel}

theorem mem_lit_question :
    p ∈ (c.question callsign question).lit ↔ ∃ part : Part, p ∈ part.area callsign question := by
  rw [Canvas.lit_question]
  constructor
  · rintro (((htext | hrule) | hprompt) | ⟨index, _, (hframe | hbutton) | hlabel⟩)
    · exact ⟨.callsign, htext⟩
    · exact ⟨.rule, hrule⟩
    · exact ⟨.prompt, hprompt⟩
    · exact ⟨.frame index, hframe⟩
    · exact ⟨.button index, hbutton⟩
    · exact ⟨.label index, hlabel⟩
  · rintro ⟨part, hp⟩
    cases part with
    | callsign => exact .inl (.inl (.inl hp))
    | rule => exact .inl (.inl (.inr hp))
    | prompt => exact .inl (.inr hp)
    | frame index => exact .inr ⟨index, List.mem_finRange index, .inl (.inl hp)⟩
    | button index => exact .inr ⟨index, List.mem_finRange index, .inl (.inr hp)⟩
    | label index => exact .inr ⟨index, List.mem_finRange index, .inr hp⟩

/-- Screens that agree in all parts but one differ in the region of that one. -/
theorem mem_region_of_differ {changed : Part}
    (hkept : ∀ part, part ≠ changed → part.area callsign question = part.area callsign' question')
    {x y : Nat} (hdiffer : (c.question callsign question).isLit x y
      ≠ (c'.question callsign' question').isLit x y) : (x, y) ∈ changed.region := by
  by_contra hout
  have hsame : ∀ part : Part, (x, y) ∈ part.area callsign question
      ↔ (x, y) ∈ part.area callsign' question' := by
    intro part
    by_cases hpart : part = changed
    · subst hpart
      exact iff_of_false (fun h => hout (Part.area_subset_region _ _ part h))
        fun h => hout (Part.area_subset_region _ _ part h)
    · rw [hkept part hpart]
  apply hdiffer
  rw [Bool.eq_iff_iff]
  have hlit : (x, y) ∈ (c.question callsign question).lit
      ↔ (x, y) ∈ (c'.question callsign' question').lit := by
    rw [mem_lit_question, mem_lit_question]
    exact exists_congr hsame
  exact hlit

/-- **The regions of the question screen never overlap**: a changed answer
shows in the label area of its panel only, a changed prompt in its rows,
a changed callsign in the rows of the header; and no part of the screen
lights a pixel of another. -/
theorem question_regions_apart :
    (∀ (c c' : Canvas) callsign (question question' : Question) (index : Fin 4),
        question.prompt = question'.prompt →
        (∀ other, other ≠ index → question.answers.get other = question'.answers.get other) →
        ∀ x y, (c.question callsign question).isLit x y
            ≠ (c'.question callsign question').isLit x y →
          ((panelOrigin index).1 + 14 ≤ x ∧ x ≤ (panelOrigin index).1 + 56)
            ∧ (panelOrigin index).2 + 3 ≤ y ∧ y ≤ (panelOrigin index).2 + 13)
      ∧ (∀ (c c' : Canvas) callsign (question question' : Question),
        question.answers = question'.answers →
        ∀ x y, (c.question callsign question).isLit x y
            ≠ (c'.question callsign question').isLit x y → 11 ≤ y ∧ y ≤ 27)
      ∧ (∀ (c c' : Canvas) callsign callsign' (question : Question),
        ∀ x y, (c.question callsign question).isLit x y
            ≠ (c'.question callsign' question).isLit x y → y ≤ 6)
      ∧ ∀ callsign (question : Question) (part other : Part), part ≠ other →
        Disjoint (part.area callsign question) (other.area callsign question) := by
  refine ⟨?_, ?_, ?_, ?_⟩
  · intro c c' callsign question question' index hprompt hanswers x y hdiffer
    have hregion : (x, y) ∈ (Part.label index).region := by
      refine mem_region_of_differ ?_ hdiffer
      intro part hpart
      cases part with
      | callsign | rule | frame _ | button _ => rfl
      | prompt => exact congrArg promptArea hprompt
      | label other =>
          have hother : other ≠ index := fun h => hpart (congrArg Part.label h)
          exact congrArg (labelArea _ _) (hanswers other hother)
    change (x, y) ∈ box _ _ 43 11 at hregion
    simp only [box, Set.mem_ofPred_eq] at hregion
    omega
  · intro c c' callsign question question' hanswers x y hdiffer
    have hregion : (x, y) ∈ Part.prompt.region := by
      refine mem_region_of_differ ?_ hdiffer
      intro part hpart
      cases part with
      | callsign | rule | frame _ | button _ => rfl
      | prompt => exact absurd rfl hpart
      | label index =>
          have hanswer : question.answers.get index = question'.answers.get index := by
            rw [hanswers]
          exact congrArg (labelArea _ _) hanswer
    have hrows : 11 ≤ y ∧ y < 28 := hregion
    omega
  · intro c c' callsign callsign' question x y hdiffer
    have hregion : (x, y) ∈ Part.callsign.region := by
      refine mem_region_of_differ ?_ hdiffer
      intro part hpart
      cases part with
      | callsign => exact absurd rfl hpart
      | rule | prompt | frame _ | button _ | label _ => rfl
    have hrows : y < 7 := hregion
    omega
  · intro callsign question part other hne
    rw [Set.disjoint_left]
    intro p hp hp'
    exact hne (Part.eq_of_mem_region (Part.area_subset_region _ _ part hp)
      (Part.area_subset_region _ _ other hp'))

end DurableTrivia.BadgeScreen

import DurableTrivia.BadgeScreen.Fold
import DurableTrivia.Web.DeckMix

/-!
# DeckRenderable — the deck against the badge's font

The badge draws what `is_renderable` accepts. Every authored question
consists of such characters, but `general_questions` never asks: the deck
can be drawn exactly when the general questions dealt into it can. How
many of them that is depends on the sizes of the pools only.
-/

namespace DurableTrivia.Web

open DurableTrivia.Shared DurableTrivia.BadgeScreen DurableTrivia.Lib

/-- Every character of the prompt and of the answers can be drawn. -/
def QuestionRenderable (question : Question) : Prop :=
  Renderable question.prompt ∧ ∀ answer ∈ question.answers.toList, Renderable answer

/-- No character of the deck reaches a badge that cannot draw it. -/
def DeckRenderable (deck : List Question) : Prop :=
  ∀ question ∈ deck, QuestionRenderable question

/-! ## The authored questions -/

/-- A text of printable ASCII, read off its bytes. -/
def printable (text : String) : Bool :=
  (utf8Bytes text).all fun byte => Nat.ble 32 byte.toNat && Nat.ble byte.toNat 126

theorem renderable_of_printable {text : String} (h : printable text = true) :
    Renderable text := by
  have hbytes : ∀ byte ∈ utf8Bytes text, 32 ≤ byte.toNat ∧ byte.toNat ≤ 126 := by
    intro byte hbyte
    have hboth := List.all_eq_true.mp h byte hbyte
    rw [Bool.and_eq_true, Nat.ble_eq, Nat.ble_eq] at hboth
    exact hboth
  intro c hc
  obtain ⟨byte, hbyte, rfl⟩ := exists_byte_of_ascii
    (fun byte hbyte => Nat.lt_of_le_of_lt (hbytes byte hbyte).2 (by decide)) hc
  exact isRenderable_of_ascii (hbytes byte hbyte)

theorem renderable_append {a b : String} :
    Renderable (a ++ b) ↔ Renderable a ∧ Renderable b := by
  unfold Renderable
  rw [String.toList_append]
  exact List.forall_mem_append

theorem renderable_toString (n : Nat) : Renderable (toString n) := by
  have hdigit : ∀ c : Char, c.isDigit = true → isRenderable c = true := by
    intro c hc
    have hrange : 48 ≤ c.toNat ∧ c.toNat ≤ 57 := by
      unfold Char.isDigit at hc
      rw [Bool.and_eq_true, decide_eq_true_eq, decide_eq_true_eq] at hc
      exact hc
    rw [← Char.ofNat_toNat c]
    exact isRenderable_of_ascii (by omega)
  intro c hc
  rw [show (toString n).toList = Nat.toDigits 10 n from Nat.toList_repr] at hc
  exact hdigit c (Nat.isDigit_of_mem_toDigits (by decide) (by decide) hc)

theorem questionRenderable_math (n : Nat) : QuestionRenderable (mathQuestion n) := by
  have hwhat : Renderable "What is " := renderable_of_printable (by decide +kernel)
  have hplus : Renderable " + " := renderable_of_printable (by decide +kernel)
  have hmark : Renderable "?" := renderable_of_printable (by decide +kernel)
  constructor
  · simp only [mathQuestion, q, renderable_append]
    exact ⟨⟨⟨⟨hwhat, renderable_toString _⟩, hplus⟩, renderable_toString _⟩, hmark⟩
  · intro answer hanswer
    simp only [mathQuestion, q, Vector.toList_mk, List.mem_cons, List.not_mem_nil, or_false,
      Vector.getElem_mk, List.getElem_toArray, List.getElem_cons_zero,
      List.getElem_cons_succ] at hanswer
    rcases hanswer with rfl | rfl | rfl | rfl
    all_goals exact renderable_toString _

theorem printable_technical : (rustQuestions ++ temporalQuestions).all (fun question =>
    printable question.prompt && question.answers.toList.all printable) = true := by
  decide +kernel

theorem deckRenderable_of_printable {deck : List Question} (h : deck.all (fun question =>
    printable question.prompt && question.answers.toList.all printable) = true) :
    DeckRenderable deck := by
  intro question hmem
  have hboth := List.all_eq_true.mp h question hmem
  rw [Bool.and_eq_true, List.all_eq_true] at hboth
  exact ⟨renderable_of_printable hboth.1,
    fun answer hanswer => renderable_of_printable (hboth.2 answer hanswer)⟩

/-- **Every authored question can be drawn.** -/
theorem deckRenderable_authored :
    DeckRenderable (rustQuestions ++ temporalQuestions ++ mathQuestions) := by
  intro question hmem
  rcases List.mem_append.mp hmem with htechnical | hmath
  · exact deckRenderable_of_printable printable_technical question htechnical
  · obtain ⟨n, _, rfl⟩ := List.mem_map.mp hmath
    exact questionRenderable_math n

/-! ## The general places of a deck -/

/-- The categories of the first `maximum` places, for a general pool of
this size. -/
def placeCategories (general maximum : Nat) : List String :=
  (fullOrder [⟨List.replicate rustQuestions.length "rust", 30⟩,
    ⟨List.replicate temporalQuestions.length "temporal", 15⟩,
    ⟨List.replicate mathQuestions.length "math", 15⟩,
    ⟨List.replicate general "general", 40⟩]).take maximum

/-- How many of the first `maximum` places are for general questions. -/
def generalPlaces (general maximum : Nat) : Nat :=
  (placeCategories general maximum).countP (· == "general")

variable {o : Outside} {source : List SourceQuestion} {seed : UInt64} {maximum : Nat}

/-- The general questions in the order of their shuffle. -/
def shuffledGeneral (o : Outside) (source : List SourceQuestion) (seed : UInt64) :
    List Question :=
  ((pools o source).shuffle o (o.generator.seedFromU64 seed)).1.general

theorem categories_order :
    ((fullOrder ((pools o source).shuffle o (o.generator.seedFromU64 seed)).1.stocks).take
        maximum).map (·.category)
      = placeCategories (pools o source).general.length maximum := by
  have hcat := categorised_shuffle source (o.generator.seedFromU64 seed)
  have hgiven : ((pools o source).shuffle o (o.generator.seedFromU64 seed)).1.general.length
      = (pools o source).general.length := (o.generator.perm _ _).length_eq
  have hlabels : ∀ (xs : List Question) (label : String),
      (∀ question ∈ xs, question.category = label) →
      xs.map (·.category) = List.replicate xs.length label := by
    intro xs label h
    rw [List.eq_replicate_iff, List.length_map]
    refine ⟨rfl, ?_⟩
    intro category hmem
    obtain ⟨question, hquestion, rfl⟩ := List.mem_map.mp hmem
    exact h question hquestion
  rw [List.map_take, map_fullOrder, placeCategories, length_rustQuestions,
    length_temporalQuestions, length_mathQuestions, ← hgiven]
  simp only [Pools.stocks, List.map_cons, List.map_nil, Stock.map, hlabels _ _ hcat.rust.2,
    hlabels _ _ hcat.temporal.2, hlabels _ _ hcat.math.2, hlabels _ _ hcat.general, hcat.rust.1,
    hcat.temporal.1, hcat.math.1]

/-- The general questions of a cut are the first ones of the pool. -/
theorem filter_general_order :
    ((fullOrder ((pools o source).shuffle o (o.generator.seedFromU64 seed)).1.stocks).take
        maximum).filter (fun question => question.category == "general")
      = (shuffledGeneral o source seed).take
          (generalPlaces (pools o source).general.length maximum) := by
  have hcat := categorised_shuffle source (o.generator.seedFromU64 seed)
  generalize hgiven : ((pools o source).shuffle o (o.generator.seedFromU64 seed)).1 = given at hcat
  have hfilter := filter_take_fullOrder
    [⟨given.rust, 30⟩, ⟨given.temporal, 15⟩, ⟨given.math, 15⟩] [] ⟨given.general, 40⟩
    (all_of_category hcat.general) (by rw [List.append_nil]; exact none_general hcat) maximum
  have hplaces : ((fullOrder given.stocks).take maximum).countP
      (fun question => question.category == "general")
        = generalPlaces (pools o source).general.length maximum := by
    rw [generalPlaces, ← @categories_order o source seed maximum, List.countP_map, hgiven]
    rfl
  unfold shuffledGeneral
  rw [hgiven, ← hplaces]
  exact hfilter

/-! ## The deck -/

theorem questionRenderable_reshuffled {original question : Question}
    (h : Reshuffled original question) :
    QuestionRenderable question ↔ QuestionRenderable original := by
  unfold QuestionRenderable
  rw [h.prompt]
  simp only [h.answers.mem_iff]

theorem deckRenderable_reshuffled {questions deck : List Question}
    (h : List.Forall₂ Reshuffled questions deck) :
    DeckRenderable deck ↔ DeckRenderable questions := by
  unfold DeckRenderable
  induction h with
  | nil => exact Iff.rfl
  | cons hfirst _ ih =>
      rw [List.forall_mem_cons, List.forall_mem_cons, ih, questionRenderable_reshuffled hfirst]

/-- A deck can be drawn when its general questions can. -/
theorem deckRenderable_cut :
    DeckRenderable ((fullOrder
        ((pools o source).shuffle o (o.generator.seedFromU64 seed)).1.stocks).take maximum)
      ↔ DeckRenderable ((shuffledGeneral o source seed).take
          (generalPlaces (pools o source).general.length maximum)) := by
  rw [← filter_general_order]
  constructor
  · intro h question hmem
    exact h question (List.mem_filter.mp hmem).1
  · intro h question hmem
    by_cases hgeneral : (question.category == "general") = true
    · exact h question (List.mem_filter.mpr ⟨hmem, hgeneral⟩)
    · have hpool := order_perm.mem_iff.mp (List.mem_of_mem_take hmem)
      rw [Pools.all, List.mem_append] at hpool
      rcases hpool with hauthored | hother
      · exact deckRenderable_authored question hauthored
      · exact absurd (all_of_category (category_generalQuestions o source) question hother) hgeneral

/-- **A deck can be drawn exactly when the general questions that come
first in their shuffle can**; and every deck of a source can exactly when
every question accepted from it can, or its pools fail the check. -/
theorem deck_renderable_iff (o : Outside) (source : List SourceQuestion) :
    (∀ (seed : UInt64) (maximum : Nat) (deck : List Question),
        buildDeck o source seed maximum = .ok deck →
        (DeckRenderable deck ↔ DeckRenderable ((shuffledGeneral o source seed).take
          (generalPlaces (pools o source).general.length maximum))))
      ∧ ((∀ (seed : UInt64) (maximum : Nat) (deck : List Question),
          buildDeck o source seed maximum = .ok deck → DeckRenderable deck)
        ↔ validateQuestions o.toLowercase (pools o source).all ≠ .ok ()
          ∨ DeckRenderable (generalQuestions o source)) := by
  have hdeck : ∀ (seed : UInt64) (maximum : Nat) (deck : List Question),
      buildDeck o source seed maximum = .ok deck →
      (DeckRenderable deck ↔ DeckRenderable (dealt o source seed maximum).1) := by
    intro seed maximum deck h
    obtain ⟨_, _, hsame⟩ := of_buildDeck_ok h
    exact deckRenderable_reshuffled hsame
  have hdealt : ∀ (seed : UInt64) (maximum : Nat),
      DeckRenderable (dealt o source seed maximum).1 ↔ DeckRenderable ((fullOrder
        ((pools o source).shuffle o (o.generator.seedFromU64 seed)).1.stocks).take maximum) := by
    intro seed maximum
    unfold DeckRenderable
    simp only [dealt_perm.mem_iff]
  refine ⟨fun seed maximum deck h => ?_, ?_, ?_⟩
  · rw [hdeck seed maximum deck h, hdealt, deckRenderable_cut]
  · intro hall
    by_cases hvalid : validateQuestions o.toLowercase (pools o source).all = .ok ()
    · right
      -- the deck of all questions has every general one in it
      rcases @buildDeck_eq o source 0 _ hvalid with ⟨hshort, _⟩ | ⟨_, deck, hok, _⟩
      · exact absurd hshort (Nat.lt_irrefl _)
      · have hcut := (hdealt 0 _).mp ((hdeck 0 _ deck hok).mp (hall 0 _ deck hok))
        intro question hmem
        apply hcut
        rw [List.take_of_length_le order_perm.length_eq.le]
        apply order_perm.mem_iff.mpr
        exact List.mem_append_right _ hmem
    · exact .inl hvalid
  · intro hcond seed maximum deck h
    obtain ⟨hvalid, _, _⟩ := of_buildDeck_ok h
    rcases hcond with hinvalid | hgeneral
    · exact absurd hvalid hinvalid
    · rw [hdeck seed maximum deck h, hdealt, deckRenderable_cut]
      intro question hmem
      apply hgeneral
      exact (o.generator.perm _ _).mem_iff.mp (List.mem_of_mem_take hmem)

/-- A deck of a hundred questions, forty of them general, can be drawn. -/
theorem deck_renderable_iff_demo :
    generalPlaces (pools demoOutside countingSource).general.length 100 = 40
      ∧ ∃ deck, buildDeck demoOutside countingSource 7 100 = .ok deck ∧ DeckRenderable deck := by
  have hcounting : DeckRenderable countingQuestions :=
    deckRenderable_of_printable (by decide +kernel)
  have hplaces : generalPlaces (pools demoOutside countingSource).general.length 100 = 40 := by
    rw [general_counting]
    decide +kernel
  obtain ⟨deck, hdeck⟩ := exists_counting_deck
  refine ⟨hplaces, deck, hdeck,
    ((deck_renderable_iff demoOutside countingSource).1 7 100 deck hdeck).mpr ?_⟩
  have hshuffled : shuffledGeneral demoOutside countingSource 7 = countingQuestions :=
    general_counting
  rw [hplaces, hshuffled]
  exact fun question hmem => hcounting question (List.mem_of_mem_take hmem)

/-- The whole demo pool has a prompt the badge cannot draw. -/
theorem deck_has_unrenderable_prompt :
    ¬ ∀ (o : Outside) (source : List SourceQuestion) (seed : UInt64) (maximum : Nat)
      (deck : List Question), buildDeck o source seed maximum = .ok deck →
      DeckRenderable deck := by
  intro hall
  rcases @buildDeck_eq demoOutside demoSource 7 146 validateQuestions_demo
    with ⟨hshort, _⟩ | ⟨_, deck, hdeck, hsame⟩
  · rw [length_pools_demo] at hshort
    omega
  · have hcut : DeckRenderable (dealt demoOutside demoSource 7 146).1 :=
      (deckRenderable_reshuffled hsame).mp (hall _ _ _ _ deck hdeck)
    have hmem : demoQuestion ∈ (dealt demoOutside demoSource 7 146).1 := by
      apply dealt_perm.mem_iff.mpr
      rw [List.take_of_length_le (by rw [order_perm.length_eq, length_pools_demo])]
      apply order_perm.mem_iff.mpr
      apply List.mem_append_right
      have hone : (pools demoOutside demoSource).general = [demoQuestion] := generalQuestions_demo
      rw [hone]
      exact List.mem_singleton_self _
    have hpi : 'π' ∈ demoQuestion.prompt.toList := by simp [demoQuestion]
    exact absurd ((hcut demoQuestion hmem).1 'π' hpi) (by decide)

end DurableTrivia.Web

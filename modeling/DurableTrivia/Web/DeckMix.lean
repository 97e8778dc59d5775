import DurableTrivia.Web.DeckBuilt

/-!
# DeckMix — the categories of a deck

The agreed mix is 30% Rust, 15% Temporal, 15% math and the rest general.
The builder keeps it batch by batch: a deck cut inside the first batch
has too many Rust questions, and once the Rust and Temporal pools are
used up every later batch deals its 15 sums to 40 general questions.
-/

namespace DurableTrivia.Web

open DurableTrivia.Shared DurableTrivia.Lib

/-- How many questions of a category a deck has. -/
def countOf (category : String) (deck : List Question) : Nat :=
  deck.countP fun question => question.category == category

/-- `percent` of `maximum`, rounded up. -/
def share (percent maximum : Nat) : Nat :=
  (percent * maximum + 99) / 100

/-- No authored category exceeds its share, and the rest is general. -/
structure MixKept (maximum : Nat) (deck : List Question) : Prop where
  rust : countOf "rust" deck ≤ share 30 maximum
  temporal : countOf "temporal" deck ≤ share 15 maximum
  math : countOf "math" deck ≤ share 15 maximum
  rest : countOf "general" deck
    = maximum - countOf "rust" deck - countOf "temporal" deck - countOf "math" deck

/-- The general pool can supply what the authored shares leave. -/
def GeneralSupplies (maximum general : Nat) : Prop :=
  maximum ≤ min rustQuestions.length (share 30 maximum)
    + min temporalQuestions.length (share 15 maximum)
    + min mathQuestions.length (share 15 maximum) + general

instance (maximum general : Nat) : Decidable (GeneralSupplies maximum general) :=
  inferInstanceAs (Decidable (_ ≤ _))

/-! ## Pools by category -/

/-- Pools of the authored sizes, each of its own category. -/
structure Categorised (given : Pools) : Prop where
  rust : given.rust.length = 30 ∧ ∀ question ∈ given.rust, question.category = "rust"
  temporal : given.temporal.length = 15
    ∧ ∀ question ∈ given.temporal, question.category = "temporal"
  math : given.math.length = 100 ∧ ∀ question ∈ given.math, question.category = "math"
  general : ∀ question ∈ given.general, question.category = "general"

theorem category_generalQuestions (o : Outside) (source : List SourceQuestion) :
    ∀ question ∈ generalQuestions o source, question.category = "general" := by
  have hone : ∀ (seen : Finset String) (index : Nat) (raw : SourceQuestion) (question : Question),
      acceptSource o seen index raw = some question → question.category = "general" := by
    intro seen index raw question h
    unfold acceptSource at h
    dsimp only at h
    split at h
    · cases h
    · split at h
      · cases h
      · split at h
        · cases h
        · cases h
          rfl
  have hall : ∀ (source : List SourceQuestion) (seen : Finset String) (index : Nat),
      ∀ question ∈ generalQuestionsFrom o seen index source, question.category = "general" := by
    intro source
    induction source with
    | nil => simp [generalQuestionsFrom]
    | cons raw source ih =>
        intro seen index question hmem
        unfold generalQuestionsFrom at hmem
        cases haccept : acceptSource o seen index raw with
        | none =>
            rw [haccept] at hmem
            exact ih _ _ question hmem
        | some accepted =>
            rw [haccept] at hmem
            rcases List.mem_cons.mp hmem with rfl | hmem
            · exact hone _ _ _ _ haccept
            · exact ih _ _ question hmem
  exact hall source ∅ 0

theorem categorised_shuffle {o : Outside} (source : List SourceQuestion)
    (rng : o.generator.Rng) : Categorised ((pools o source).shuffle o rng).1 := by
  have hperm : ∀ (xs : List Question) (rng : o.generator.Rng) (category : String),
      (∀ question ∈ xs, question.category = category) →
      (o.generator.shuffle xs rng).1.length = xs.length
        ∧ ∀ question ∈ (o.generator.shuffle xs rng).1, question.category = category := by
    intro xs rng category h
    have hshuffle := o.generator.perm xs rng
    exact ⟨hshuffle.length_eq, fun question hmem => h question (hshuffle.mem_iff.mp hmem)⟩
  constructor
  · exact hperm _ _ "rust" category_rustQuestions
  · exact hperm _ _ "temporal" category_temporalQuestions
  · obtain ⟨hlen, hcat⟩ := hperm _ _ "math" category_mathQuestions
    exact ⟨hlen.trans length_mathQuestions, hcat⟩
  · exact (hperm _ _ "general" (category_generalQuestions o source)).2

/-- Stocks of three other categories have no question of this one. -/
theorem none_of_others {category label₁ label₂ label₃ : String} {s₁ s₂ s₃ : Stock Question}
    (h₁ : label₁ ≠ category ∧ ∀ question ∈ s₁.cards, question.category = label₁)
    (h₂ : label₂ ≠ category ∧ ∀ question ∈ s₂.cards, question.category = label₂)
    (h₃ : label₃ ≠ category ∧ ∀ question ∈ s₃.cards, question.category = label₃) :
    ∀ other ∈ [s₁, s₂, s₃], ∀ question ∈ other.cards, (question.category == category) = false := by
  have hnone : ∀ {label : String} {stock : Stock Question},
      (label ≠ category ∧ ∀ question ∈ stock.cards, question.category = label) →
      ∀ question ∈ stock.cards, (question.category == category) = false := by
    intro label stock ⟨hne, hlabel⟩ question hmem
    rw [hlabel question hmem]
    exact beq_false_of_ne hne
  intro other hother
  simp only [List.mem_cons, List.not_mem_nil, or_false] at hother
  rcases hother with rfl | rfl | rfl
  · exact hnone h₁
  · exact hnone h₂
  · exact hnone h₃

theorem all_of_category {category : String} {xs : List Question}
    (h : ∀ question ∈ xs, question.category = category) :
    ∀ question ∈ xs, (question.category == category) = true := by
  intro question hmem
  rw [h question hmem, beq_self_eq_true]

section Order
variable {given : Pools} (h : Categorised given)
include h

theorem none_rust : ∀ other ∈ ([⟨given.temporal, 15⟩, ⟨given.math, 15⟩, ⟨given.general, 40⟩] :
    List (Stock Question)), ∀ question ∈ other.cards, (question.category == "rust") = false :=
  none_of_others ⟨by decide, h.temporal.2⟩ ⟨by decide, h.math.2⟩ ⟨by decide, h.general⟩

theorem none_temporal : ∀ other ∈ ([⟨given.rust, 30⟩, ⟨given.math, 15⟩, ⟨given.general, 40⟩] :
    List (Stock Question)), ∀ question ∈ other.cards, (question.category == "temporal") = false :=
  none_of_others ⟨by decide, h.rust.2⟩ ⟨by decide, h.math.2⟩ ⟨by decide, h.general⟩

theorem none_math : ∀ other ∈ ([⟨given.rust, 30⟩, ⟨given.temporal, 15⟩, ⟨given.general, 40⟩] :
    List (Stock Question)), ∀ question ∈ other.cards, (question.category == "math") = false :=
  none_of_others ⟨by decide, h.rust.2⟩ ⟨by decide, h.temporal.2⟩ ⟨by decide, h.general⟩

theorem none_general : ∀ other ∈ ([⟨given.rust, 30⟩, ⟨given.temporal, 15⟩, ⟨given.math, 15⟩] :
    List (Stock Question)), ∀ question ∈ other.cards, (question.category == "general") = false :=
  none_of_others ⟨by decide, h.rust.2⟩ ⟨by decide, h.temporal.2⟩ ⟨by decide, h.math.2⟩

/-- No cut has more of an authored category than its pool. -/
theorem countOf_take_le (maximum : Nat) :
    countOf "rust" ((fullOrder given.stocks).take maximum) ≤ 30
      ∧ countOf "temporal" ((fullOrder given.stocks).take maximum) ≤ 15
      ∧ countOf "math" ((fullOrder given.stocks).take maximum) ≤ 100 := by
  refine ⟨?_, ?_, ?_⟩
  · exact (countP_take_fullOrder_le [] _ ⟨given.rust, 30⟩ (all_of_category h.rust.2)
      (none_rust h) maximum).trans h.rust.1.le
  · exact (countP_take_fullOrder_le [⟨given.rust, 30⟩] _ ⟨given.temporal, 15⟩
      (all_of_category h.temporal.2) (none_temporal h) maximum).trans h.temporal.1.le
  · exact (countP_take_fullOrder_le [⟨given.rust, 30⟩, ⟨given.temporal, 15⟩] _ ⟨given.math, 15⟩
      (all_of_category h.math.2) (none_math h) maximum).trans h.math.1.le

theorem countOf_math_dealOrder (rounds : Nat) :
    countOf "math" (dealOrder given.stocks rounds) = min (15 * rounds) 100 := by
  have hcount := countP_dealOrder [⟨given.rust, 30⟩, ⟨given.temporal, 15⟩] _ ⟨given.math, 15⟩
    (all_of_category h.math.2) (none_math h) rounds
  rw [h.math.1] at hcount
  exact hcount

/-- The questions dealt by some rounds. -/
theorem length_dealOrder_stocks (rounds : Nat) :
    (dealOrder given.stocks rounds).length = min (30 * rounds) 30 + min (15 * rounds) 15
      + min (15 * rounds) 100 + min (40 * rounds) given.general.length := by
  rw [(dealOrder_perm rounds).length_eq]
  simp only [Pools.stocks, List.flatMap_cons, List.flatMap_nil, List.append_nil,
    List.length_append, List.length_take, h.rust.1, h.temporal.1, h.math.1]
  omega

/-- **A cut inside the first 30 questions is all Rust**, and beyond them
the Rust pool is used up. -/
theorem le_countOf_rust (maximum : Nat) :
    min maximum 30 ≤ countOf "rust" ((fullOrder given.stocks).take maximum) := by
  have hslice : (Stock.slice ⟨given.rust, 30⟩ 0 : List Question) = given.rust := by
    simp [Stock.slice, List.take_of_length_le h.rust.1.le]
  have hround : given.rust <+: dealOrder given.stocks 1 := by
    have hone : dealOrder given.stocks 1 = roundCards given.stocks 0 := by simp [dealOrder]
    rw [hone, roundCards, Pools.stocks, List.flatMap_cons, hslice]
    exact List.prefix_append _ _
  have hstart := (List.take_prefix maximum given.rust).trans
    (hround.trans (dealOrder_prefix_full (paying_stocks given) 1))
  have hcount := countP_le_take hstart (List.length_take_le _ _)
    fun question => question.category == "rust"
  refine le_trans (le_of_eq ?_) hcount
  rw [List.countP_eq_length.mpr, List.length_take, h.rust.1]
  intro question hmem
  exact all_of_category h.rust.2 question (List.mem_of_mem_take hmem)

/-- **The sums come early**: the sum number `15 * rounds + i` is dealt
before position `45 + 55 * rounds + i`, however many general questions
there are. -/
theorem le_countOf_math {rounds i maximum : Nat} (hi : i ≤ 15) (hpool : 15 * rounds + i ≤ 100)
    (hmax : 45 + 55 * rounds + i ≤ maximum) :
    15 * rounds + i ≤ countOf "math" ((fullOrder given.stocks).take maximum) := by
  let rust : Stock Question := ⟨given.rust, 30⟩
  let temporal : Stock Question := ⟨given.temporal, 15⟩
  let math : Stock Question := ⟨given.math, 15⟩
  let start := dealOrder given.stocks rounds
    ++ (rust.slice rounds ++ (temporal.slice rounds ++ (math.slice rounds).take i))
  have hinit : start <+: dealOrder given.stocks (rounds + 1) := by
    rw [dealOrder_succ]
    apply List.prefix_append_right_inj _ |>.mpr
    have hround : roundCards given.stocks rounds = rust.slice rounds
        ++ (temporal.slice rounds ++ (math.slice rounds
          ++ (Stock.slice ⟨given.general, 40⟩ rounds ++ []))) := rfl
    rw [hround]
    apply List.prefix_append_right_inj _ |>.mpr
    apply List.prefix_append_right_inj _ |>.mpr
    exact (List.take_prefix _ _).trans (List.prefix_append _ _)
  have hlen : start.length ≤ maximum := by
    have hdealt := length_dealOrder_stocks h rounds
    simp only [start, rust, temporal, math, List.length_append, List.length_take, Stock.slice,
      List.length_drop, h.rust.1, h.temporal.1, h.math.1, hdealt]
    omega
  have hcount := countP_le_take (hinit.trans (dealOrder_prefix_full (paying_stocks given) _)) hlen
    fun question => question.category == "math"
  have hsums : ((math.slice rounds).take i).countP (fun question => question.category == "math")
      = i := by
    rw [List.countP_eq_length.mpr]
    · simp only [math, List.length_take, Stock.slice, List.length_drop, h.math.1]
      omega
    · intro question hmem
      exact all_of_category h.math.2 question
        (List.mem_of_mem_drop (List.mem_of_mem_take (List.mem_of_mem_take hmem)))
  have hdealt := countOf_math_dealOrder h rounds
  unfold countOf at hdealt ⊢
  refine le_trans ?_ hcount
  simp only [start, List.countP_append, hsums, hdealt]
  omega

/-- Beyond the first round a cut has at most as many sums as questions. -/
theorem countOf_math_le (maximum : Nat) :
    countOf "math" ((fullOrder given.stocks).take maximum)
      ≤ 15 + (maximum - (60 + min 40 given.general.length)) := by
  have hcount := countP_take_le (dealOrder_prefix_full (paying_stocks given) 1) maximum
    fun question => question.category == "math"
  have hdealt := countOf_math_dealOrder h 1
  have hlen := length_dealOrder_stocks h 1
  unfold countOf at hdealt ⊢
  rw [hdealt, hlen] at hcount
  omega

end Order

/-! ## The deck -/

theorem countOf_perm {category : String} {xs ys : List Question} (h : xs.Perm ys) :
    countOf category xs = countOf category ys :=
  h.countP_eq _

/-- Shuffled answers keep the categories. -/
theorem countOf_reshuffled {category : String} {questions deck : List Question}
    (h : List.Forall₂ Reshuffled questions deck) :
    countOf category deck = countOf category questions := by
  have hcategories : deck.map (·.category) = questions.map (·.category) :=
    map_eq_of_reshuffled (fun _ _ hq => hq.category) h
  have hcount : ∀ xs : List Question,
      countOf category xs = (xs.map (·.category)).countP (· == category) := by
    intro xs
    rw [List.countP_map]
    rfl
  rw [hcount, hcount, hcategories]

/-- A question is of exactly one of the four categories. -/
theorem length_eq_countOf {xs : List Question}
    (h : ∀ question ∈ xs, question.category ∈ ["rust", "temporal", "math", "general"]) :
    xs.length = countOf "rust" xs + countOf "temporal" xs + countOf "math" xs
      + countOf "general" xs := by
  unfold countOf
  induction xs with
  | nil => rfl
  | cons question xs ih =>
      obtain ⟨hhead, htail⟩ := List.forall_mem_cons.mp h
      have hrest := ih htail
      simp only [List.mem_cons, List.not_mem_nil, or_false] at hhead
      simp only [List.countP_cons, List.length_cons, beq_iff_eq]
      rcases hhead with hc | hc | hc | hc
      all_goals
        simp only [hc, String.reduceEq, if_true, if_false]
        omega

theorem category_order {o : Outside} {source : List SourceQuestion} {seed : UInt64} :
    ∀ question ∈ fullOrder ((pools o source).shuffle o (o.generator.seedFromU64 seed)).1.stocks,
      question.category ∈ ["rust", "temporal", "math", "general"] := by
  intro question hmem
  have hpool := order_perm.mem_iff.mp hmem
  simp only [Pools.all, pools, List.mem_append] at hpool
  rcases hpool with ((hrust | htemporal) | hmath) | hgeneral
  · simp [category_rustQuestions question hrust]
  · simp [category_temporalQuestions question htemporal]
  · simp [category_mathQuestions question hmath]
  · simp [category_generalQuestions o source question hgeneral]

section Deck
variable {o : Outside} {source : List SourceQuestion} {seed : UInt64} {maximum : Nat}
  {deck : List Question} (h : buildDeck o source seed maximum = .ok deck)
include h

/-- The shuffles of batches and answers keep the categories of the cut. -/
theorem countOf_deck (category : String) : countOf category deck = countOf category
    ((fullOrder ((pools o source).shuffle o (o.generator.seedFromU64 seed)).1.stocks).take
      maximum) := by
  obtain ⟨_, _, hsame⟩ := of_buildDeck_ok h
  exact (countOf_reshuffled hsame).trans (countOf_perm dealt_perm)

theorem le_countOf_rust_deck : min maximum 30 ≤ countOf "rust" deck := by
  rw [countOf_deck h]
  exact le_countOf_rust (categorised_shuffle source _) maximum

/-- A mix is kept as far as the three authored shares are. -/
theorem mixKept_iff : MixKept maximum deck ↔ countOf "rust" deck ≤ share 30 maximum
    ∧ countOf "temporal" deck ≤ share 15 maximum ∧ countOf "math" deck ≤ share 15 maximum := by
  constructor
  · rintro ⟨hrust, htemporal, hmath, _⟩
    exact ⟨hrust, htemporal, hmath⟩
  · rintro ⟨hrust, htemporal, hmath⟩
    obtain ⟨_, henough, hsame⟩ := of_buildDeck_ok h
    have hcategories : ∀ question ∈ (dealt o source seed maximum).1,
        question.category ∈ ["rust", "temporal", "math", "general"] := fun question hmem =>
      category_order question (List.mem_of_mem_take (dealt_perm.mem_iff.mp hmem))
    have hlen := length_eq_countOf hcategories
    rw [length_dealt, min_eq_left henough] at hlen
    refine ⟨hrust, htemporal, hmath, ?_⟩
    simp only [countOf_reshuffled hsame]
    omega

/-- The sizes at which the authored shares are kept. -/
theorem mixKept_size_iff (hgeneral : GeneralSupplies maximum (pools o source).general.length) :
    MixKept maximum deck ↔ maximum ≤ 1 ∨ (97 ≤ maximum ∧ maximum ≤ 101) ∨ 661 ≤ maximum := by
  have hcat := categorised_shuffle source (o.generator.seedFromU64 seed)
  have hgiven : ((pools o source).shuffle o (o.generator.seedFromU64 seed)).1.general.length
      = (pools o source).general.length := (o.generator.perm _ _).length_eq
  have hany : ∀ category, countOf category deck ≤ maximum := by
    intro category
    rw [countOf_deck h]
    exact List.countP_le_length.trans (List.length_take_le _ _)
  have hr := hany "rust"
  have ht := hany "temporal"
  have hm := hany "math"
  obtain ⟨hrust, htemporal, hmath⟩ := countOf_take_le hcat maximum
  have hrust' := le_countOf_rust_deck h
  have hmath' := countOf_math_le hcat maximum
  have hmath'' := fun rounds i => @le_countOf_math _ hcat rounds i maximum
  rw [← countOf_deck h] at hrust htemporal hmath hmath'
  simp only [← countOf_deck h] at hmath''
  rw [hgiven] at hmath'
  unfold GeneralSupplies at hgeneral
  rw [length_rustQuestions, length_temporalQuestions, length_mathQuestions] at hgeneral
  rw [mixKept_iff h]
  constructor
  · rintro ⟨hkeptRust, _, hkeptMath⟩
    by_contra hsize
    rcases Nat.lt_or_ge maximum 97 with hsmall | hlarge
    · -- the deck is cut inside the first batch
      unfold share at hkeptRust
      omega
    · -- the sum that is one too many
      have hearly := hmath'' ((share 15 maximum) / 15)
        (share 15 maximum + 1 - 15 * ((share 15 maximum) / 15))
      unfold share at hkeptMath hearly
      have hrounds : (15 * maximum + 99) / 100 / 15 = 1
          ∨ 2 ≤ (15 * maximum + 99) / 100 / 15 := by omega
      rcases hrounds with hone | hmore
      · omega
      · omega
  · intro hsize
    unfold share at hgeneral ⊢
    omega

end Deck

/-- **The deck keeps the agreed mix exactly for these sizes**: none or one
question, a first batch that is all but complete, or a deck so large that
all authored questions together are a small enough share. The size of
the shipped deck is not among them. -/
theorem deck_mix_kept_iff (o : Outside) (source : List SourceQuestion) (seed : UInt64)
    (maximum : Nat) (deck : List Question) (h : buildDeck o source seed maximum = .ok deck)
    (hgeneral : GeneralSupplies maximum (pools o source).general.length) :
    (MixKept maximum deck ↔ maximum ≤ 1 ∨ (97 ≤ maximum ∧ maximum ≤ 101) ∨ 661 ≤ maximum)
      ∧ (maximum = deckSize → ¬ MixKept maximum deck) := by
  have hiff := mixKept_size_iff h hgeneral
  refine ⟨hiff, fun hsize hkept => ?_⟩
  have hbad := hiff.mp hkept
  rw [hsize] at hbad
  exact absurd hbad (by decide)

/-- A hundred questions, forty of them general, are mixed as agreed; eight
are not. -/
theorem deck_mix_kept_iff_demo :
    (∃ deck, buildDeck demoOutside countingSource 7 100 = .ok deck ∧ MixKept 100 deck)
      ∧ ∃ deck, buildDeck demoOutside demoSource 7 8 = .ok deck ∧ ¬ MixKept 8 deck := by
  constructor
  · obtain ⟨deck, hdeck⟩ := exists_counting_deck
    have hgeneral : GeneralSupplies 100 (pools demoOutside countingSource).general.length := by
      rw [general_counting]
      decide +kernel
    exact ⟨deck, hdeck, (deck_mix_kept_iff demoOutside countingSource 7 100 deck hdeck
      hgeneral).1.mpr (.inr (.inl ⟨by decide, by decide⟩))⟩
  · rcases @buildDeck_eq demoOutside demoSource 7 8 validateQuestions_demo
      with ⟨hshort, _⟩ | ⟨_, deck, hdeck, _⟩
    · rw [length_pools_demo] at hshort
      omega
    · have hgeneral : GeneralSupplies 8 (pools demoOutside demoSource).general.length := by
        have hone : (pools demoOutside demoSource).general = [demoQuestion] := generalQuestions_demo
        rw [hone]
        decide +kernel
      refine ⟨deck, hdeck, fun hkept => ?_⟩
      have hsize := (deck_mix_kept_iff demoOutside demoSource 7 8 deck hdeck hgeneral).1.mp hkept
      omega

/-- Eight questions, all of them on Rust. -/
theorem deck_of_eight_is_rust :
    ¬ ∀ (o : Outside) (source : List SourceQuestion) (seed : UInt64) (maximum : Nat)
      (deck : List Question), buildDeck o source seed maximum = .ok deck →
      GeneralSupplies maximum (pools o source).general.length → MixKept maximum deck := by
  intro hall
  rcases @buildDeck_eq demoOutside demoSource 7 8 validateQuestions_demo
    with ⟨hshort, _⟩ | ⟨_, deck, hdeck, _⟩
  · rw [length_pools_demo] at hshort
    omega
  · have hone : (pools demoOutside demoSource).general.length = 1 :=
      congrArg List.length generalQuestions_demo
    have hgeneral : GeneralSupplies 8 (pools demoOutside demoSource).general.length := by
      unfold GeneralSupplies share
      rw [hone, length_rustQuestions, length_temporalQuestions, length_mathQuestions]
      omega
    have hkept := (hall _ _ _ _ deck hdeck hgeneral).rust
    have hrust := le_countOf_rust_deck hdeck
    unfold share at hkept
    omega

end DurableTrivia.Web

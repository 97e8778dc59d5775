import DurableTrivia.Web.BuildDeck

/-!
# DeckBuilt — the builder returns a correct deck or an error

The two loops deal a prefix of the fixed order of the shuffled pools,
batch by batch: one bucket first, then one batch, then all of them.
Shuffling the answers of a checked question re-finds its right answer.
-/

namespace DurableTrivia.Web

open DurableTrivia.Shared DurableTrivia.Lib

variable {o : Outside}

/-! ## One bucket, one batch -/

/-- A bucket gives its next questions, as far as the count and the room go. -/
theorem Bucket.deal_eq {maximum dealt : Nat} (count : Nat) (bucket : Bucket)
    (batch : List Question) (hroom : dealt + batch.length ≤ maximum)
    (hcursor : bucket.cursor ≤ bucket.questions.length) :
    bucket.deal maximum dealt count batch
      = ({ bucket with cursor := bucket.cursor
            + (((bucket.questions.drop bucket.cursor).take count).take
                (maximum - (dealt + batch.length))).length },
          batch ++ ((bucket.questions.drop bucket.cursor).take count).take
            (maximum - (dealt + batch.length))) := by
  induction count generalizing bucket batch with
  | zero => simp [Bucket.deal]
  | succ count ih =>
      rw [Bucket.deal]
      by_cases hfull : dealt + batch.length = maximum
      · simp [hfull]
      · by_cases hend : bucket.cursor = bucket.questions.length
        · have hdrop : bucket.questions.drop bucket.cursor = [] := by
            rw [hend, List.drop_length]
          rw [if_pos (.inr hend), hdrop]
          simp
        · have hlt : bucket.cursor < bucket.questions.length := by omega
          have hget : bucket.questions[bucket.cursor]? = some bucket.questions[bucket.cursor] :=
            List.getElem?_eq_getElem hlt
          have hroom' : dealt + (batch ++ [bucket.questions[bucket.cursor]]).length ≤ maximum := by
            rw [List.length_append, List.length_singleton]
            omega
          have hleft : maximum - (dealt + batch.length)
              = (maximum - (dealt + (batch ++ [bucket.questions[bucket.cursor]]).length)) + 1 := by
            rw [List.length_append, List.length_singleton]
            omega
          rw [if_neg (by simp [hfull, hend]), hget, Option.toList_some,
            ih { bucket with cursor := bucket.cursor + 1 } _ hroom' hlt, hleft,
            List.drop_eq_getElem_cons hlt, List.take_succ_cons, List.take_succ_cons]
          simp only [List.length_cons, List.append_assoc, List.singleton_append, Prod.mk.injEq,
            Bucket.mk.injEq, true_and, and_true]
          omega

/-- A stock as the bucket it is after some complete rounds. -/
def bucketAt (rounds : Nat) (stock : Stock Question) : Bucket :=
  { questions := stock.cards
    count := stock.quota
    cursor := min (stock.quota * rounds) stock.cards.length }

theorem drop_bucketAt (rounds : Nat) (stock : Stock Question) :
    ((bucketAt rounds stock).questions.drop (bucketAt rounds stock).cursor).take stock.quota
      = stock.slice rounds := by
  unfold bucketAt Stock.slice
  rcases Nat.le_total (stock.quota * rounds) stock.cards.length with h | h
  · rw [min_eq_left h]
  · rw [min_eq_right h, List.drop_length, List.drop_eq_nil_of_le h]

/-- A whole slice moves the cursor to the next round. -/
theorem bucketAt_succ (rounds : Nat) (stock : Stock Question) :
    (bucketAt rounds stock).cursor + (stock.slice rounds).length
      = (bucketAt (rounds + 1) stock).cursor := by
  simp only [bucketAt, Stock.slice, List.length_take, List.length_drop, Nat.mul_succ]
  omega

theorem deal_bucketAt {maximum dealt : Nat} (rounds : Nat) (stock : Stock Question)
    (batch : List Question) (hroom : dealt + batch.length ≤ maximum) :
    ((bucketAt rounds stock).deal maximum dealt stock.quota batch).2
        = batch ++ (stock.slice rounds).take (maximum - (dealt + batch.length))
      ∧ ((stock.slice rounds).length ≤ maximum - (dealt + batch.length) →
        ((bucketAt rounds stock).deal maximum dealt stock.quota batch).1
          = bucketAt (rounds + 1) stock) := by
  have hcursor : (bucketAt rounds stock).cursor ≤ (bucketAt rounds stock).questions.length :=
    Nat.min_le_right _ _
  rw [Bucket.deal_eq stock.quota _ batch hroom hcursor, drop_bucketAt]
  refine ⟨rfl, fun hfits => ?_⟩
  rw [List.take_of_length_le hfits, bucketAt_succ]
  rfl

/-- A batch is the round's questions, as far as there is room. -/
theorem dealBatch_eq {maximum dealt : Nat} (rounds : Nat) (stocks : List (Stock Question))
    (batch : List Question) (hroom : dealt + batch.length ≤ maximum) :
    (dealBatch maximum dealt (stocks.map (bucketAt rounds)) batch).2
        = batch ++ (roundCards stocks rounds).take (maximum - (dealt + batch.length))
      ∧ ((roundCards stocks rounds).length ≤ maximum - (dealt + batch.length) →
        (dealBatch maximum dealt (stocks.map (bucketAt rounds)) batch).1
          = stocks.map (bucketAt (rounds + 1))) := by
  induction stocks generalizing batch with
  | nil => simp [dealBatch, roundCards]
  | cons stock stocks ih =>
      have hround : roundCards (stock :: stocks) rounds
          = stock.slice rounds ++ roundCards stocks rounds := rfl
      obtain ⟨hbatch, hbucket⟩ := @deal_bucketAt maximum dealt rounds stock batch hroom
      generalize hleft : maximum - (dealt + batch.length) = left at hbatch hbucket ⊢
      have hroom' : dealt + (batch ++ (stock.slice rounds).take left).length ≤ maximum := by
        rw [List.length_append, List.length_take]
        omega
      have hleft' : maximum - (dealt + (batch ++ (stock.slice rounds).take left).length)
          = left - (stock.slice rounds).length := by
        rw [List.length_append, List.length_take]
        omega
      obtain ⟨hrest, hbuckets⟩ := ih _ hroom'
      rw [hleft'] at hrest hbuckets
      simp only [List.map_cons, dealBatch,
        show (bucketAt rounds stock).count = stock.quota from rfl, hbatch, hrest, hround]
      constructor
      · rw [List.take_append, List.append_assoc]
      · intro hfits
        rw [List.length_append] at hfits
        rw [hbucket (by omega), hbuckets (by omega)]

/-! ## Both loops -/

/-- Where the first loop stands after some complete rounds. -/
structure AtRound (stocks : List (Stock Question)) (rounds : Nat) (table : Table o) : Prop where
  buckets : table.buckets = stocks.map (bucketAt rounds)
  deck : table.deck.Perm (dealOrder stocks rounds)

/-- The deck is as long as asked for, or no bucket has anything left. -/
def Settled (stocks : List (Stock Question)) (maximum : Nat) (table : Table o) : Prop :=
  table.deck.length = maximum
    ∨ ∃ rounds, table.buckets = stocks.map (bucketAt rounds)
      ∧ ∀ stock ∈ stocks, stock.cards.length ≤ stock.quota * rounds

theorem dealBatches_full {maximum : Nat} (passes : Nat) {table : Table o}
    (h : table.deck.length = maximum) : dealBatches o maximum passes table = table := by
  cases passes with
  | zero => rfl
  | succ passes => rw [dealBatches, if_neg (by omega)]

/-- A full deck at a round's end is a cut of the order. -/
theorem AtRound.full {stocks : List (Stock Question)} (hpay : Paying stocks) {rounds : Nat}
    {table : Table o} (h : AtRound stocks rounds table) :
    table.deck.Perm ((fullOrder stocks).take table.deck.length) := by
  have hlen := h.deck.length_eq
  rw [take_fullOrder hpay hlen.le, hlen, List.take_length]
  exact h.deck

/-- A round cut short ends at a cut of the order. -/
theorem AtRound.cut {stocks : List (Stock Question)} (hpay : Paying stocks) {rounds maximum : Nat}
    {table : Table o} (h : AtRound stocks rounds table) (hmax : table.deck.length ≤ maximum)
    (hlast : maximum ≤ table.deck.length + (roundCards stocks rounds).length) :
    (fullOrder stocks).take maximum = dealOrder stocks rounds
      ++ (roundCards stocks rounds).take (maximum - table.deck.length) := by
  have hlen := h.deck.length_eq
  have hlong : maximum ≤ (dealOrder stocks (rounds + 1)).length := by
    rw [dealOrder_succ, List.length_append]
    omega
  rw [take_fullOrder hpay hlong, dealOrder_succ, List.take_append, ← hlen,
    List.take_of_length_le (by omega)]

theorem dealBatches_of_full {stocks : List (Stock Question)} {maximum : Nat} (passes : Nat)
    {table : Table o} (hdeck : table.deck.Perm ((fullOrder stocks).take maximum))
    (hfull : table.deck.length = maximum) :
    (dealBatches o maximum passes table).deck.Perm ((fullOrder stocks).take maximum)
      ∧ Settled stocks maximum (dealBatches o maximum passes table) := by
  rw [dealBatches_full passes hfull]
  exact ⟨hdeck, .inl hfull⟩

/-- **The first loop** deals a cut of the fixed order and stops settled. -/
theorem dealBatches_eq {stocks : List (Stock Question)} (hpay : Paying stocks) {maximum : Nat}
    (passes : Nat) {rounds : Nat} {table : Table o} (h : AtRound stocks rounds table)
    (hmax : table.deck.length ≤ maximum) (hpasses : maximum ≤ table.deck.length + passes) :
    (dealBatches o maximum passes table).deck.Perm ((fullOrder stocks).take maximum)
      ∧ Settled stocks maximum (dealBatches o maximum passes table) := by
  induction passes generalizing rounds table with
  | zero =>
      have hfull : table.deck.length = maximum := by omega
      exact dealBatches_of_full 0 (hfull ▸ h.full hpay) hfull
  | succ passes ih =>
      by_cases hfull : table.deck.length = maximum
      · exact dealBatches_of_full (passes + 1) (hfull ▸ h.full hpay) hfull
      obtain ⟨hbatch, hbuckets⟩ :=
        @dealBatch_eq maximum table.deck.length rounds stocks [] (by simpa using hmax)
      rw [← h.buckets, List.nil_append] at hbatch
      rw [← h.buckets] at hbuckets
      simp only [List.length_nil, Nat.add_zero] at hbatch hbuckets
      rw [dealBatches, if_pos (by omega)]
      dsimp only
      generalize dealBatch maximum table.deck.length table.buckets [] = dealt at hbatch hbuckets ⊢
      by_cases hnone : roundCards stocks rounds = []
      · -- nothing is left: the whole order has been dealt, and it is short
        have hused : ∀ stock ∈ stocks, stock.cards.length ≤ stock.quota * (rounds + 1) :=
          fun stock hstock => (used_up_of_roundCards_nil hpay hnone hstock).trans
            (Nat.mul_le_mul_left _ (Nat.le_succ rounds))
        have hall := h.deck
        rw [dealOrder_eq_full hpay hnone] at hall
        rw [hnone, List.take_nil] at hbatch
        rw [if_pos (by rw [hbatch]; rfl)]
        refine ⟨?_, .inr ⟨rounds + 1, hbuckets (by simp [hnone]), hused⟩⟩
        rw [List.take_of_length_le (by rw [← hall.length_eq]; exact hmax)]
        exact hall
      · have hpos : 0 < (roundCards stocks rounds).length := List.length_pos_iff.mpr hnone
        have hne : ¬ dealt.2.isEmpty := by
          rw [hbatch, List.isEmpty_iff, List.take_eq_nil_iff]
          rintro (hzero | hnil)
          · omega
          · exact hnone hnil
        rw [if_neg hne]
        have hperm := o.generator.perm dealt.2 table.rng
        have hlen := hperm.length_eq
        generalize o.generator.shuffle dealt.2 table.rng = shuffled at hperm hlen ⊢
        rw [hbatch, List.length_take] at hlen
        rw [hbatch] at hperm
        have hdeck := h.deck.append hperm
        by_cases hfits : (roundCards stocks rounds).length ≤ maximum - table.deck.length
        · -- a complete round
          rw [List.take_of_length_le hfits, ← dealOrder_succ] at hdeck
          apply ih ⟨hbuckets hfits, hdeck⟩
          · rw [List.length_append]
            omega
          · rw [List.length_append]
            omega
        · -- the last, cut short
          apply dealBatches_of_full
          · rw [h.cut hpay hmax (by omega)]
            exact hdeck
          · rw [List.length_append]
            omega

/-- The second loop finds nothing to do. -/
theorem topUp_settled {stocks : List (Stock Question)} {maximum : Nat} {table : Table o}
    (h : Settled stocks maximum table) {index : Nat} {bucket : Bucket}
    (hbucket : table.buckets[index]? = some bucket) (passes : Nat) :
    bucket.topUp maximum passes table.deck = table.deck := by
  cases passes with
  | zero => rfl
  | succ passes =>
      rw [Bucket.topUp, if_neg]
      rintro ⟨hshort, hcards⟩
      rcases h with hfull | ⟨rounds, hbuckets, hused⟩
      · omega
      · rw [hbuckets, List.getElem?_map] at hbucket
        obtain ⟨stock, hstock, rfl⟩ := Option.map_eq_some_iff.mp hbucket
        have hend := hused stock (List.mem_of_getElem? hstock)
        simp only [bucketAt] at hcards
        omega

theorem paying_stocks (pools : Pools) : Paying pools.stocks := by
  intro stock hstock
  simp only [Pools.stocks, List.mem_cons, List.not_mem_nil, or_false] at hstock
  rcases hstock with rfl | rfl | rfl | rfl
  all_goals exact Nat.zero_lt_succ _

/-- **Both loops deal the first `maximum` questions of the fixed order.** -/
theorem dealDeck_perm (shuffled : Pools) (rng : o.generator.Rng) (maximum : Nat) :
    (dealDeck o shuffled rng maximum).1.Perm ((fullOrder shuffled.stocks).take maximum) := by
  have hstart : AtRound shuffled.stocks 0
      ({ deck := [], rng,
         buckets := shuffled.stocks.map fun stock =>
          { questions := stock.cards, count := stock.quota } } : Table o) := by
    constructor
    · apply List.map_congr_left
      intro stock _
      simp [bucketAt]
    · exact .nil
  obtain ⟨hdeck, hsettled⟩ :=
    @dealBatches_eq o _ (paying_stocks shuffled) maximum maximum 0 _ hstart (Nat.zero_le _)
      (Nat.le_add_left _ _)
  unfold dealDeck
  dsimp only
  split
  · next bucket hbucket =>
      rw [topUp_settled hsettled hbucket]
      exact hdeck
  · exact hdeck

/-! ## Answers -/

/-- A question of the pool with its answers in another order. -/
structure Reshuffled (original question : Question) : Prop where
  id : question.id = original.id
  category : question.category = original.category
  difficulty : question.difficulty = original.difficulty
  prompt : question.prompt = original.prompt
  answers : question.answers.toList.Perm original.answers.toList
  index : question.correctIndex.toNat < 4
  correct : question.answers[question.correctIndex.toNat]?
    = original.answers[original.correctIndex.toNat]?

/-- **The shuffle re-finds the right answer.** -/
theorem shuffleAnswers_ok {question : Question} (h : question.correctIndex ≤ 3)
    (rng : o.generator.Rng) :
    ∃ shuffled, shuffleAnswers o question rng = .ok shuffled ∧ Reshuffled question shuffled.1 := by
  have hindex : question.correctIndex.toNat < 4 := by
    have hle := UInt8.le_iff_toNat_le.mp h
    exact Nat.lt_succ_of_le hle
  obtain ⟨correct, hcorrect⟩ : ∃ correct, question.answers[question.correctIndex.toNat]?
      = some correct := ⟨_, Vector.getElem?_eq_getElem hindex⟩
  have hperm : (shuffleFour o question.answers rng).1.toList.Perm question.answers.toList :=
    o.generator.perm question.answers.toList rng
  have hmem : correct ∈ (shuffleFour o question.answers rng).1.toList := by
    apply hperm.mem_iff.mpr
    rw [Vector.mem_toList_iff]
    exact Vector.mem_of_getElem? hcorrect
  unfold shuffleAnswers
  rw [hcorrect]
  dsimp only
  generalize shuffleFour o question.answers rng = shuffled at hperm hmem ⊢
  cases hfind : shuffled.1.toList.findIdx? (· == correct) with
  | none =>
      have hnone := List.findIdx?_eq_none_iff.mp hfind correct hmem
      simp at hnone
  | some index =>
      obtain ⟨hlt, heq, _⟩ := List.findIdx?_eq_some_iff_getElem.mp hfind
      rw [Vector.length_toList] at hlt
      have hbyte : (UInt8.ofNat index).toNat = index := by
        rw [UInt8.toNat_ofNat']
        omega
      refine ⟨_, rfl, ?_⟩
      exact
        { id := rfl
          category := rfl
          difficulty := rfl
          prompt := rfl
          answers := hperm
          index := by rw [hbyte]; exact hlt
          correct := by
            rw [hbyte, hcorrect, Vector.getElem?_eq_getElem hlt]
            simpa using heq }

/-- All answers are shuffled, question by question. -/
theorem shuffleDeck_ok {questions : List Question}
    (h : ∀ question ∈ questions, question.correctIndex ≤ 3) (rng : o.generator.Rng) :
    ∃ deck, shuffleDeck o questions rng = .ok deck ∧ List.Forall₂ Reshuffled questions deck := by
  induction questions generalizing rng with
  | nil => exact ⟨[], rfl, .nil⟩
  | cons question questions ih =>
      obtain ⟨hhead, htail⟩ := List.forall_mem_cons.mp h
      obtain ⟨shuffled, hshuffled, hfirst⟩ := @shuffleAnswers_ok o question hhead rng
      obtain ⟨deck, hdeck, hrest⟩ := ih htail shuffled.2
      refine ⟨shuffled.1 :: deck, ?_, .cons hfirst hrest⟩
      simp only [shuffleDeck, hshuffled, hdeck, bind, Except.bind, pure, Except.pure]

theorem map_eq_of_reshuffled {β : Type*} {f : Question → β} {questions deck : List Question}
    (hf : ∀ original question, Reshuffled original question → f question = f original)
    (h : List.Forall₂ Reshuffled questions deck) : deck.map f = questions.map f := by
  induction h with
  | nil => rfl
  | cons hfirst _ ih => rw [List.map_cons, List.map_cons, hf _ _ hfirst, ih]

theorem exists_original {questions deck : List Question}
    (h : List.Forall₂ Reshuffled questions deck) {question : Question} (hmem : question ∈ deck) :
    ∃ original ∈ questions, Reshuffled original question := by
  induction h with
  | nil => exact absurd hmem List.not_mem_nil
  | cons hfirst _ ih =>
      rcases List.mem_cons.mp hmem with rfl | hmem
      · exact ⟨_, List.mem_cons_self, hfirst⟩
      · obtain ⟨original, horiginal, hq⟩ := ih hmem
        exact ⟨original, List.mem_cons_of_mem _ horiginal, hq⟩

/-- A deck stays checked when its answers are shuffled. -/
theorem Checked.reshuffled {toLowercase : String → String} {ids prompts : Finset String}
    {questions deck : List Question} (h : Checked toLowercase ids prompts questions)
    (hdeck : List.Forall₂ Reshuffled questions deck) : Checked toLowercase ids prompts deck := by
  have hids : deck.map (·.id) = questions.map (·.id) :=
    map_eq_of_reshuffled (fun _ _ hq => hq.id) hdeck
  have hprompts : deck.map (fun q => toLowercase q.prompt)
      = questions.map fun q => toLowercase q.prompt :=
    map_eq_of_reshuffled (fun _ _ hq => by rw [hq.prompt]) hdeck
  constructor
  · intro question hmem
    obtain ⟨original, hmem', hq⟩ := exists_original hdeck hmem
    rw [hq.prompt, fits_perm hq.answers]
    exact h.allFit original hmem'
  · intro question hmem
    obtain ⟨original, _, hq⟩ := exists_original hdeck hmem
    exact UInt8.le_iff_toNat_le.mpr (Nat.le_of_lt_succ hq.index)
  · rw [hids]
    exact h.ids
  · rw [hprompts]
    exact h.prompts

/-! ## The deck -/

/-- Shuffling the pools deals them in another order. -/
theorem allCards_shuffle (given : Pools) (rng : o.generator.Rng) :
    (allCards (given.shuffle o rng).1.stocks).Perm given.all := by
  have hcards : allCards (given.shuffle o rng).1.stocks = (given.shuffle o rng).1.all := by
    simp [allCards, Pools.stocks, Pools.all]
  rw [hcards]
  refine .append (.append (.append ?_ ?_) ?_) ?_
  all_goals exact o.generator.perm _ _

variable {source : List SourceQuestion} {seed : UInt64} {maximum : Nat}

theorem dealt_perm : (dealt o source seed maximum).1.Perm
    ((fullOrder ((pools o source).shuffle o (o.generator.seedFromU64 seed)).1.stocks).take
      maximum) :=
  dealDeck_perm _ _ maximum

/-- The order of a round holds every question of the pools once. -/
theorem order_perm : (fullOrder
    ((pools o source).shuffle o (o.generator.seedFromU64 seed)).1.stocks).Perm
      (pools o source).all :=
  (fullOrder_perm (paying_stocks _)).trans (allCards_shuffle _ _)

theorem length_dealt :
    (dealt o source seed maximum).1.length = min maximum (pools o source).all.length := by
  rw [dealt_perm.length_eq, List.length_take, order_perm.length_eq]

/-- What is dealt is a checked part of the pools. -/
theorem checked_dealt (hvalid : validateQuestions o.toLowercase (pools o source).all = .ok ()) :
    Checked o.toLowercase ∅ ∅ (dealt o source seed maximum).1 := by
  have hpool := validateQuestions_ok.mp hvalid
  have horder : Checked o.toLowercase ∅ ∅ (fullOrder
      ((pools o source).shuffle o (o.generator.seedFromU64 seed)).1.stocks) :=
    hpool.perm order_perm
  exact (horder.sublist (List.take_sublist _ _)).perm dealt_perm

/-- **The four ways through the builder** are two: a short deal is
reported, and any other one is handed out with its answers shuffled. -/
theorem buildDeck_eq (hvalid : validateQuestions o.toLowercase (pools o source).all = .ok ()) :
    ((pools o source).all.length < maximum
        ∧ buildDeck o source seed maximum
          = .error (shortage maximum (pools o source).all.length))
      ∨ (maximum ≤ (pools o source).all.length ∧ ∃ deck, buildDeck o source seed maximum = .ok deck
        ∧ List.Forall₂ Reshuffled (dealt o source seed maximum).1 deck) := by
  have hlen := @length_dealt o source seed maximum
  have hchecked := @checked_dealt o source seed maximum hvalid
  obtain ⟨deck, hdeck, hsame⟩ :=
    shuffleDeck_ok hchecked.correctIndex (dealt o source seed maximum).2
  have hfinal := validateQuestions_ok.mpr (hchecked.reshuffled hsame)
  rcases Nat.lt_or_ge (pools o source).all.length maximum with hshort | henough
  · left
    refine ⟨hshort, ?_⟩
    rw [min_eq_right hshort.le] at hlen
    simp only [buildDeck, hvalid, bind, Except.bind, hlen, throw, throwThe, MonadExceptOf.throw]
    exact if_pos hshort.ne
  · right
    rw [min_eq_left henough] at hlen
    refine ⟨henough, deck, ?_, hsame⟩
    simp only [buildDeck, hvalid, bind, Except.bind, hlen, hdeck, hfinal, pure, Except.pure, ne_eq,
      not_true_eq_false, if_false]

/-- A deck that was built comes from checked pools, and is what was dealt
with its answers shuffled. -/
theorem of_buildDeck_ok {deck : List Question}
    (h : buildDeck o source seed maximum = .ok deck) :
    validateQuestions o.toLowercase (pools o source).all = .ok ()
      ∧ maximum ≤ (pools o source).all.length
      ∧ List.Forall₂ Reshuffled (dealt o source seed maximum).1 deck := by
  have hvalid : validateQuestions o.toLowercase (pools o source).all = .ok () := by
    cases hcheck : validateQuestions o.toLowercase (pools o source).all with
    | ok _ => rfl
    | error message =>
        simp only [buildDeck, hcheck, bind, Except.bind] at h
        cases h
  refine ⟨hvalid, ?_⟩
  rcases @buildDeck_eq o source seed maximum hvalid with ⟨_, herr⟩ | ⟨henough, other, hok, hsame⟩
  · rw [herr] at h
    cases h
  · rw [hok] at h
    cases h
    exact ⟨henough, hsame⟩

/-- Shuffles that happen to change nothing, on a source with one entity. -/
def demoOutside : Outside :=
  { generator :=
      { Rng := Unit
        seedFromU64 := fun _ => ()
        shuffle := fun xs rng => (xs, rng)
        perm := fun xs _ => .refl xs }
    toLowercase := String.toLower
    decodeHtmlEntities := fun text =>
      if text = "What is the fourth digit of &pi;?" then "What is the fourth digit of π?" else text
    sha256 := fun _ =>
      #v[0x9b, 0x4b, 0x58, 0xe7, 0xa6, 0x20, 0x2e, 0x17, 0x8a, 0xe2, 0x25, 0x30, 0xff, 0x76, 0x0a,
        0x6a, 0x8c, 0x13, 0x7c, 0xf0, 0xb3, 0xc7, 0xbc, 0xb1, 0x47, 0xcf, 0x5b, 0xc4, 0xbd, 0x5a,
        0x73, 0x19] }

/-- A record of the shipped source. -/
def demoSource : List SourceQuestion :=
  [{ kind := "multiple"
     difficulty := "hard"
     category := "Science: Mathematics"
     question := "What is the fourth digit of &pi;?"
     correctAnswer := "1"
     incorrectAnswers := ["2", "3", "4"] }]

/-- The question it becomes. -/
def demoQuestion : Question :=
  { id := "otdb-0-9b4b58e7"
    category := "general"
    difficulty := "hard"
    prompt := "What is the fourth digit of π?"
    answers := #v["1", "2", "3", "4"]
    correctIndex := 0 }

theorem generalQuestions_demo : generalQuestions demoOutside demoSource = [demoQuestion] := by
  decide +kernel

theorem validateQuestions_demo :
    validateQuestions String.toLower (pools demoOutside demoSource).all = .ok () := by
  apply validateQuestions_ok.mpr
  have hall : (pools demoOutside demoSource).all
      = rustQuestions ++ temporalQuestions ++ mathQuestions ++ [demoQuestion] := by
    rw [Pools.all, ← generalQuestions_demo]
    rfl
  rw [hall]
  apply ByteChecked.checked
  apply byteChecked_authored.append_one
  · constructor
    all_goals decide +kernel
  · decide +kernel
  · decide +kernel

theorem length_pools_demo : (pools demoOutside demoSource).all.length = 146 := by
  have hgeneral : (pools demoOutside demoSource).general = [demoQuestion] := generalQuestions_demo
  rw [Pools.all, List.length_append, hgeneral]
  decide +kernel

/-- Forty questions on counting. -/
def countingSource : List SourceQuestion :=
  (List.range 40).map fun n =>
    { kind := "multiple"
      difficulty := "easy"
      category := "General Knowledge"
      question := toString n ++ " + 1?"
      correctAnswer := toString (n + 1)
      incorrectAnswers := [toString (n + 2), toString (n + 3), toString (n + 4)] }

/-- The questions they become. -/
def countingQuestions : List Question :=
  (List.range 40).map fun n =>
    { id := "otdb-" ++ toString n ++ "-9b4b58e7"
      category := "general"
      difficulty := "easy"
      prompt := toString n ++ " + 1?"
      answers := #v[toString (n + 1), toString (n + 2), toString (n + 3), toString (n + 4)]
      correctIndex := 0 }

theorem generalQuestions_counting :
    generalQuestions demoOutside countingSource = countingQuestions := by
  decide +kernel

theorem general_counting : (pools demoOutside countingSource).general = countingQuestions :=
  generalQuestions_counting

theorem all_counting : (pools demoOutside countingSource).all
    = rustQuestions ++ temporalQuestions ++ mathQuestions ++ countingQuestions := by
  rw [Pools.all, general_counting]
  rfl

theorem validateQuestions_counting :
    validateQuestions String.toLower (pools demoOutside countingSource).all = .ok () := by
  rw [all_counting]
  apply validateQuestions_ok.mpr
  apply ByteChecked.checked
  constructor
  all_goals decide +kernel

theorem length_pools_counting : (pools demoOutside countingSource).all.length = 185 := by
  rw [all_counting]
  decide +kernel

/-- A deck of a hundred questions, with all forty of them in it. -/
theorem exists_counting_deck :
    ∃ deck, buildDeck demoOutside countingSource 7 100 = .ok deck := by
  rcases @buildDeck_eq demoOutside countingSource 7 100 validateQuestions_counting
    with ⟨hshort, _⟩ | ⟨_, deck, hdeck, _⟩
  · rw [length_pools_counting] at hshort
    omega
  · exact ⟨deck, hdeck⟩

end DurableTrivia.Web

import DurableTrivia.Lib.Suffix
import DurableTrivia.Lib.Urn
import DurableTrivia.Web.Deck

/-!
# DeckConservation — no card is lost and none appears

A deck under any sequence of deals is an urn: every deal draws one card
and every recycle puts one more copy of the template in, under the ids
of its cycle. The urn's conservation law then is the deck's, its
in-order law gives the blocks of an ordinary round, and since the ids of
all copies are distinct, so are the ids of all draws.

The law needs the cycle counter to count: it is stated below
`u32::MAX`, where `saturating_add` stops counting.
-/

namespace DurableTrivia.Web

open DurableTrivia.Shared DurableTrivia.Lib

/-! ## Sequences of deals -/

/-- The two flags a call of `deal_question` is made with. -/
structure DealFlags where
  rustOnly : Bool
  eligibleDeckRefill : Bool
  deriving DecidableEq, Repr

/-- The questions dealt so far and the deck they left. -/
structure Dealing where
  dealt : List Question
  deck : Deck

/-- One more deal. -/
def Dealing.deal (template : List Question) (d : Dealing) (flags : DealFlags) : Dealing :=
  let result := dealQuestion d.deck template flags.rustOnly flags.eligibleDeckRefill
  { dealt := d.dealt ++ result.1.toList, deck := result.2 }

/-- A round's deck before the first deal. -/
def Dealing.start (template : List Question) : Dealing :=
  { dealt := [], deck := { available := template, deckCycle := 1 } }

/-- All calls in order, from a fresh deck. -/
def dealAll (template : List Question) (calls : List DealFlags) : Dealing :=
  calls.foldl (Dealing.deal template) (Dealing.start template)

/-! ## What was put in -/

/-- The batches put in by cycle `cycle`, in the order they are dealt. -/
def suppliedBatches (template : List Question) (cycle : Nat) : List (List Question) :=
  template :: (List.range' 2 (cycle - 1)).map (refillQuestionDeck template)

/-- The cards of one cycle: the template under its own ids first, then
copies under suffixed ids. -/
def cycleCards (template : List Question) (cycle : Nat) : List Question :=
  if cycle ≤ 1 then template else template.map (suffixId cycle)

/-- Every card in play by cycle `cycle`: the template, and one suffixed
copy of it for each later cycle. -/
def suppliedCards (template : List Question) (cycle : Nat) : List Question :=
  template ++ (List.range' 2 (cycle - 1)).flatMap fun c => template.map (suffixId c)

theorem suppliedBatches_succ (template : List Question) {cycle : Nat} (h : 1 ≤ cycle) :
    suppliedBatches template (cycle + 1)
      = suppliedBatches template cycle ++ [refillQuestionDeck template (cycle + 1)] := by
  unfold suppliedBatches
  rw [show cycle + 1 - 1 = (cycle - 1) + 1 from by omega, List.range'_concat, List.map_append,
    show 2 + 1 * (cycle - 1) = cycle + 1 from by omega]
  rfl

theorem length_suppliedBatches (template : List Question) {cycle : Nat} (h : 1 ≤ cycle) :
    (suppliedBatches template cycle).length = cycle := by
  simp only [suppliedBatches, List.length_cons, List.length_map, List.length_range']
  omega

theorem length_of_mem_suppliedBatches {template batch : List Question} {cycle : Nat}
    (h : batch ∈ suppliedBatches template cycle) : batch.length = template.length := by
  rcases List.mem_cons.mp h with rfl | h
  · rfl
  · obtain ⟨c, _, rfl⟩ := List.mem_map.mp h
    exact length_refillQuestionDeck template c

theorem flatten_suppliedBatches_perm (template : List Question) (cycle : Nat) :
    (suppliedBatches template cycle).flatten.Perm (suppliedCards template cycle) := by
  unfold suppliedBatches suppliedCards
  rw [List.flatten_cons, ← List.flatMap_def]
  refine List.Perm.append_left _ ?_
  exact List.Perm.flatMap_left _ fun c _ => refillQuestionDeck_perm template c

theorem suppliedBatches_getElem_perm (template : List Question) {cycle k : Nat}
    (hk : k < (suppliedBatches template cycle).length) :
    (suppliedBatches template cycle)[k].Perm (cycleCards template (k + 1)) := by
  cases k with
  | zero => exact .refl _
  | succ k =>
      simp only [suppliedBatches, List.getElem_cons_succ, List.getElem_map,
        List.getElem_range', cycleCards, if_neg (show ¬ k + 1 + 1 ≤ 1 by omega)]
      rw [show 2 + 1 * k = k + 1 + 1 from by omega]
      exact refillQuestionDeck_perm template _

/-! ## The deck is an urn -/

/-- A deck with the draws made from it, as an urn. -/
def deckUrn (template dealt : List Question) (deck : Deck) : Urn Question :=
  { drawn := dealt, left := deck.available, batches := suppliedBatches template deck.deckCycle }

/-- Below the saturation point a recycle counts one cycle. -/
theorem recycle_deckCycle {deck : Deck} {template : List Question}
    (h : (deck.recycle template).deckCycle < u32Max) :
    (deck.recycle template).deckCycle = deck.deckCycle + 1 := by
  simp only [Deck.recycle] at h ⊢
  omega

/-- A recycle is the urn's refill. -/
theorem deckUrn_recycle {template dealt : List Question} {deck : Deck} (h1 : 1 ≤ deck.deckCycle)
    (h : (deck.recycle template).deckCycle < u32Max) :
    deckUrn template dealt (deck.recycle template)
      = (deckUrn template dealt deck).refill
          (refillQuestionDeck template (deck.recycle template).deckCycle) := by
  have hcycle := recycle_deckCycle h
  simp only [deckUrn, Urn.refill, Urn.mk.injEq, true_and]
  refine ⟨rfl, ?_⟩
  rw [hcycle]
  exact suppliedBatches_succ template h1

/-- The cycle counter never goes back. -/
theorem deckCycle_le_dealQuestion {deck : Deck} (template : List Question)
    (rustOnly eligible : Bool) (hle : deck.deckCycle ≤ u32Max) :
    deck.deckCycle ≤ (dealQuestion deck template rustOnly eligible).2.deckCycle
      ∧ (dealQuestion deck template rustOnly eligible).2.deckCycle ≤ u32Max := by
  have hrec : deck.deckCycle ≤ (deck.recycle template).deckCycle
      ∧ (deck.recycle template).deckCycle ≤ u32Max := by
    simp only [Deck.recycle]
    omega
  have hd := dealt_dealQuestion deck template rustOnly eligible
  revert hd
  generalize dealQuestion deck template rustOnly eligible = result
  intro hd
  cases hd with
  | served _ => exact ⟨Nat.le_refl _, hle⟩
  | noTemplate _ _ => exact ⟨Nat.le_refl _, hle⟩
  | heldBack _ _ _ => exact ⟨Nat.le_refl _, hle⟩
  | recycled _ _ _ => exact hrec
  | recycledInVain _ _ _ => exact hrec

/-- What draws and refills of the urn keep, a deal keeps. -/
theorem kept_dealQuestion {P : Urn Question → Prop} {template dealt : List Question} {deck : Deck}
    {rustOnly eligible : Bool} (hrefill : ∀ urn batch, P urn → P (urn.refill batch))
    (hdraw : ∀ {before : Deck} {question : Question} {rest : List Question},
      takeNextQuestion before.available rustOnly = some (question, rest) →
      P (deckUrn template dealt before) →
      P (deckUrn template (dealt ++ [question]) { before with available := rest }))
    (h1 : 1 ≤ deck.deckCycle)
    (hcycle : (dealQuestion deck template rustOnly eligible).2.deckCycle < u32Max)
    (h : P (deckUrn template dealt deck)) :
    P (deckUrn template (dealt ++ (dealQuestion deck template rustOnly eligible).1.toList)
      (dealQuestion deck template rustOnly eligible).2) := by
  have hd := dealt_dealQuestion deck template rustOnly eligible
  revert hd hcycle
  generalize dealQuestion deck template rustOnly eligible = result
  intro hcycle hd
  cases hd with
  | served htake => exact hdraw htake h
  | noTemplate _ _ => simpa using h
  | heldBack _ _ _ => simpa using h
  | recycled _ _ htake =>
      have hfull := hrefill _ (refillQuestionDeck template (deck.recycle template).deckCycle) h
      rw [← deckUrn_recycle h1 hcycle] at hfull
      exact hdraw htake hfull
  | recycledInVain _ _ _ =>
      have hfull := hrefill _ (refillQuestionDeck template (deck.recycle template).deckCycle) h
      rw [← deckUrn_recycle h1 hcycle] at hfull
      simpa using hfull

/-- **One deal conserves the deck.** -/
theorem conserved_dealQuestion {template dealt : List Question} {deck : Deck}
    (rustOnly eligible : Bool) (h1 : 1 ≤ deck.deckCycle)
    (hcycle : (dealQuestion deck template rustOnly eligible).2.deckCycle < u32Max)
    (h : (deckUrn template dealt deck).Conserved) :
    (deckUrn template (dealt ++ (dealQuestion deck template rustOnly eligible).1.toList)
      (dealQuestion deck template rustOnly eligible).2).Conserved := by
  apply kept_dealQuestion (P := Urn.Conserved) ?_ ?_ h1 hcycle h
  · intro urn batch hurn
    exact hurn.refill batch
  · intro before question rest htake hbefore
    exact hbefore.draw (takeNextQuestion_perm htake)

/-- **One ordinary deal keeps the order**: without the modifier every
draw takes the front. -/
theorem inOrder_dealQuestion {template dealt : List Question} {deck : Deck}
    {eligible : Bool} (h1 : 1 ≤ deck.deckCycle)
    (hcycle : (dealQuestion deck template false eligible).2.deckCycle < u32Max)
    (h : (deckUrn template dealt deck).InOrder) :
    (deckUrn template (dealt ++ (dealQuestion deck template false eligible).1.toList)
      (dealQuestion deck template false eligible).2).InOrder := by
  apply kept_dealQuestion (P := Urn.InOrder) ?_ ?_ h1 hcycle h
  · intro urn batch hurn
    exact hurn.refill batch
  · intro before question rest htake hbefore
    exact hbefore.draw (takeNextQuestion_front htake)

/-- Without the modifier a non-empty template always yields a question. -/
theorem dealQuestion_false_isSome (deck : Deck) {template : List Question} (eligible : Bool)
    (hne : template ≠ []) : (dealQuestion deck template false eligible).1.isSome := by
  have hd := dealt_dealQuestion deck template false eligible
  revert hd
  generalize dealQuestion deck template false eligible = result
  intro hd
  cases hd with
  | served _ => rfl
  | noTemplate _ hempty => exact absurd hempty hne
  | heldBack htake _ hleft => exact absurd (takeNextQuestion_false_eq_none.mp htake) hleft
  | recycled _ _ _ => rfl
  | recycledInVain _ _ htake =>
      have hnil := takeNextQuestion_false_eq_none.mp htake
      exact absurd (List.append_eq_nil_iff.mp hnil).2 (refillQuestionDeck_ne_nil hne _)

/-! ## All deals of a round -/

theorem dealAll_snoc (template : List Question) (calls : List DealFlags) (flags : DealFlags) :
    dealAll template (calls ++ [flags]) = (dealAll template calls).deal template flags := by
  simp [dealAll]

/-- The counter starts at one and saturates. -/
theorem deckCycle_dealAll (template : List Question) (calls : List DealFlags) :
    1 ≤ (dealAll template calls).deck.deckCycle
      ∧ (dealAll template calls).deck.deckCycle ≤ u32Max := by
  induction calls using List.reverseRecOn with
  | nil => exact ⟨Nat.le_refl 1, show 1 ≤ u32Max by decide⟩
  | append_singleton calls flags ih =>
      have hstep := deckCycle_le_dealQuestion template flags.rustOnly flags.eligibleDeckRefill
        ih.2
      rw [dealAll_snoc]
      exact ⟨ih.1.trans hstep.1, hstep.2⟩

/-- A counter below saturation now was below saturation before. -/
theorem deckCycle_dealAll_earlier {template : List Question} {calls : List DealFlags}
    {flags : DealFlags}
    (h : (dealAll template (calls ++ [flags])).deck.deckCycle < u32Max) :
    (dealAll template calls).deck.deckCycle < u32Max := by
  have hstep := deckCycle_le_dealQuestion template flags.rustOnly flags.eligibleDeckRefill
    (deckCycle_dealAll template calls).2
  rw [dealAll_snoc] at h
  exact Nat.lt_of_le_of_lt hstep.1 h

theorem conserved_dealAll {template : List Question} {calls : List DealFlags}
    (h : (dealAll template calls).deck.deckCycle < u32Max) :
    (deckUrn template (dealAll template calls).dealt (dealAll template calls).deck).Conserved := by
  induction calls using List.reverseRecOn with
  | nil => simp [dealAll, Dealing.start, deckUrn, suppliedBatches, Urn.Conserved]
  | append_singleton calls flags ih =>
      have hprev := ih (deckCycle_dealAll_earlier h)
      rw [dealAll_snoc] at h ⊢
      exact conserved_dealQuestion _ _ (deckCycle_dealAll template calls).1 h hprev

theorem inOrder_dealAll {template : List Question} {calls : List DealFlags}
    (h : (dealAll template calls).deck.deckCycle < u32Max)
    (hplain : ∀ flags ∈ calls, flags.rustOnly = false) :
    (deckUrn template (dealAll template calls).dealt (dealAll template calls).deck).InOrder := by
  induction calls using List.reverseRecOn with
  | nil => simp [dealAll, Dealing.start, deckUrn, suppliedBatches, Urn.InOrder]
  | append_singleton calls flags ih =>
      have hprev := ih (deckCycle_dealAll_earlier h) fun f hf => hplain f (by simp [hf])
      have hflag : flags.rustOnly = false := hplain flags (by simp)
      rw [dealAll_snoc] at h ⊢
      unfold Dealing.deal at h ⊢
      rw [hflag] at h ⊢
      exact inOrder_dealQuestion (deckCycle_dealAll template calls).1 h hprev

/-- Ordinary deals of a non-empty template are never refused. -/
theorem length_dealt_dealAll {template : List Question} {calls : List DealFlags}
    (hne : template ≠ []) (hplain : ∀ flags ∈ calls, flags.rustOnly = false) :
    (dealAll template calls).dealt.length = calls.length := by
  induction calls using List.reverseRecOn with
  | nil => rfl
  | append_singleton calls flags ih =>
      have hflag : flags.rustOnly = false := hplain flags (by simp)
      have hprev := ih fun f hf => hplain f (by simp [hf])
      have hsome := dealQuestion_false_isSome (dealAll template calls).deck
        flags.eligibleDeckRefill hne
      obtain ⟨question, hq⟩ := Option.isSome_iff_exists.mp hsome
      rw [dealAll_snoc]
      simp [Dealing.deal, hflag, hq, hprev]

/-- **Deck conservation**: dealt and available questions are the supplied
cards; hence no card is dealt more often than it was supplied, and an
ordinary round deals cycle after cycle. -/
theorem dealAll_conserves_deck (template : List Question) (calls : List DealFlags)
    (hcycle : (dealAll template calls).deck.deckCycle < u32Max) :
    ((dealAll template calls).dealt ++ (dealAll template calls).deck.available).Perm
        (suppliedCards template (dealAll template calls).deck.deckCycle)
      ∧ (∀ card, (dealAll template calls).dealt.count card
          ≤ (suppliedCards template (dealAll template calls).deck.deckCycle).count card)
      ∧ ((∀ flags ∈ calls, flags.rustOnly = false) →
          (template ≠ [] → (dealAll template calls).dealt.length = calls.length)
          ∧ ∀ k, (k + 1) * template.length ≤ (dealAll template calls).dealt.length →
            (((dealAll template calls).dealt.drop (k * template.length)).take
              template.length).Perm (cycleCards template (k + 1))) := by
  have hperm := (conserved_dealAll hcycle).trans
    (flatten_suppliedBatches_perm template (dealAll template calls).deck.deckCycle)
  refine ⟨hperm, fun card => ?_, fun hplain => ⟨fun hne => length_dealt_dealAll hne hplain, ?_⟩⟩
  · rw [← hperm.count_eq card]
    exact (List.sublist_append_left _ _).count_le card
  · intro k hk
    have horder := inOrder_dealAll hcycle hplain
    by_cases hempty : template.length = 0
    · have hnil : template = [] := List.length_eq_zero_iff.mp hempty
      subst hnil
      simp [cycleCards]
    · have hlen := length_suppliedBatches template (deckCycle_dealAll template calls).1
      -- the block was dealt, so its cycle was put in
      have hin : k < (suppliedBatches template (dealAll template calls).deck.deckCycle).length := by
        have htotal : (dealAll template calls).dealt.length
            ≤ (suppliedBatches template
                (dealAll template calls).deck.deckCycle).flatten.length := by
          have heq := congrArg List.length horder
          rw [List.length_append] at heq
          exact Nat.le.intro heq
        rw [List.length_flatten, List.map_eq_map_iff.mpr
          (fun b hb => length_of_mem_suppliedBatches hb), List.map_const', List.sum_replicate,
          smul_eq_mul] at htotal
        have hmul := hk.trans htotal
        have hle := Nat.le_of_mul_le_mul_right hmul (Nat.pos_of_ne_zero hempty)
        omega
      have hblock := horder.block (n := template.length)
        (fun b hb => length_of_mem_suppliedBatches hb) hin hk
      rw [show (deckUrn template (dealAll template calls).dealt
        (dealAll template calls).deck).drawn = (dealAll template calls).dealt from rfl] at hblock
      rw [hblock]
      exact suppliedBatches_getElem_perm template hin

/-- Two cards of different categories. -/
def demoTemplate : List Question :=
  ["go", "rust"].map fun category =>
    { id := "demo-" ++ category, category, difficulty := "easy", prompt := "?"
      answers := #v["A", "B", "C", "D"], correctIndex := 0 }

/-- The modifier takes the Rust card, recycles around the Go card, and an
ordinary deal then finds the leftover first. -/
def demoCalls : List DealFlags :=
  [⟨true, true⟩, ⟨true, true⟩, ⟨false, true⟩]

theorem dealAll_conserves_deck_demo :
    (dealAll demoTemplate demoCalls).deck.deckCycle = 2
      ∧ ((dealAll demoTemplate demoCalls).dealt
          ++ (dealAll demoTemplate demoCalls).deck.available).Perm
            (suppliedCards demoTemplate (dealAll demoTemplate demoCalls).deck.deckCycle) :=
  ⟨by decide, (dealAll_conserves_deck demoTemplate demoCalls (by decide)).1⟩

/-! ## Ids -/

/-- What the deck builder guarantees of its ids: they are distinct, and
none of them looks like an id of a later cycle. -/
structure PlainIds (template : List Question) : Prop where
  distinct : (template.map (·.id)).Nodup
  unmarked : ∀ question ∈ template, ¬ "-cycle-".toList <:+: question.id.toList

instance (template : List Question) : Decidable (PlainIds template) :=
  decidable_of_iff ((template.map (·.id)).Nodup
      ∧ ∀ question ∈ template, ¬ "-cycle-".toList <:+: question.id.toList)
    ⟨fun h => ⟨h.1, h.2⟩, fun h => ⟨h.distinct, h.unmarked⟩⟩

theorem toList_suffixId (cycle : Nat) (question : Question) :
    (suffixId cycle question).id.toList
      = (question.id.toList ++ "-cycle".toList) ++ '-' :: Nat.toDigits 10 cycle := by
  have hnum : (toString cycle).toList = Nat.toDigits 10 cycle := Nat.toList_repr
  have hsep : "-cycle-".toList = "-cycle".toList ++ ['-'] := by decide
  simp only [suffixId, String.toList_append, hnum, hsep, List.append_assoc,
    List.singleton_append]

/-- A suffixed id determines the id and the cycle it was made from. -/
theorem suffixId_inj {c d : Nat} {q r : Question}
    (h : (suffixId c q).id = (suffixId d r).id) : q.id = r.id ∧ c = d := by
  have hlist := congrArg String.toList h
  rw [toList_suffixId, toList_suffixId] at hlist
  obtain ⟨hname, hcycle⟩ := append_sep_toDigits_inj (by decide) hlist
  exact ⟨String.toList_inj.mp (List.append_cancel_right hname), hcycle⟩

theorem marked_suffixId (cycle : Nat) (question : Question) :
    "-cycle-".toList <:+: (suffixId cycle question).id.toList := by
  refine ⟨question.id.toList, Nat.toDigits 10 cycle, ?_⟩
  have hsep : "-cycle-".toList = "-cycle".toList ++ ['-'] := by decide
  rw [toList_suffixId, hsep]
  simp only [List.append_assoc, List.singleton_append]

/-- The ids of one cycle's copies. -/
theorem nodup_ids_suffixed {template : List Question} (h : PlainIds template) (cycle : Nat) :
    ((template.map (suffixId cycle)).map (·.id)).Nodup := by
  rw [List.map_map]
  have hd := List.nodup_iff_pairwise_ne.mp h.distinct
  rw [List.pairwise_map] at hd
  rw [List.nodup_iff_pairwise_ne, List.pairwise_map]
  exact hd.imp fun hne heq => hne (suffixId_inj heq).1

/-- **No two cards in play share an id**, whatever cycle they are of. -/
theorem nodup_ids_suppliedCards {template : List Question} (h : PlainIds template)
    (cycle : Nat) : ((suppliedCards template cycle).map (·.id)).Nodup := by
  unfold suppliedCards
  rw [List.map_append, List.map_flatMap, List.nodup_append]
  refine ⟨h.distinct, ?_, ?_⟩
  · rw [List.nodup_flatMap]
    refine ⟨fun c _ => nodup_ids_suffixed h c, ?_⟩
    refine (List.pairwise_lt_range' (s := 2) (n := cycle - 1) 1).imp ?_
    -- two cycles cannot make one id
    intro c d hlt id hc hd
    obtain ⟨q, hq, rfl⟩ := List.mem_map.mp hc
    obtain ⟨r, hr, heq⟩ := List.mem_map.mp hd
    obtain ⟨q', _, rfl⟩ := List.mem_map.mp hq
    obtain ⟨r', _, rfl⟩ := List.mem_map.mp hr
    exact absurd (suffixId_inj heq).2 (Nat.ne_of_gt hlt)
  · -- an unmarked id is no suffixed one
    intro id hplain other hother heq
    obtain ⟨q, hq, rfl⟩ := List.mem_map.mp hplain
    obtain ⟨c, _, hc⟩ := List.mem_flatMap.mp hother
    obtain ⟨r, hr, rfl⟩ := List.mem_map.mp hc
    obtain ⟨r', _, rfl⟩ := List.mem_map.mp hr
    have hmark := marked_suffixId c r'
    rw [← heq] at hmark
    exact h.unmarked q hq hmark

/-- All deals of a round have distinct ids. -/
theorem nodup_ids_of_conserved {template dealt : List Question} {deck : Deck}
    (hids : PlainIds template) (h : (deckUrn template dealt deck).Conserved) :
    (dealt.map (·.id)).Nodup := by
  refine h.nodup_map ?_
  have hperm := flatten_suppliedBatches_perm template deck.deckCycle
  exact (hperm.map _).nodup_iff.mpr (nodup_ids_suppliedCards hids deck.deckCycle)

end DurableTrivia.Web

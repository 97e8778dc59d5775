import Mathlib

/-!
# Rounds — dealing from several stocks by quota

Every round takes its quota from each stock in turn, as long as there are
cards. What is dealt by some point is a prefix of one fixed order, and
over enough rounds that order holds every card once.
-/

namespace DurableTrivia.Lib

/-- Some cards and how many of them a round takes. -/
structure Stock (α : Type*) where
  cards : List α
  quota : Nat

variable {α : Type*}

/-- What a stock gives to round `round`, counted from nought. -/
def Stock.slice (stock : Stock α) (round : Nat) : List α :=
  (stock.cards.drop (stock.quota * round)).take stock.quota

/-- The cards of one round. -/
def roundCards (stocks : List (Stock α)) (round : Nat) : List α :=
  stocks.flatMap (·.slice round)

/-- The cards of the first `rounds` rounds, in order. -/
def dealOrder (stocks : List (Stock α)) (rounds : Nat) : List α :=
  (List.range rounds).flatMap (roundCards stocks)

variable {stocks : List (Stock α)}

theorem dealOrder_succ (rounds : Nat) :
    dealOrder stocks (rounds + 1) = dealOrder stocks rounds ++ roundCards stocks rounds := by
  simp [dealOrder, List.range_succ]

theorem dealOrder_prefix {rounds later : Nat} (h : rounds ≤ later) :
    dealOrder stocks rounds <+: dealOrder stocks later := by
  induction later, h using Nat.le_induction with
  | base => exact List.prefix_rfl
  | succ later _ ih =>
      rw [dealOrder_succ]
      exact ih.trans (List.prefix_append _ _)

theorem Stock.take_append_slice (stock : Stock α) (round : Nat) :
    stock.cards.take (stock.quota * round) ++ stock.slice round
      = stock.cards.take (stock.quota * (round + 1)) := by
  rw [Nat.mul_succ, List.take_add]
  rfl

/-- By a round, each stock has given its first cards. -/
theorem dealOrder_perm (rounds : Nat) :
    (dealOrder stocks rounds).Perm
      (stocks.flatMap fun stock => stock.cards.take (stock.quota * rounds)) := by
  induction rounds with
  | zero => simp [dealOrder]
  | succ rounds ih =>
      rw [dealOrder_succ]
      have hboth := (ih.append_right (roundCards stocks rounds)).trans
        (List.flatMap_append_perm stocks _ _)
      refine hboth.trans (List.Perm.of_eq ?_)
      simp only [Stock.take_append_slice]

/-! ## Running dry -/

/-- Every stock gives at least one card a round, while it has any. -/
def Paying (stocks : List (Stock α)) : Prop :=
  ∀ stock ∈ stocks, 0 < stock.quota

/-- A round without cards finds every stock used up. -/
theorem used_up_of_roundCards_nil (hpay : Paying stocks) {round : Nat}
    (h : roundCards stocks round = []) {stock : Stock α} (hstock : stock ∈ stocks) :
    stock.cards.length ≤ stock.quota * round := by
  have hslice : stock.slice round = [] := by
    unfold roundCards at h
    exact List.flatMap_eq_nil_iff.mp h stock hstock
  have hquota := hpay stock hstock
  have hlen := congrArg List.length hslice
  simp only [Stock.slice, List.length_take, List.length_drop, List.length_nil] at hlen
  omega

/-- All cards of all stocks. -/
def allCards (stocks : List (Stock α)) : List α :=
  stocks.flatMap (·.cards)

theorem dealOrder_perm_all {rounds : Nat}
    (h : ∀ stock ∈ stocks, stock.cards.length ≤ stock.quota * rounds) :
    (dealOrder stocks rounds).Perm (allCards stocks) := by
  refine (dealOrder_perm rounds).trans (List.Perm.of_eq ?_)
  exact List.flatMap_congr fun stock hstock => List.take_of_length_le (h stock hstock)

theorem length_dealOrder_le (rounds : Nat) :
    (dealOrder stocks rounds).length ≤ (allCards stocks).length := by
  rw [(dealOrder_perm rounds).length_eq, allCards, List.length_flatMap, List.length_flatMap]
  apply List.sum_le_sum
  intro stock _
  exact List.length_take_le' _ _

/-- The order in which all cards go out. -/
def fullOrder (stocks : List (Stock α)) : List α :=
  dealOrder stocks (allCards stocks).length

/-- **Every card goes out, and none twice.** -/
theorem fullOrder_perm (hpay : Paying stocks) : (fullOrder stocks).Perm (allCards stocks) := by
  apply dealOrder_perm_all
  intro stock hstock
  have hpart : stock.cards.length ≤ (allCards stocks).length := by
    rw [allCards, List.length_flatMap]
    exact List.le_sum_of_mem (List.mem_map_of_mem hstock)
  calc stock.cards.length ≤ 1 * (allCards stocks).length := by omega
    _ ≤ stock.quota * (allCards stocks).length := Nat.mul_le_mul_right _ (hpay stock hstock)

/-- What any number of rounds deals is a prefix of the one order. -/
theorem dealOrder_prefix_full (hpay : Paying stocks) (rounds : Nat) :
    dealOrder stocks rounds <+: fullOrder stocks := by
  rcases Nat.le_total rounds (allCards stocks).length with hle | hge
  · exact dealOrder_prefix hle
  · have hinit : fullOrder stocks <+: dealOrder stocks rounds := dealOrder_prefix hge
    have hlen := @length_dealOrder_le _ stocks rounds
    rw [← (fullOrder_perm hpay).length_eq] at hlen
    rw [hinit.eq_of_length (Nat.le_antisymm hinit.length_le hlen)]

/-- Once a round is empty, the whole order has been dealt. -/
theorem dealOrder_eq_full (hpay : Paying stocks) {round : Nat}
    (h : roundCards stocks round = []) : dealOrder stocks round = fullOrder stocks := by
  have hall := dealOrder_perm_all fun stock hstock => used_up_of_roundCards_nil hpay h hstock
  have hlen := hall.length_eq.trans (fullOrder_perm hpay).length_eq.symm
  exact (dealOrder_prefix_full hpay round).eq_of_length hlen

/-- A cut through a round that has enough cards is a cut of the order. -/
theorem take_fullOrder (hpay : Paying stocks) {rounds maximum : Nat}
    (h : maximum ≤ (dealOrder stocks rounds).length) :
    (fullOrder stocks).take maximum = (dealOrder stocks rounds).take maximum := by
  obtain ⟨rest, hrest⟩ := dealOrder_prefix_full hpay rounds
  rw [← hrest, List.take_append_of_le_length h]

/-! ## One stock's part -/

/-- The cards of one stock go out in their own order. -/
theorem filter_dealOrder {before after : List (Stock α)} {stock : Stock α} {p : α → Bool}
    (hin : ∀ card ∈ stock.cards, p card = true)
    (hout : ∀ other ∈ before ++ after, ∀ card ∈ other.cards, p card = false) (rounds : Nat) :
    (dealOrder (before ++ stock :: after) rounds).filter p
      = stock.cards.take (stock.quota * rounds) := by
  have hslice : ∀ other round, ∀ card ∈ Stock.slice other round, card ∈ (other : Stock α).cards :=
    fun other round card hcard => List.mem_of_mem_drop (List.mem_of_mem_take hcard)
  have hnone : ∀ others : List (Stock α), (∀ other ∈ others, other ∈ before ++ after) →
      ∀ round, (roundCards others round).filter p = [] := by
    intro others hothers round
    rw [List.filter_eq_nil_iff]
    intro card hcard
    obtain ⟨other, hother, hmem⟩ := List.mem_flatMap.mp hcard
    rw [hout other (hothers other hother) card (hslice other round card hmem)]
    exact Bool.false_ne_true
  induction rounds with
  | zero => simp [dealOrder]
  | succ rounds ih =>
      have hround : (roundCards (before ++ stock :: after) rounds).filter p
          = stock.slice rounds := by
        have hsplit : roundCards (before ++ stock :: after) rounds
            = roundCards before rounds ++ (stock.slice rounds ++ roundCards after rounds) := by
          simp [roundCards]
        rw [hsplit, List.filter_append, List.filter_append,
          hnone before (fun other h => List.mem_append_left _ h),
          hnone after (fun other h => List.mem_append_right _ h), List.nil_append,
          List.append_nil, List.filter_eq_self]
        exact fun card hcard => hin card (hslice stock rounds card hcard)
      rw [dealOrder_succ, List.filter_append, ih, hround, stock.take_append_slice]

/-- What a cut of the order holds of one stock is its first cards. -/
theorem filter_take_fullOrder (before after : List (Stock α)) (stock : Stock α) {p : α → Bool}
    (hin : ∀ card ∈ stock.cards, p card = true)
    (hout : ∀ other ∈ before ++ after, ∀ card ∈ other.cards, p card = false) (maximum : Nat) :
    ((fullOrder (before ++ stock :: after)).take maximum).filter p
      = stock.cards.take
          (((fullOrder (before ++ stock :: after)).take maximum).countP p) := by
  have hinit : ((fullOrder (before ++ stock :: after)).take maximum).filter p
      <+: stock.cards := by
    have htake := List.take_prefix maximum (fullOrder (before ++ stock :: after))
    refine (htake.filter p).trans ?_
    rw [fullOrder, filter_dealOrder hin hout]
    exact List.take_prefix _ _
  rw [List.countP_eq_length_filter]
  exact (List.prefix_iff_eq_take.mp hinit)

/-- How many cards of one stock the first rounds deal. -/
theorem countP_dealOrder (before after : List (Stock α)) (stock : Stock α) {p : α → Bool}
    (hin : ∀ card ∈ stock.cards, p card = true)
    (hout : ∀ other ∈ before ++ after, ∀ card ∈ other.cards, p card = false) (rounds : Nat) :
    (dealOrder (before ++ stock :: after) rounds).countP p
      = min (stock.quota * rounds) stock.cards.length := by
  rw [List.countP_eq_length_filter, filter_dealOrder hin hout, List.length_take]

theorem countP_take_fullOrder_le (before after : List (Stock α)) (stock : Stock α) {p : α → Bool}
    (hin : ∀ card ∈ stock.cards, p card = true)
    (hout : ∀ other ∈ before ++ after, ∀ card ∈ other.cards, p card = false) (maximum : Nat) :
    ((fullOrder (before ++ stock :: after)).take maximum).countP p ≤ stock.cards.length := by
  have hfilter := congrArg List.length
    (filter_take_fullOrder before after stock hin hout maximum)
  rw [← List.countP_eq_length_filter, List.length_take] at hfilter
  omega

/-! ## Relabelling -/

/-- The stock of the labels of its cards. -/
def Stock.map {β : Type*} (f : α → β) (stock : Stock α) : Stock β :=
  { cards := stock.cards.map f, quota := stock.quota }

/-- The labels go out in the order of their cards. -/
theorem map_dealOrder {β : Type*} (f : α → β) (rounds : Nat) :
    (dealOrder stocks rounds).map f = dealOrder (stocks.map (Stock.map f)) rounds := by
  have hslice : ∀ (stock : Stock α) (round : Nat),
      (stock.slice round).map f = (stock.map f).slice round := by
    intro stock round
    simp only [Stock.slice, Stock.map, List.map_take, List.map_drop]
  have hround : ∀ round, (roundCards stocks round).map f
      = roundCards (stocks.map (Stock.map f)) round := by
    intro round
    simp only [roundCards, List.map_flatMap, List.flatMap_map, hslice]
  simp only [dealOrder, List.map_flatMap, hround]

theorem map_fullOrder {β : Type*} (f : α → β) :
    (fullOrder stocks).map f = fullOrder (stocks.map (Stock.map f)) := by
  have hlen : (allCards (stocks.map (Stock.map f))).length = (allCards stocks).length := by
    simp only [allCards, List.length_flatMap, List.map_map]
    congr 1
    apply List.map_congr_left
    intro stock _
    exact List.length_map f
  rw [fullOrder, fullOrder, hlen, map_dealOrder]

/-! ## Counting in a cut -/

/-- A cut that contains a prefix counts at least as much as it. -/
theorem countP_le_take {xs start : List α} (h : start <+: xs) {maximum : Nat}
    (hlen : start.length ≤ maximum) (p : α → Bool) :
    start.countP p ≤ (xs.take maximum).countP p := by
  have hinit : start <+: xs.take maximum := by
    rw [List.prefix_take_iff]
    exact ⟨h, hlen⟩
  exact hinit.sublist.countP_le

/-- A cut counts at most as much as a prefix, and the cards it has beyond. -/
theorem countP_take_le {xs start : List α} (h : start <+: xs) (maximum : Nat) (p : α → Bool) :
    (xs.take maximum).countP p ≤ start.countP p + (maximum - start.length) := by
  obtain ⟨rest, rfl⟩ := h
  rw [List.take_append, List.countP_append]
  apply Nat.add_le_add
  · exact (List.take_sublist _ _).countP_le
  · exact List.countP_le_length.trans (List.length_take_le _ _)

end DurableTrivia.Lib

import DurableTrivia.Lib.MapSum

/-!
# Ledger — accounts kept as running totals of their postings

A posting adds an amount to an account. A map that keeps each account's
running total is faithful to a list of postings when every account shows
the sum of its own postings; the total over the accounts is then the sum
of all postings (`Balanced`). Posting to an account, and opening one at
zero, keep a map faithful.
-/

namespace DurableTrivia.Lib

variable {α β M : Type*} {cmp : α → α → Ordering} [DecidableEq α] [AddCommMonoid M]

/-- What the postings add up to in one account. -/
def balance (postings : List (α × M)) (account : α) : M :=
  ((postings.filter fun posting => posting.1 = account).map Prod.snd).sum

/-- What they add up to over all accounts. -/
def grandTotal (postings : List (α × M)) : M :=
  (postings.map Prod.snd).sum

@[simp] theorem balance_nil (account : α) : balance ([] : List (α × M)) account = 0 := rfl

omit [DecidableEq α] in
@[simp] theorem grandTotal_nil : grandTotal ([] : List (α × M)) = 0 := rfl

theorem balance_cons (posting : α × M) (postings : List (α × M)) (account : α) :
    balance (posting :: postings) account =
      (if posting.1 = account then posting.2 else 0) + balance postings account := by
  by_cases h : posting.1 = account <;> simp [balance, h]

omit [DecidableEq α] in
theorem grandTotal_cons (posting : α × M) (postings : List (α × M)) :
    grandTotal (posting :: postings) = posting.2 + grandTotal postings := by
  simp [grandTotal]

/-- The map `m`, whose values show the amounts `value`, keeps the
accounts of `postings`; an account nobody opened is at zero. -/
structure Balanced (value : β → M) (m : Std.TreeMap α β cmp) (postings : List (α × M)) :
    Prop where
  account : ∀ account, (m[account]?.map value).getD 0 = balance postings account
  total : valueSum value m = grandTotal postings

namespace Balanced
variable {value : β → M} {m : Std.TreeMap α β cmp} {postings : List (α × M)}

variable [Std.TransCmp cmp]

theorem empty : Balanced value (∅ : Std.TreeMap α β cmp) [] := by
  refine ⟨fun account => ?_, by simp⟩
  rw [show (∅ : Std.TreeMap α β cmp)[account]? = none from Std.TreeMap.getElem?_emptyc]
  rfl

variable [Std.LawfulEqCmp cmp] {k : α} {v : β}

/-- **Posting an amount** to an account, opened by this if need be. -/
theorem post (h : Balanced value m postings) {amount : M}
    (hv : value v = (m[k]?.map value).getD 0 + amount) :
    Balanced value (m.insert k v) ((k, amount) :: postings) := by
  constructor
  · intro account
    rw [balance_cons, Std.TreeMap.getElem?_insert]
    by_cases hk : k = account
    · subst hk
      rw [if_pos Std.ReflCmp.compare_self, if_pos rfl, Option.map_some, Option.getD_some, hv,
        h.account, add_comm]
    · rw [if_neg fun hc => hk (Std.LawfulEqCmp.eq_of_compare hc), if_neg hk, zero_add, h.account]
  · rw [grandTotal_cons, ← h.total]
    cases hget : m[k]? with
    | none =>
        rw [hget, Option.map_none, Option.getD_none, zero_add] at hv
        rw [valueSum_insert_new value hget, hv]
    | some old =>
        rw [hget, Option.map_some, Option.getD_some] at hv
        rw [valueSum_insert_grown hget hv, add_comm]

/-- Opening an account at zero posts nothing. -/
theorem openAccount (h : Balanced value m postings) (hnew : m[k]? = none) (hv : value v = 0) :
    Balanced value (m.insert k v) postings := by
  constructor
  · intro account
    rw [Std.TreeMap.getElem?_insert]
    by_cases hk : k = account
    · subst hk
      rw [if_pos Std.ReflCmp.compare_self, Option.map_some, Option.getD_some, hv, ← h.account,
        hnew]
      rfl
    · rw [if_neg fun hc => hk (Std.LawfulEqCmp.eq_of_compare hc), h.account]
  · rw [valueSum_insert_new value hnew, hv, zero_add, h.total]

end Balanced

end DurableTrivia.Lib

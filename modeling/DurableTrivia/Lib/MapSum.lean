import Mathlib

/-!
# MapSum — totals over the values of an ordered map

A counter kept per key and a counter of the whole are the same thing
seen twice. `valueSum f m` adds `f` over the values of `m`, and the two
insertion laws say how it moves: a fresh key adds its value, a present
key what its value grew by.
-/

namespace DurableTrivia.Lib

variable {α β M : Type*} {cmp : α → α → Ordering}

/-- The total of `f` over the values of `m`. -/
def valueSum [AddCommMonoid M] (f : β → M) (m : Std.TreeMap α β cmp) : M :=
  (m.toList.map fun entry => f entry.2).sum

@[simp] theorem valueSum_empty [AddCommMonoid M] (f : β → M) :
    valueSum f (∅ : Std.TreeMap α β cmp) = 0 := rfl

/-- A homomorphism may be taken of the total or of the values. -/
theorem map_valueSum {N : Type*} [AddCommMonoid M] [AddCommMonoid N] (g : M →+ N) (f : β → M)
    (m : Std.TreeMap α β cmp) : g (valueSum f m) = valueSum (fun v => g (f v)) m := by
  unfold valueSum
  rw [map_list_sum, List.map_map]
  rfl

/-- In a list with distinct keys, one entry is all there is of its key. -/
theorem filter_key_eq_singleton [DecidableEq α] {l : List (α × β)} {k : α} {v : β}
    (hd : l.Pairwise fun a b => a.1 ≠ b.1) (hm : (k, v) ∈ l) :
    l.filter (fun entry => k = entry.1) = [(k, v)] := by
  induction l with
  | nil => cases hm
  | cons entry rest ih =>
      obtain ⟨hhead, htail⟩ := List.pairwise_cons.mp hd
      rcases List.mem_cons.mp hm with rfl | hrest
      · have hnone : rest.filter (fun entry => k = entry.1) = [] :=
          List.filter_eq_nil_iff.mpr fun e he => by simpa using hhead e he
        simp [hnone]
      · have hne : k ≠ entry.1 := fun hk => hhead _ hrest hk.symm
        simp [hne, ih htail hrest]

section Insert
variable [Std.TransCmp cmp] [Std.LawfulEqCmp cmp] {m : Std.TreeMap α β cmp} {k : α} {v old : β}

/-- No key is listed twice. -/
theorem toList_distinct (m : Std.TreeMap α β cmp) :
    m.toList.Pairwise fun a b => a.1 ≠ b.1 := by
  refine m.distinct_keys_toList.imp fun {a b} hne heq => hne ?_
  rw [heq]
  exact Std.ReflCmp.compare_self

/-- After an insertion: the new value, and the entries under other keys. -/
private theorem sum_insert [DecidableEq α] [AddCommMonoid M] (f : β → M) :
    valueSum f (m.insert k v) =
      f v + ((m.toList.filter fun entry => ¬ k = entry.1).map fun entry => f entry.2).sum := by
  have hperm : (m.insert k v).toList.Perm
      ((k, v) :: m.toList.filter fun entry => ¬ k = entry.1) := by
    simpa using Std.TreeMap.toList_insert_perm (t := m) (k := k) (v := v)
  simpa [valueSum] using (hperm.map fun entry => f entry.2).sum_eq

/-- A fresh key adds its value. -/
theorem valueSum_insert_new [DecidableEq α] [AddCommMonoid M] (f : β → M) (h : m[k]? = none) :
    valueSum f (m.insert k v) = f v + valueSum f m := by
  have hall : m.toList.filter (fun entry => ¬ k = entry.1) = m.toList := by
    refine List.filter_eq_self.mpr fun entry hmem => ?_
    have hget : m[entry.1]? = some entry.2 :=
      Std.TreeMap.mem_toList_iff_getElem?_eq_some.mp hmem
    simp only [decide_not, Bool.not_eq_true', decide_eq_false_iff_not]
    rintro rfl
    rw [h] at hget
    cases hget
  rw [sum_insert, hall, valueSum]

/-- A present key whose value grew by `amount` adds the amount. -/
theorem valueSum_insert_grown [DecidableEq α] [AddCommMonoid M] {f : β → M} {amount : M}
    (h : m[k]? = some old) (hv : f v = f old + amount) :
    valueSum f (m.insert k v) = valueSum f m + amount := by
  have hmem : (k, old) ∈ m.toList := Std.TreeMap.mem_toList_iff_getElem?_eq_some.mpr h
  have hsplit := (List.filter_append_perm (fun entry => k = entry.1) m.toList).map
    fun entry => f entry.2
  have hone := filter_key_eq_singleton (toList_distinct m) hmem
  have hsum : valueSum f m =
      f old + ((m.toList.filter fun entry => ¬ k = entry.1).map fun entry => f entry.2).sum := by
    rw [valueSum, ← hsplit.sum_eq, List.map_append, hone]
    simp
  rw [sum_insert, hsum, hv, add_right_comm]

end Insert

end DurableTrivia.Lib

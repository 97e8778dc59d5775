import Mathlib

/-!
# Urn — drawing without replacement from a supply topped up in batches

The law every dealing machine rests on: what was drawn together with
what is left is what was put in. It holds as a multiset for any draws
(`Conserved`), and as a sequence when every draw takes the front and
every batch goes to the back (`InOrder`); in the second case the draws
come out batch by batch (`InOrder.block`).
-/

namespace DurableTrivia.Lib

/-- The draws in order, the supply in order, and every batch ever put
in, oldest first. -/
structure Urn (α : Type*) where
  drawn : List α
  left : List α
  batches : List (List α)

namespace Urn

variable {α β : Type*} {u : Urn α} {a : α} {rest batch : List α}

/-- Take `a` out and leave `rest`. -/
def draw (u : Urn α) (a : α) (rest : List α) : Urn α :=
  { u with drawn := u.drawn ++ [a], left := rest }

/-- Put a batch behind what is left. -/
def refill (u : Urn α) (batch : List α) : Urn α :=
  { u with left := u.left ++ batch, batches := u.batches ++ [batch] }

/-- Nothing is lost and nothing appears. -/
def Conserved (u : Urn α) : Prop := (u.drawn ++ u.left).Perm u.batches.flatten

/-- Draws and supply are the batches, in order. -/
def InOrder (u : Urn α) : Prop := u.drawn ++ u.left = u.batches.flatten

theorem Conserved.draw (h : u.Conserved) (hl : u.left.Perm (a :: rest)) :
    (u.draw a rest).Conserved := by
  have hperm : (u.drawn ++ [a] ++ rest).Perm (u.drawn ++ u.left) := by
    rw [List.append_assoc]
    exact (hl.symm).append_left u.drawn
  exact hperm.trans h

theorem Conserved.refill (h : u.Conserved) (batch : List α) : (u.refill batch).Conserved := by
  have hperm : ((u.drawn ++ u.left) ++ batch).Perm (u.batches.flatten ++ batch) :=
    h.append_right batch
  simpa [Conserved, Urn.refill, List.append_assoc] using hperm

theorem InOrder.draw (h : u.InOrder) (hl : u.left = a :: rest) : (u.draw a rest).InOrder := by
  have hlist : u.drawn ++ [a] ++ rest = u.drawn ++ u.left := by
    rw [hl, List.append_assoc, List.singleton_append]
  exact hlist.trans h

theorem InOrder.refill (h : u.InOrder) (batch : List α) : (u.refill batch).InOrder := by
  show u.drawn ++ (u.left ++ batch) = (u.batches ++ [batch]).flatten
  rw [← List.append_assoc, h, List.flatten_append]
  simp

/-- Labels that are distinct over everything put in are distinct over
the draws. -/
theorem Conserved.nodup_map (h : u.Conserved) {f : α → β}
    (hd : (u.batches.flatten.map f).Nodup) : (u.drawn.map f).Nodup := by
  have hall : ((u.drawn ++ u.left).map f).Nodup := (h.map f).nodup_iff.mpr hd
  rw [List.map_append] at hall
  exact (List.nodup_append.mp hall).1

/-- Batches of one size stand at multiples of it. -/
theorem flatten_block {batches : List (List α)} {n : Nat}
    (hn : ∀ b ∈ batches, b.length = n) {k : Nat} (hk : k < batches.length) :
    (batches.flatten.drop (k * n)).take n = batches[k] := by
  induction batches generalizing k with
  | nil => cases hk
  | cons b rest ih =>
      have hb : b.length = n := hn b (by simp)
      cases k with
      | zero => simp [← hb]
      | succ k =>
          have hshift : (k + 1) * n = b.length + k * n := by rw [hb]; ring
          have htail := ih (fun c hc => hn c (by simp [hc])) (by simpa using hk)
          rw [hshift, List.flatten_cons, List.drop_length_add_append]
          simpa using htail

/-- **In-order draws come out batch by batch**: the `k`-th block of `n`
draws is the `k`-th batch. -/
theorem InOrder.block (h : u.InOrder) {n : Nat} (hn : ∀ b ∈ u.batches, b.length = n)
    {k : Nat} (hk : k < u.batches.length) (hlen : (k + 1) * n ≤ u.drawn.length) :
    (u.drawn.drop (k * n)).take n = u.batches[k] := by
  have hroom : n ≤ (u.drawn.drop (k * n)).length := by
    rw [List.length_drop]
    have hshift : (k + 1) * n = k * n + n := by ring
    omega
  have hsame : (u.batches.flatten.drop (k * n)).take n = (u.drawn.drop (k * n)).take n := by
    have hle : k * n ≤ u.drawn.length := by
      have hshift : (k + 1) * n = k * n + n := by ring
      omega
    rw [← h, List.drop_append_of_le_length hle, List.take_append_of_le_length hroom]
  rw [← hsame]
  exact flatten_block hn hk

end Urn

end DurableTrivia.Lib

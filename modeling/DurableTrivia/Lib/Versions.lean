import Mathlib

/-!
# Versions — a register that keeps what was written last

Writes of numbered versions to keyed registers, recorded **latest
first**. A register keeps the write made last; its readers want the
write of the greatest version. The two are the same at every point of
the history exactly when the versions of each key arrive in
non-decreasing order (`Throughout`, `InOrder`).

Each version of a key has one holder. A register that changes its holder
for a greater version counts a handoff. In order, the handoffs counted
are the pairs of neighbouring versions with different holders
(`Neighbours`), each counted once.
-/

namespace DurableTrivia.Lib

namespace Versions

variable {α κ β : Type*}

/-! ## Registers -/

section Registers
variable [DecidableEq κ] (key : α → κ) (version : α → Nat)

/-- The write a register keeps. -/
def latest (writes : List α) (k : κ) : Option α := writes.find? fun a => key a = k

/-- A write of the greatest version of its key. -/
def Greatest (writes : List α) (a : α) : Prop :=
  a ∈ writes ∧ ∀ b ∈ writes, key b = key a → version b ≤ version a

/-- The versions of each key arrived in non-decreasing order. -/
def InOrder (writes : List α) : Prop :=
  writes.Pairwise fun later earlier => key later = key earlier → version earlier ≤ version later

/-- Every register keeps a greatest version. -/
def Current (writes : List α) : Prop :=
  ∀ k a, latest key writes k = some a → Greatest key version writes a

variable {key version}

theorem latest_mem {writes : List α} {k : κ} {a : α} (h : latest key writes k = some a) :
    a ∈ writes ∧ key a = k := by
  refine ⟨List.mem_of_find?_eq_some h, ?_⟩
  simpa using List.find?_some h

theorem latest_none {writes : List α} {k : κ} (h : latest key writes k = none) :
    ∀ a ∈ writes, key a ≠ k := by
  intro a ha
  simpa using List.find?_eq_none.mp h a ha

theorem latest_cons (a : α) (writes : List α) (k : κ) :
    latest key (a :: writes) k = if key a = k then some a else latest key writes k := by
  unfold latest
  by_cases h : key a = k
  · simp [h]
  · simp [h]

/-- In order, what was written last is the greatest. -/
theorem current_of_inOrder {writes : List α} (h : InOrder key version writes) :
    Current key version writes := by
  induction writes with
  | nil =>
      intro k a hk
      cases hk
  | cons w writes ih =>
      obtain ⟨hhead, htail⟩ := List.pairwise_cons.mp h
      intro k a hk
      rw [latest_cons] at hk
      by_cases hw : key w = k
      · rw [if_pos hw] at hk
        cases hk
        refine ⟨List.mem_cons_self, ?_⟩
        intro b hb hkey
        rcases List.mem_cons.mp hb with rfl | hb
        · exact Nat.le_refl _
        · exact hhead b hb hkey.symm
      · rw [if_neg hw] at hk
        obtain ⟨hmem, hgreatest⟩ := ih htail k a hk
        refine ⟨List.mem_cons_of_mem _ hmem, ?_⟩
        intro b hb hkey
        rcases List.mem_cons.mp hb with rfl | hb
        · exact absurd (hkey.trans (latest_mem hk).2) hw
        · exact hgreatest b hb hkey

/-- A write below an earlier one of its key is kept all the same. -/
theorem inOrder_cons_of_current {a : α} {writes : List α}
    (hcurrent : Current key version (a :: writes)) (h : InOrder key version writes) :
    InOrder key version (a :: writes) := by
  refine List.pairwise_cons.mpr ⟨?_, h⟩
  intro b hb hkey
  have hkept : latest key (a :: writes) (key a) = some a := by
    rw [latest_cons, if_pos rfl]
  exact (hcurrent (key a) a hkept).2 b (List.mem_cons_of_mem _ hb) hkey.symm

end Registers

/-! ## Handoffs -/

section Handoffs
variable (key : α → κ) (version : α → Nat) (holder : α → β)

/-- Each version of a key has one holder. -/
def OneHolder (writes : List α) : Prop :=
  ∀ a ∈ writes, ∀ b ∈ writes, key a = key b → version a = version b → holder a = holder b

/-- Neighbouring versions of a key, held by different holders. -/
structure Neighbours (writes : List α) (a b : α) : Prop where
  first : a ∈ writes
  second : b ∈ writes
  same : key a = key b
  less : version a < version b
  between : ∀ c ∈ writes, key c = key b → ¬ (version a < version c ∧ version c < version b)
  differ : holder a ≠ holder b

/-- A handoff by its key and its two versions. -/
def label (pair : α × α) : κ × Nat × Nat := (key pair.2, version pair.1, version pair.2)

variable {key version holder} in
/-- A pair of neighbours stays one when nothing comes between. -/
theorem Neighbours.cons {writes : List α} {a b : α} (h : Neighbours key version holder writes a b)
    {c : α} (hc : key c = key b → ¬ (version a < version c ∧ version c < version b)) :
    Neighbours key version holder (c :: writes) a b := by
  refine ⟨List.mem_cons_of_mem _ h.first, List.mem_cons_of_mem _ h.second, h.same, h.less, ?_,
    h.differ⟩
  intro d hd
  rcases List.mem_cons.mp hd with rfl | hd
  · exact hc
  · exact h.between d hd

/-- A version has one neighbour below it. -/
theorem Neighbours.first_eq {writes : List α} {key : α → κ} {version : α → Nat} {holder : α → β}
    {a b a' b' : α} (h : Neighbours key version holder writes a b)
    (h' : Neighbours key version holder writes a' b') (hkey : key b' = key b)
    (hversion : version b' = version b) : version a' = version a := by
  have hless := h.less
  have hless' := h'.less
  have hbelow := h.between a' h'.first (h'.same.trans hkey)
  have hbelow' := h'.between a h.first (h.same.trans hkey.symm)
  omega

/-- In order, the smaller of two versions is not the one written last. -/
theorem Neighbours.first_earlier {key : α → κ} {version : α → Nat} {holder : α → β} {w : α}
    {writes : List α} {a b : α}
    (hab : Neighbours key version holder (w :: writes) a b)
    (h : InOrder key version (w :: writes)) : a ∈ writes := by
  have hhead := (List.pairwise_cons.mp h).1
  rcases List.mem_cons.mp hab.first with rfl | ha
  · rcases List.mem_cons.mp hab.second with rfl | hb
    · exact absurd hab.less (Nat.lt_irrefl _)
    · exact absurd (hhead b hb hab.same) (Nat.not_le.mpr hab.less)
  · exact ha

/-- A version that was written before as well had its neighbour before. -/
theorem Neighbours.earlier {key : α → κ} {version : α → Nat} {holder : α → β} {w : α}
    {writes : List α} {a b c : α}
    (hab : Neighbours key version holder (w :: writes) a b) (ha : a ∈ writes) (hc : c ∈ writes)
    (hkey : key c = key b) (hversion : version c = version b) (hholder : holder c = holder b) :
    Neighbours key version holder writes a c where
  first := ha
  second := hc
  same := hab.same.trans hkey.symm
  less := hversion ▸ hab.less
  between := by
    intro d hd hdk
    rw [hversion]
    exact hab.between d (List.mem_cons_of_mem _ hd) (hdk.trans hkey)
  differ := by
    rw [hholder]
    exact hab.differ

variable [DecidableEq κ] [DecidableEq β]

instance (writes : List α) (a b : α) [DecidableEq α] :
    Decidable (Neighbours key version holder writes a b) :=
  decidable_of_iff
    (a ∈ writes ∧ b ∈ writes ∧ key a = key b ∧ version a < version b
      ∧ (∀ c ∈ writes, key c = key b → ¬ (version a < version c ∧ version c < version b))
      ∧ holder a ≠ holder b)
    ⟨fun h => ⟨h.1, h.2.1, h.2.2.1, h.2.2.2.1, h.2.2.2.2.1, h.2.2.2.2.2⟩,
      fun h => ⟨h.first, h.second, h.same, h.less, h.between, h.differ⟩⟩

/-- The pairs of neighbouring versions with different holders. -/
def neighbourLabels [DecidableEq α] (writes : List α) : Finset (κ × Nat × Nat) :=
  (((writes.product writes).filter fun pair =>
    decide (Neighbours key version holder writes pair.1 pair.2)).map (label key version)).toFinset

/-- The handoff a write makes, from the write its register kept. -/
def handoff (earlier : List α) (a : α) : Option (α × α) :=
  ((latest key earlier (key a)).filter fun previous =>
    decide (holder previous ≠ holder a ∧ version previous < version a)).map fun previous =>
      (previous, a)

/-- The handoffs the registers counted, latest first. -/
def handoffs : List α → List (α × α)
  | [] => []
  | a :: earlier => (handoff key version holder earlier a).toList ++ handoffs earlier

variable {key version holder}

theorem handoff_eq_some {earlier : List α} {a : α} {pair : α × α} :
    handoff key version holder earlier a = some pair ↔
      latest key earlier (key a) = some pair.1 ∧ pair.2 = a
        ∧ holder pair.1 ≠ holder a ∧ version pair.1 < version a := by
  obtain ⟨previous, b⟩ := pair
  unfold handoff
  cases hlatest : latest key earlier (key a) with
  | none => simp
  | some kept =>
      simp only [Option.map_eq_some_iff, Option.filter_eq_some_iff, Option.some.injEq,
        decide_eq_true_eq, Prod.mk.injEq]
      constructor
      · rintro ⟨c, ⟨rfl, hdiffer, hless⟩, rfl, rfl⟩
        exact ⟨rfl, rfl, hdiffer, hless⟩
      · rintro ⟨rfl, rfl, hdiffer, hless⟩
        exact ⟨kept, ⟨rfl, hdiffer, hless⟩, rfl, rfl⟩

/-- **In order, the handoffs counted are neighbours.** -/
theorem neighbours_of_handoffs {writes : List α} (h : InOrder key version writes) :
    ∀ pair ∈ handoffs key version holder writes,
      Neighbours key version holder writes pair.1 pair.2 := by
  induction writes with
  | nil =>
      intro pair hpair
      cases hpair
  | cons w writes ih =>
      obtain ⟨hhead, htail⟩ := List.pairwise_cons.mp h
      intro pair hpair
      rcases List.mem_append.mp hpair with hnew | hold
      · rw [Option.mem_toList] at hnew
        obtain ⟨hlatest, rfl, hdiffer, hless⟩ := handoff_eq_some.mp hnew
        obtain ⟨hmem, hkey⟩ := latest_mem hlatest
        have hgreatest := (current_of_inOrder htail _ _ hlatest).2
        refine ⟨List.mem_cons_of_mem _ hmem, List.mem_cons_self, hkey, hless, ?_, hdiffer⟩
        intro c hc hck hbetween
        rcases List.mem_cons.mp hc with rfl | hc
        · omega
        · have hle := hgreatest c hc (hck.trans hkey.symm)
          omega
      · have hpair := ih htail pair hold
        refine hpair.cons ?_
        intro hkey hbetween
        have hle := hhead pair.2 hpair.second hkey
        omega

/-- In order, a new version is handed over from its neighbour. -/
theorem handoff_of_new {w : α} {writes : List α} {a : α} (h : InOrder key version (w :: writes))
    (hone : OneHolder key version holder (w :: writes))
    (hab : Neighbours key version holder (w :: writes) a w)
    (hnew : ∀ c ∈ writes, key c = key w → version c ≠ version w) :
    ∃ previous, handoff key version holder writes w = some (previous, w)
      ∧ version previous = version a := by
  obtain ⟨hhead, htail⟩ := List.pairwise_cons.mp h
  have hfirst : a ∈ writes := hab.first_earlier h
  cases hlatest : latest key writes (key w) with
  | none => exact absurd hab.same (latest_none hlatest a hfirst)
  | some previous =>
      obtain ⟨hmem, hkey⟩ := latest_mem hlatest
      have hle := (current_of_inOrder htail _ _ hlatest).2 a hfirst (hab.same.trans hkey.symm)
      have hle' := hhead previous hmem hkey.symm
      have hne := hnew previous hmem hkey
      have hversion : version previous = version a := by
        have hgap := hab.between previous (List.mem_cons_of_mem _ hmem) hkey
        omega
      have hholder : holder previous = holder a :=
        hone previous (List.mem_cons_of_mem _ hmem) a hab.first (hkey.trans hab.same.symm) hversion
      refine ⟨previous, handoff_eq_some.mpr ⟨hlatest, rfl, ?_, ?_⟩, hversion⟩
      · rw [hholder]
        exact hab.differ
      · rw [hversion]
        exact hab.less

/-- **In order, every pair of neighbours is counted.** -/
theorem label_mem_of_neighbours {writes : List α} (h : InOrder key version writes)
    (hone : OneHolder key version holder writes) {a b : α}
    (hab : Neighbours key version holder writes a b) :
    label key version (a, b) ∈ (handoffs key version holder writes).map (label key version) := by
  induction writes generalizing a b with
  | nil => exact absurd hab.first List.not_mem_nil
  | cons w writes ih =>
      have htail := (List.pairwise_cons.mp h).2
      have honeTail : OneHolder key version holder writes := fun c hc d hd =>
        hone c (List.mem_cons_of_mem _ hc) d (List.mem_cons_of_mem _ hd)
      rw [handoffs, List.map_append, List.mem_append]
      by_cases hold : ∃ c ∈ writes, key c = key b ∧ version c = version b
      · -- the greater version was written before as well
        obtain ⟨c, hc, hkey, hversion⟩ := hold
        have hholder : holder c = holder b :=
          hone c (List.mem_cons_of_mem _ hc) b hab.second hkey hversion
        have hmem := ih htail honeTail
          (hab.earlier (hab.first_earlier h) hc hkey hversion hholder)
        have hlabel : label key version (a, c) = label key version (a, b) := by
          simp [label, hkey, hversion]
        exact .inr (hlabel ▸ hmem)
      · -- `w` brings the greater version
        have hwb : w = b := by
          rcases List.mem_cons.mp hab.second with rfl | hb
          · rfl
          · exact absurd ⟨b, hb, rfl, rfl⟩ hold
        subst hwb
        obtain ⟨previous, hcounted, hversion⟩ := handoff_of_new h hone hab
          fun c hc hkey hv => hold ⟨c, hc, hkey, hv⟩
        left
        rw [hcounted]
        simp [label, hversion]

/-- **In order, no handoff is counted twice.** -/
theorem nodup_handoffs {writes : List α} (h : InOrder key version writes) :
    ((handoffs key version holder writes).map (label key version)).Nodup := by
  induction writes with
  | nil => exact List.nodup_nil
  | cons w writes ih =>
      obtain ⟨hhead, htail⟩ := List.pairwise_cons.mp h
      rw [handoffs, List.map_append, List.nodup_append]
      refine ⟨?_, ih htail, ?_⟩
      · cases handoff key version holder writes w <;> simp
      · intro x hx y hy hxy
        obtain ⟨pair, hpair, rfl⟩ := List.mem_map.mp hx
        obtain ⟨pair', hpair', rfl⟩ := List.mem_map.mp hy
        rw [Option.mem_toList] at hpair
        obtain ⟨hlatest, hw, _, hless⟩ := handoff_eq_some.mp hpair
        have hnew := neighbours_of_handoffs htail pair' hpair'
        simp only [label, hw, Prod.mk.injEq] at hxy
        -- the version of `w` was reached before `w`, so the register kept it
        have hkept := (current_of_inOrder htail _ _ hlatest).2 pair'.2 hnew.second
          (hxy.1.symm.trans (latest_mem hlatest).2.symm)
        omega

theorem mem_neighbourLabels [DecidableEq α] {writes : List α} {x : κ × Nat × Nat} :
    x ∈ neighbourLabels key version holder writes ↔
      ∃ a b, Neighbours key version holder writes a b ∧ label key version (a, b) = x := by
  simp only [neighbourLabels, List.mem_toFinset, List.mem_map, List.mem_filter,
    List.pair_mem_product,
    decide_eq_true_eq, Prod.exists]
  constructor
  · rintro ⟨a, b, ⟨_, hab⟩, hx⟩
    exact ⟨a, b, hab, hx⟩
  · rintro ⟨a, b, hab, hx⟩
    exact ⟨a, b, ⟨⟨hab.first, hab.second⟩, hab⟩, hx⟩

/-- **In order, the handoffs are counted.** -/
theorem length_handoffs [DecidableEq α] {writes : List α} (h : InOrder key version writes)
    (hone : OneHolder key version holder writes) :
    (handoffs key version holder writes).length
      = (neighbourLabels key version holder writes).card := by
  have hsame : ((handoffs key version holder writes).map (label key version)).toFinset
      = neighbourLabels key version holder writes := by
    ext x
    rw [List.mem_toFinset, mem_neighbourLabels]
    constructor
    · intro hx
      obtain ⟨pair, hpair, rfl⟩ := List.mem_map.mp hx
      exact ⟨pair.1, pair.2, neighbours_of_handoffs h pair hpair, rfl⟩
    · rintro ⟨a, b, hab, rfl⟩
      exact label_mem_of_neighbours h hone hab
  rw [← hsame, List.toFinset_card_of_nodup (nodup_handoffs h), List.length_map]

/-- **In order, every neighbour is handed to once.** -/
theorem countP_handoffs {writes : List α} (h : InOrder key version writes)
    (hone : OneHolder key version holder writes) {a b : α}
    (hab : Neighbours key version holder writes a b) :
    (handoffs key version holder writes).countP
      (fun pair => key pair.2 = key b ∧ version pair.2 = version b) = 1 := by
  have hcount := List.count_eq_one_of_mem (nodup_handoffs h) (label_mem_of_neighbours h hone hab)
  rw [List.count, List.countP_map] at hcount
  rw [← hcount]
  refine List.countP_congr ?_
  intro pair hpair
  have hpair := neighbours_of_handoffs h pair hpair
  simp only [decide_eq_true_eq, Function.comp_apply, beq_iff_eq, label, Prod.mk.injEq]
  constructor
  · intro hb
    exact ⟨hb.1, hab.first_eq hpair hb.1 hb.2, hb.2⟩
  · intro hb
    exact ⟨hb.1, hb.2.2⟩

end Handoffs

end Versions

end DurableTrivia.Lib

import Mathlib

/-!
# Filling — items placed in order into as few lines as will do

A sequence of items is broken into lines, in order, where `fits` says
which runs of items go on one line. `fill` puts each item on the line
being filled while it fits and opens a new line otherwise. When part of a
line that fits fits too, no other way to break the items takes fewer
lines (`fill_shortest`), so a bounded number of lines holds all items
exactly when there is any way to lay them out in that many
(`length_fill_le_iff`).
-/

namespace DurableTrivia.Lib

namespace Filling

variable {Item : Type*} (fits : List Item → Bool)

/-- Fill lines with `items`, where `line` is the line being filled. -/
def fill (line : List Item) : List Item → List (List Item)
  | [] => if line.isEmpty then [] else [line]
  | item :: rest =>
    if line.isEmpty || fits (line ++ [item]) then fill (line ++ [item]) rest
    else line :: fill [item] rest

/-- A way to break `items` into lines that fit. -/
structure Layout (items : List Item) where
  lines : List (List Item)
  inOrder : lines.flatten = items
  allFit : ∀ line ∈ lines, fits line = true

/-- `items` can be laid out in `count` lines. -/
def HasRoom (count : Nat) (items : List Item) : Prop :=
  ∃ layout : Layout fits items, layout.lines.length ≤ count

/-- Part of a line that fits fits. -/
def Hereditary : Prop :=
  ∀ before line after, fits (before ++ line ++ after) = true → fits line = true

/-! ## What `fill` makes of the items -/

theorem flatten_fill (line items : List Item) : (fill fits line items).flatten = line ++ items := by
  induction items generalizing line with
  | nil =>
      rw [fill]
      split
      · rename_i hempty
        simp [List.isEmpty_iff.mp hempty]
      · simp
  | cons item rest ih =>
      rw [fill]
      split
      · rw [ih]
        simp
      · rw [List.flatten_cons, ih]
        simp

/-- The lines hold the items they are filled with. -/
theorem mem_of_mem_fill {items line : List Item} (hline : line ∈ fill fits [] items) :
    ∀ item ∈ line, item ∈ items := by
  intro item hitem
  have hall := flatten_fill fits [] items
  rw [List.nil_append] at hall
  rw [← hall]
  exact List.mem_flatten.mpr ⟨line, hline, hitem⟩

theorem fill_ne_nil {line items : List Item} : ∀ l ∈ fill fits line items, l ≠ [] := by
  induction items generalizing line with
  | nil =>
      intro l hl
      rw [fill] at hl
      split at hl
      · cases hl
      · rename_i hempty
        rw [List.mem_singleton.mp hl]
        simpa using hempty
  | cons item rest ih =>
      intro l hl
      rw [fill] at hl
      split at hl
      · exact ih l hl
      · rename_i hfull
        rcases List.mem_cons.mp hl with rfl | hl
        · intro hnil
          exact hfull (by simp [hnil])
        · exact ih l hl

theorem fill_fits {line items : List Item} (hline : line = [] ∨ fits line = true)
    (hitems : ∀ item ∈ items, fits [item] = true) :
    ∀ l ∈ fill fits line items, fits l = true := by
  induction items generalizing line with
  | nil =>
      intro l hl
      rw [fill] at hl
      split at hl
      · cases hl
      · rename_i hempty
        rw [List.mem_singleton.mp hl]
        exact hline.resolve_left (by simpa using hempty)
  | cons item rest ih =>
      have hitem : fits [item] = true := hitems item (by simp)
      have hrest : ∀ other ∈ rest, fits [other] = true := fun other hother =>
        hitems other (List.mem_cons_of_mem _ hother)
      intro l hl
      rw [fill] at hl
      split at hl
      · rename_i hjoins
        refine ih (Or.inr ?_) hrest l hl
        rcases Bool.or_eq_true_iff.mp hjoins with hempty | hfits
        · rw [List.isEmpty_iff.mp hempty]
          exact hitem
        · exact hfits
      · rename_i hfull
        rcases List.mem_cons.mp hl with rfl | hl
        · exact hline.resolve_left fun hnil => hfull (by simp [hnil])
        · exact ih (Or.inr hitem) hrest l hl

/-- A line an item cannot join is closed, and the item opens the next one. -/
theorem fill_refused {line : List Item} {item : Item} (hline : line ≠ [])
    (hfull : fits (line ++ [item]) = false) (rest : List Item) :
    fill fits line (item :: rest) = line :: fill fits [] (item :: rest) := by
  simp [fill, hline, hfull]

/-- A line that nothing can join is closed at once. -/
theorem fill_full {line : List Item} (hline : line ≠ [])
    (hfull : ∀ item, fits (line ++ [item]) = false) (items : List Item) :
    fill fits line items = line :: fill fits [] items := by
  cases items with
  | nil => simp [fill, hline]
  | cons item rest => exact fill_refused fits hline (hfull item) rest

/-! ## No layout is shorter -/

variable {fits}

/-- **Greedy stays ahead**: whatever a layout still has to place, when
`fill` has reached `line` and `items`, takes at least as many lines. The
layout may be further behind (`earlier`), never further ahead. -/
theorem fill_behind (hered : Hereditary fits) {earlier line items : List Item}
    {lines : List (List Item)} (horder : lines.flatten = earlier ++ line ++ items)
    (hfit : ∀ l ∈ lines, fits l = true) : (fill fits line items).length ≤ lines.length := by
  induction items generalizing earlier line lines with
  | nil =>
      rw [fill]
      split
      · simp
      · rename_i hempty
        cases lines with
        | nil => simp_all
        | cons first rest => simp
  | cons item rest ih =>
      rw [fill]
      split
      · have hlater : lines.flatten = earlier ++ (line ++ [item]) ++ rest := by
          rw [horder]
          simp
        exact ih hlater hfit
      · rename_i hfull
        -- the first line of the layout stops before `item`, or `line ++ [item]` would fit
        cases lines with
        | nil => simp at horder
        | cons first others =>
            have hsplit : first ++ others.flatten = (earlier ++ line) ++ item :: rest := horder
            rcases List.append_eq_append_iff.mp hsplit with ⟨skipped, hskipped, hothers⟩ |
              ⟨taken, htaken, hothers⟩
            · have hbehind : (fill fits [item] rest).length ≤ others.length := by
                have hlater : others.flatten = skipped ++ [item] ++ rest := by
                  rw [hothers]
                  simp
                exact ih hlater fun l hl => hfit l (List.mem_cons_of_mem _ hl)
              simpa using hbehind
            · cases taken with
              | nil =>
                  have hbehind : (fill fits [item] rest).length ≤ others.length := by
                    have hlater : others.flatten = [] ++ [item] ++ rest := by
                      simpa using hothers.symm
                    exact ih hlater fun l hl => hfit l (List.mem_cons_of_mem _ hl)
                  simpa using hbehind
              | cons next more =>
                  exfalso
                  have hnext : next = item := by
                    simpa using (List.cons.inj hothers).1.symm
                  refine hfull ?_
                  have hjoined : fits (line ++ [item]) = true := by
                    refine hered earlier _ more ?_
                    have hfirst : fits first = true := hfit first (by simp)
                    rw [htaken, hnext] at hfirst
                    simpa using hfirst
                  simp [hjoined]

/-- **No layout is shorter** than the lines `fill` makes. -/
theorem fill_shortest (hered : Hereditary fits) {items : List Item} (layout : Layout fits items) :
    (fill fits [] items).length ≤ layout.lines.length := by
  have horder : layout.lines.flatten = [] ++ [] ++ items := by simpa using layout.inOrder
  exact fill_behind hered horder layout.allFit

/-- **A number of lines is enough for `fill` exactly when it is enough.** -/
theorem length_fill_le_iff (hered : Hereditary fits) {items : List Item}
    (hitems : ∀ item ∈ items, fits [item] = true) {count : Nat} :
    (fill fits [] items).length ≤ count ↔ HasRoom fits count items := by
  constructor
  · intro hcount
    exact ⟨⟨fill fits [] items, flatten_fill fits [] items, fill_fits fits (Or.inl rfl) hitems⟩,
      hcount⟩
  · intro hroom
    obtain ⟨layout, hcount⟩ := hroom
    exact (fill_shortest hered layout).trans hcount

/-- What the first lines hold is all of the items only when no line is left out. -/
theorem take_fill_eq_iff {items : List Item} {count : Nat} :
    ((fill fits [] items).take count).flatten = items ↔ (fill fits [] items).length ≤ count := by
  constructor
  · intro hall
    have hparts : ((fill fits [] items).take count).flatten
        ++ ((fill fits [] items).drop count).flatten = items := by
      rw [← List.flatten_append, List.take_append_drop]
      exact flatten_fill fits [] items
    have hrest : ((fill fits [] items).drop count).flatten = [] := by
      rw [hall] at hparts
      simpa using hparts
    have hdrop : (fill fits [] items).drop count = [] := by
      rw [List.eq_nil_iff_forall_not_mem]
      intro l hl
      have hempty : l = [] := List.flatten_eq_nil_iff.mp hrest l hl
      exact fill_ne_nil fits l (List.mem_of_mem_drop hl) hempty
    simpa using hdrop
  · intro hcount
    rw [List.take_of_length_le hcount]
    exact flatten_fill fits [] items

/-! ## What a bounded number of lines holds -/

/-- The longest beginning of `items` that `count` lines hold. -/
structure LongestFit (fits : List Item → Bool) (count : Nat) (items shown : List Item) : Prop where
  beginning : shown <+: items
  room : HasRoom fits count shown
  longest : ∀ more, more <+: items → HasRoom fits count more → more.length ≤ shown.length

theorem LongestFit.eq {count : Nat} {items shown shown' : List Item}
    (h : LongestFit fits count items shown) (h' : LongestFit fits count items shown') :
    shown = shown' := by
  have hle := h.longest shown' h'.beginning h'.room
  have hge := h'.longest shown h.beginning h.room
  exact (List.prefix_of_prefix_length_le h.beginning h'.beginning hge).eq_of_length_le hle

variable (fits) in
theorem fill_head {line : List Item} (hline : line ≠ []) (items : List Item) :
    ∃ more later, fill fits line items = (line ++ more) :: later := by
  induction items generalizing line with
  | nil => exact ⟨[], [], by simp [fill, hline]⟩
  | cons item rest ih =>
      rw [fill]
      split
      · obtain ⟨more, later, heq⟩ := @ih (line ++ [item]) (by simp)
        exact ⟨item :: more, later, by rw [heq]; simp⟩
      · exact ⟨[], fill fits [item] rest, by simp⟩

variable (fits) in
/-- Filling some items is the beginning of filling more: only the last
line may go on. -/
theorem fill_beginning (line : List Item) {before : List Item} (hsome : line ≠ [] ∨ before ≠ [])
    (rest : List Item) :
    ∃ done last more later, fill fits line before = done ++ [last]
      ∧ fill fits line (before ++ rest) = done ++ (last ++ more) :: later := by
  induction before generalizing line with
  | nil =>
      have hline : line ≠ [] := hsome.resolve_right fun h => h rfl
      obtain ⟨more, later, heq⟩ := fill_head fits hline rest
      exact ⟨[], line, more, later, by simp [fill, hline], heq⟩
  | cons item before ih =>
      -- both fillings take the same turn at `item`
      rw [List.cons_append, fill, fill]
      split
      · exact ih (line ++ [item]) (Or.inl (by simp))
      · obtain ⟨done, last, more, later, hbefore, hall⟩ := ih [item] (Or.inl (by simp))
        exact ⟨line :: done, last, more, later, by rw [hbefore]; rfl, by rw [hall]; rfl⟩

theorem take_through {done later : List (List Item)} {count : Nat} (h : done.length < count)
    (line : List Item) :
    (done ++ line :: later).take count = done ++ line :: later.take (count - done.length - 1) := by
  rw [List.take_append, List.take_of_length_le (by omega), List.take_cons (by omega)]

section Longest
variable (hered : Hereditary fits) {items : List Item}
  (hitems : ∀ item ∈ items, fits [item] = true) {count : Nat}
include hered hitems

/-- **The first lines hold as much as any layout does.** -/
theorem longestFit_take_fill :
    LongestFit fits count items ((fill fits [] items).take count).flatten where
  beginning := by
    have hall := flatten_fill fits [] items
    rw [← List.take_append_drop count (fill fits [] items), List.flatten_append,
      List.nil_append] at hall
    exact ⟨_, hall⟩
  room := ⟨⟨_, rfl, fun line hline =>
    fill_fits fits (Or.inl rfl) hitems line (List.mem_of_mem_take hline)⟩, List.length_take_le ..⟩
  longest := by
    rintro before ⟨rest, rfl⟩ hroom
    have hbefore : ∀ item ∈ before, fits [item] = true := fun item hitem =>
      hitems item (List.mem_append_left _ hitem)
    have hcount := (length_fill_le_iff hered hbefore).mpr hroom
    by_cases hnil : before = []
    · simp [hnil]
    · obtain ⟨done, last, more, later, hfill, hall⟩ :=
        fill_beginning fits [] (Or.inr hnil) rest
      have hflat := flatten_fill fits [] before
      rw [hfill] at hcount hflat
      rw [List.length_append, List.length_singleton] at hcount
      rw [hall, take_through (by omega), ← List.nil_append before, ← hflat]
      simp

/-- Filling what the first lines hold gives these lines again. -/
theorem fill_take_fill :
    fill fits [] ((fill fits [] items).take count).flatten = (fill fits [] items).take count := by
  have hfit : LongestFit fits count items ((fill fits [] items).take count).flatten :=
    longestFit_take_fill hered hitems
  have hnonempty : ∀ line ∈ (fill fits [] items).take count, line ≠ [] := fun line hline =>
    fill_ne_nil fits line (List.mem_of_mem_take hline)
  obtain ⟨rest, hrest⟩ := hfit.beginning
  have hroom := hfit.room
  generalize hshown : ((fill fits [] items).take count).flatten = shown at hroom hrest ⊢
  by_cases hnil : shown = []
  · rw [hnil, List.flatten_eq_nil_iff] at hshown
    have hlines : (fill fits [] items).take count = [] :=
      List.eq_nil_iff_forall_not_mem.mpr fun line hline =>
        hnonempty line hline (hshown line hline)
    rw [hnil, hlines]
    rfl
  · have hitems' : ∀ item ∈ shown, fits [item] = true := fun item hitem =>
      hitems item (by rw [← hrest]; exact List.mem_append_left _ hitem)
    have hcount := (length_fill_le_iff hered hitems').mpr hroom
    obtain ⟨done, last, more, later, hfill, hall⟩ :=
      fill_beginning fits [] (Or.inr hnil) rest
    have hflat := flatten_fill fits [] shown
    rw [hfill] at hcount hflat
    rw [List.length_append, List.length_singleton] at hcount
    rw [hrest] at hall
    have htake : (fill fits [] items).take count
        = done ++ (last ++ more) :: later.take (count - done.length - 1) := by
      rw [hall, take_through (by omega)]
    -- nothing is shown behind the last line of `shown`
    rw [htake, ← List.nil_append shown, ← hflat] at hshown
    have hmore : more = [] ∧ (later.take (count - done.length - 1)).flatten = [] := by
      simpa using hshown
    have hlater : later.take (count - done.length - 1) = [] :=
      List.eq_nil_iff_forall_not_mem.mpr fun line hline =>
        hnonempty line (by rw [htake]; simp [hline]) (List.flatten_eq_nil_iff.mp hmore.2 line hline)
    rw [hfill, htake, hmore.1, hlater, List.append_nil]

end Longest

/-! ## Items seen through a map -/

theorem fill_map {Item' : Type*} {fits' : List Item' → Bool} (f : Item → Item')
    (hfits : ∀ line, fits' (line.map f) = fits line) (line items : List Item) :
    fill fits' (line.map f) (items.map f) = (fill fits line items).map (List.map f) := by
  induction items generalizing line with
  | nil => by_cases hline : line = [] <;> simp [fill, hline]
  | cons item rest ih =>
      have hjoin : fits' (line.map f ++ [f item]) = fits (line ++ [item]) := by
        rw [← hfits, List.map_append]
        rfl
      rw [List.map_cons, fill, fill, hjoin, List.isEmpty_map]
      split
      · rw [← ih, List.map_append]
        rfl
      · rw [List.map_cons, ← ih]
        rfl

end Filling

end DurableTrivia.Lib

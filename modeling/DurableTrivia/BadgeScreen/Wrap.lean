import DurableTrivia.Lib.Filling

/-!
# Wrap — a text broken into the lines of a badge panel

`wrap` (`badge-screen/src/lib.rs`) takes the words of a text in order,
cuts a word that is longer than a line, and stops when the panel has all
the lines it can hold. Against `Lib.Filling` its lines are the first
`maxLines` lines of the greedy filling with the text's `pieces`
(`wrapChars_eq_fill`), so it shows every character exactly when the
pieces can be laid out in that many lines at all (`shownInFull_iff`).
-/

namespace DurableTrivia.BadgeScreen

open Lib Lib.Filling

/-! ## The source's function -/

/-- Rust's `char::is_whitespace`: the Unicode property `White_Space`. -/
def isWhitespace (c : Char) : Bool :=
  let n := c.toNat
  (0x9 ≤ n && n ≤ 0xD) || n == 0x20 || n == 0x85 || n == 0xA0 || n == 0x1680
    || (0x2000 ≤ n && n ≤ 0x200A) || n == 0x2028 || n == 0x2029 || n == 0x202F || n == 0x205F
    || n == 0x3000

/-- Rust's `str::split_whitespace`. -/
def splitWhitespace (text : List Char) : List (List Char) :=
  (text.splitOnP isWhitespace).filter fun word => !word.isEmpty

/-- The lines finished and the line being filled, between two words. -/
structure Wrapping where
  lines : List (List Char)
  current : List Char
  deriving DecidableEq, Repr

/-- The loop over one word. An error is the early `return lines`. -/
def placeWord (maxChars maxLines : Nat) [NeZero maxChars] (lines : List (List Char))
    (current remaining : List Char) : Except (List (List Char)) Wrapping :=
  let needed := current.length + (if current.isEmpty then 0 else 1) + remaining.length
  if maxChars < needed ∧ current ≠ [] then
    let lines := lines ++ [current]
    if lines.length = maxLines then .error lines
    else placeWord maxChars maxLines lines [] remaining
  else if maxChars < remaining.length then
    let lines := lines ++ [remaining.take maxChars]
    if lines.length = maxLines then .error lines
    else placeWord maxChars maxLines lines current (remaining.drop maxChars)
  else .ok ⟨lines, (if current.isEmpty then [] else current ++ [' ']) ++ remaining⟩
termination_by current.length + remaining.length
decreasing_by
  · rename_i hfull _
    have := List.length_pos_of_ne_nil hfull.2
    simp only [List.length_nil]
    omega
  · have := NeZero.pos maxChars
    simp only [List.length_drop]
    omega

/-- The loop over the words, and the line it leaves unfinished. -/
def wrapChars (text : List Char) (maxChars maxLines : Nat) [NeZero maxChars] : List (List Char) :=
  match (splitWhitespace text).foldlM
      (fun state word => placeWord maxChars maxLines state.lines state.current word)
      (⟨[], []⟩ : Wrapping) with
  | .error lines => lines
  | .ok state =>
    if state.current ≠ [] ∧ state.lines.length < maxLines then state.lines ++ [state.current]
    else state.lines

/-- `wrap`. A width of no characters is never asked for. -/
def wrap (text : String) (maxChars maxLines : Nat) [NeZero maxChars] : List String :=
  (wrapChars text.toList maxChars maxLines).map String.ofList

/-! ## The text and its pieces -/

/-- The characters of a text that are not whitespace. -/
def visible (text : List Char) : List Char := text.filter fun c => !isWhitespace c

/-- A word in runs of `maxChars`, the last one shorter. -/
def cut (maxChars : Nat) [NeZero maxChars] (word : List Char) : List (List Char) :=
  if maxChars < word.length then
    word.take maxChars :: cut maxChars (word.drop maxChars)
  else [word]
termination_by word.length
decreasing_by
  have := NeZero.pos maxChars
  simp only [List.length_drop]
  omega

/-- What a line can be broken after: the words, with the long ones cut. -/
def pieces (maxChars : Nat) [NeZero maxChars] (text : List Char) : List (List Char) :=
  (splitWhitespace text).flatMap (cut maxChars)

/-- Pieces on one line, a space between neighbours. -/
def joined (line : List (List Char)) : List Char := [' '].intercalate line

/-- The words, joined by spaces, are no longer than a line. -/
def fitsLine (maxChars : Nat) (line : List (List Char)) : Bool :=
  decide ((joined line).length ≤ maxChars)

/-- The lines contain every non-whitespace character of the text, in order. -/
def ShownInFull (lines : List String) (text : String) : Prop :=
  (visible text.toList).Sublist (lines.flatMap String.toList)

/-- The text can be laid out in `maxLines` lines of `maxChars`: its pieces
in order, a space between neighbours on a line. -/
def HasSpace (text : String) (maxChars maxLines : Nat) [NeZero maxChars] : Prop :=
  HasRoom (fitsLine maxChars) maxLines (pieces maxChars text.toList)

@[simp] theorem visible_nil : visible [] = [] := rfl

@[simp] theorem visible_append (a b : List Char) : visible (a ++ b) = visible a ++ visible b :=
  List.filter_append ..

theorem splitOnP_flatten (text : List Char) :
    (text.splitOnP isWhitespace).flatten = visible text := by
  induction text with
  | nil => rfl
  | cons c text ih =>
      rw [List.splitOnP_cons_eq_if_modifyHead]
      by_cases hspace : isWhitespace c
      · simp [hspace, visible, ih]
      · have hne : text.splitOnP isWhitespace ≠ [] := List.splitOnP_ne_nil _ _
        cases hwords : text.splitOnP isWhitespace with
        | nil => exact absurd hwords hne
        | cons word words =>
            rw [hwords] at ih
            simpa [hspace, visible] using ih

theorem splitWhitespace_flatten (text : List Char) :
    (splitWhitespace text).flatten = visible text := by
  rw [← splitOnP_flatten, splitWhitespace]
  induction text.splitOnP isWhitespace with
  | nil => rfl
  | cons word words ih =>
      cases word with
      | nil => simpa using ih
      | cons c word => simp [ih]

theorem splitWhitespace_ne_nil {text word : List Char} (h : word ∈ splitWhitespace text) :
    word ≠ [] := by
  simpa using (List.mem_filter.mp h).2

section Cut
variable {maxChars : Nat} [NeZero maxChars]

theorem cut_flatten (word : List Char) : (cut maxChars word).flatten = word := by
  induction word using cut.induct maxChars with
  | case1 word hlong ih =>
      rw [cut, if_pos hlong, List.flatten_cons, ih, List.take_append_drop]
  | case2 word hshort =>
      rw [cut, if_neg hshort]
      simp

theorem cut_ne_nil {word : List Char} (hword : word ≠ []) :
    ∀ piece ∈ cut maxChars word, piece ≠ [] := by
  induction word using cut.induct maxChars with
  | case1 word hlong ih =>
      intro piece hpiece
      rw [cut, if_pos hlong] at hpiece
      rcases List.mem_cons.mp hpiece with rfl | hpiece
      · have := NeZero.ne maxChars
        simp [this, hword]
      · refine ih ?_ piece hpiece
        simpa using hlong
  | case2 word hshort =>
      intro piece hpiece
      rw [cut, if_neg hshort] at hpiece
      rw [List.mem_singleton.mp hpiece]
      exact hword

theorem length_of_mem_cut {word : List Char} :
    ∀ piece ∈ cut maxChars word, piece.length ≤ maxChars := by
  induction word using cut.induct maxChars with
  | case1 word hlong ih =>
      intro piece hpiece
      rw [cut, if_pos hlong] at hpiece
      rcases List.mem_cons.mp hpiece with rfl | hpiece
      · exact List.length_take_le ..
      · exact ih piece hpiece
  | case2 word hshort =>
      intro piece hpiece
      rw [cut, if_neg hshort] at hpiece
      rw [List.mem_singleton.mp hpiece]
      omega

/-- The first piece of a word is as much of it as a line holds. -/
theorem cut_head (word : List Char) :
    ∃ others, cut maxChars word = word.take maxChars :: others := by
  by_cases hlong : maxChars < word.length
  · exact ⟨_, by rw [cut, if_pos hlong]⟩
  · refine ⟨[], ?_⟩
    rw [cut, if_neg hlong, List.take_of_length_le (by omega)]

variable {text : List Char}

theorem pieces_flatten : (pieces maxChars text).flatten = visible text := by
  rw [← splitWhitespace_flatten, pieces]
  induction splitWhitespace text with
  | nil => rfl
  | cons word words ih => simp [ih, cut_flatten]

/-- A piece holds characters of the text, and no whitespace. -/
theorem visible_of_mem_pieces {piece : List Char} (h : piece ∈ pieces maxChars text) {c : Char}
    (hc : c ∈ piece) : c ∈ visible text := by
  have hall : (pieces maxChars text).flatten = visible text := pieces_flatten
  rw [← hall]
  exact List.mem_flatten.mpr ⟨piece, h, hc⟩

theorem pieces_ne_nil : ∀ piece ∈ pieces maxChars text, piece ≠ [] := by
  intro piece hpiece
  obtain ⟨word, hword, hpiece⟩ := List.mem_flatMap.mp hpiece
  exact cut_ne_nil (splitWhitespace_ne_nil hword) piece hpiece

theorem pieces_fit : ∀ piece ∈ pieces maxChars text, fitsLine maxChars [piece] = true := by
  intro piece hpiece
  obtain ⟨word, hword, hpiece⟩ := List.mem_flatMap.mp hpiece
  have hlength := length_of_mem_cut piece hpiece
  simpa [fitsLine, joined] using hlength

end Cut

/-! ## Lines -/

@[simp] theorem joined_nil : joined [] = [] := rfl

@[simp] theorem joined_singleton (piece : List Char) : joined [piece] = piece :=
  List.intercalate_singleton

theorem joined_append {a b : List (List Char)} (ha : a ≠ []) (hb : b ≠ []) :
    joined (a ++ b) = joined a ++ ' ' :: joined b := by
  induction a with
  | nil => exact absurd rfl ha
  | cons piece rest ih =>
      unfold joined at ih ⊢
      cases rest with
      | nil => simp [List.intercalate_cons_of_ne_nil hb]
      | cons next more =>
          have hrest := ih (by simp)
          rw [List.cons_append, List.intercalate_cons_of_ne_nil (by simp), hrest]
          simp

theorem length_joined_append (a b : List (List Char)) :
    (joined a).length ≤ (joined (a ++ b)).length
      ∧ (joined b).length ≤ (joined (a ++ b)).length := by
  by_cases ha : a = []
  · simp [ha]
  · by_cases hb : b = []
    · simp [hb]
    · rw [joined_append ha hb]
      simp only [List.length_append, List.length_cons]
      omega

theorem hereditary_fitsLine (maxChars : Nat) : Hereditary (fitsLine maxChars) := by
  intro before line after hfits
  have hwhole : (joined (before ++ line ++ after)).length ≤ maxChars := by
    simpa [fitsLine] using hfits
  have hleft := (length_joined_append (before ++ line) after).1
  have hright := (length_joined_append before line).2
  simp only [fitsLine, decide_eq_true_eq]
  omega

theorem visible_joined (line : List (List Char)) :
    visible (joined line) = visible line.flatten := by
  induction line with
  | nil => rfl
  | cons piece rest ih =>
      cases rest with
      | nil => simp
      | cons next more =>
          rw [show piece :: next :: more = [piece] ++ (next :: more) from rfl,
            joined_append (by simp) (by simp), List.flatten_append, visible_append, visible_append,
            ← ih]
          simp [visible, show isWhitespace ' ' = true from rfl]

theorem joined_eq_nil {line : List (List Char)} (hpieces : ∀ piece ∈ line, piece ≠ []) :
    joined line = [] ↔ line = [] := by
  constructor
  · intro hnil
    cases line with
    | nil => rfl
    | cons piece rest =>
        exfalso
        have hlength := (length_joined_append [piece] rest).1
        rw [List.singleton_append, hnil, joined_singleton] at hlength
        exact hpieces piece (by simp) (List.length_eq_zero_iff.mp (by simpa using hlength))
  · intro h
    rw [h, joined_nil]

/-! ## `wrap` is the greedy filling -/

section Simulation
variable {maxChars maxLines : Nat}

/-- What placing `items` after `lines` and `line` comes to: on the early
return the first `maxLines` lines of the filling, whatever follows the
items, and otherwise a state from which the filling goes on. -/
def Placed (maxChars maxLines : Nat) (lines line items : List (List Char)) :
    Except (List (List Char)) Wrapping → Prop
  | .error out => ∀ rest,
      (lines ++ (fill (fitsLine maxChars) line (items ++ rest)).map joined).take maxLines = out
  | .ok state => ∃ done line',
      state.lines = lines ++ done.map joined ∧ state.current = joined line'
        ∧ (∀ piece ∈ line', piece ≠ []) ∧ state.lines.length < maxLines
        ∧ ∀ rest, fill (fitsLine maxChars) line (items ++ rest)
            = done ++ fill (fitsLine maxChars) line' rest

/-- A first line that is closed is one of the finished lines. -/
theorem Placed.of_closed {lines line line' items items' : List (List Char)}
    {result : Except (List (List Char)) Wrapping}
    (hclosed : ∀ rest, fill (fitsLine maxChars) line (items ++ rest)
      = line' :: fill (fitsLine maxChars) [] (items' ++ rest))
    (h : Placed maxChars maxLines (lines ++ [joined line']) [] items' result) :
    Placed maxChars maxLines lines line items result := by
  cases result with
  | error out =>
      intro rest
      rw [← h rest, hclosed]
      simp
  | ok state =>
      obtain ⟨done, next, hlines, hcurrent, hpieces, hroom, hfill⟩ := h
      refine ⟨line' :: done, next, ?_, hcurrent, hpieces, hroom, ?_⟩
      · simpa using hlines
      · intro rest
        rw [hclosed, hfill rest, List.cons_append]

/-- On the last line of the panel a closed line ends the text. -/
theorem Placed.of_last {lines line line' items items' : List (List Char)}
    (hclosed : ∀ rest, fill (fitsLine maxChars) line (items ++ rest)
      = line' :: fill (fitsLine maxChars) [] (items' ++ rest))
    (hlast : (lines ++ [joined line']).length = maxLines) :
    Placed maxChars maxLines lines line items (.error (lines ++ [joined line'])) := by
  intro rest
  rw [hclosed, List.map_cons, ← List.singleton_append, ← List.append_assoc, ← hlast]
  exact List.take_left ..

/-- Items placed one after the other are placed together. -/
theorem Placed.append {lines line items items' : List (List Char)} {state : Wrapping}
    {result : Except (List (List Char)) Wrapping}
    (h : Placed maxChars maxLines lines line items (.ok state))
    (hrest : ∀ next, state.current = joined next → (∀ piece ∈ next, piece ≠ []) →
      state.lines.length < maxLines → Placed maxChars maxLines state.lines next items' result) :
    Placed maxChars maxLines lines line (items ++ items') result := by
  obtain ⟨done, next, hlines, hcurrent, hpieces, hroom, hfill⟩ := h
  have hplaced := hrest next hcurrent hpieces hroom
  cases result with
  | error out =>
      intro rest
      rw [← hplaced rest, List.append_assoc, hfill, hlines]
      simp
  | ok last =>
      obtain ⟨done', line', hlines', hcurrent', hpieces', hroom', hfill'⟩ := hplaced
      refine ⟨done ++ done', line', ?_, hcurrent', hpieces', hroom', ?_⟩
      · rw [hlines', hlines]
        simp
      · intro rest
        rw [List.append_assoc, hfill, hfill', List.append_assoc]

theorem length_joined_snoc (line : List (List Char)) (piece : List Char) :
    (joined (line ++ [piece])).length
      = (joined line).length + (if line = [] then 0 else 1) + piece.length := by
  by_cases hline : line = []
  · simp [hline]
  · rw [joined_append hline (by simp), joined_singleton]
    simp only [List.length_append, List.length_cons, if_neg hline]
    omega

variable [NeZero maxChars]

/-- What the loop compares with the width. -/
def needed (current remaining : List Char) : Nat :=
  current.length + (if current.isEmpty then 0 else 1) + remaining.length

/-- A word too long for what is left of the line is not begun on it. -/
theorem closed_of_needed {line : List (List Char)} {remaining : List Char}
    (hfull : maxChars < needed (joined line) remaining ∧ joined line ≠ [])
    (rest : List (List Char)) :
    fill (fitsLine maxChars) line (cut maxChars remaining ++ rest)
      = line :: fill (fitsLine maxChars) [] (cut maxChars remaining ++ rest) := by
  obtain ⟨hneeded, hjoined⟩ := hfull
  have hline : line ≠ [] := by
    intro hline
    rw [hline] at hjoined
    exact hjoined rfl
  obtain ⟨others, hcut⟩ : ∃ others, cut maxChars remaining = remaining.take maxChars :: others :=
    cut_head remaining
  rw [hcut, List.cons_append]
  refine fill_refused _ hline ?_ _
  have hlength := length_joined_snoc line (remaining.take maxChars)
  rw [if_neg hline, List.length_take] at hlength
  simp only [needed, List.isEmpty_iff, if_neg hjoined] at hneeded
  simp only [fitsLine, decide_eq_false_iff_not]
  omega

omit [NeZero maxChars] in
/-- A word longer than the width is cut on a line of its own. -/
theorem line_nil_of_long {line : List (List Char)} {remaining : List Char}
    (hpieces : ∀ piece ∈ line, piece ≠ [])
    (hfull : ¬ (maxChars < needed (joined line) remaining ∧ joined line ≠ []))
    (hlong : maxChars < remaining.length) : line = [] := by
  rw [← joined_eq_nil hpieces]
  by_contra hjoined
  exact hfull ⟨by unfold needed; omega, hjoined⟩

/-- A piece of the full width is a line of its own. -/
theorem closed_of_long {remaining : List Char} (hlong : maxChars < remaining.length)
    (rest : List (List Char)) :
    fill (fitsLine maxChars) [] (cut maxChars remaining ++ rest)
      = [remaining.take maxChars]
        :: fill (fitsLine maxChars) [] (cut maxChars (remaining.drop maxChars) ++ rest) := by
  rw [cut, if_pos hlong, List.cons_append]
  have hline : [remaining.take maxChars] ≠ [] := by simp
  refine fill_full (fitsLine maxChars) hline ?_ _
  intro item
  have hlength := length_joined_snoc [remaining.take maxChars] item
  rw [if_neg (by simp), joined_singleton, List.length_take] at hlength
  simp only [fitsLine, decide_eq_false_iff_not]
  omega

/-- A word that fits joins the line whole. -/
theorem fill_joins {line : List (List Char)} {remaining : List Char}
    (hshort : remaining.length ≤ maxChars)
    (hfits : line = [] ∨ (joined line).length + 1 + remaining.length ≤ maxChars)
    (rest : List (List Char)) :
    fill (fitsLine maxChars) line (cut maxChars remaining ++ rest)
      = fill (fitsLine maxChars) (line ++ [remaining]) rest := by
  have hcut : cut maxChars remaining = [remaining] := by rw [cut, if_neg (by omega)]
  rw [hcut, List.singleton_append, fill, if_pos]
  rcases hfits with hline | hfits
  · simp [hline]
  · have hlength := length_joined_snoc line remaining
    simp only [Bool.or_eq_true, fitsLine, decide_eq_true_eq]
    right
    split at hlength <;> omega

/-- A line that is closed leaves room for the next, unless it was the last. -/
theorem room_behind {lines : List (List Char)} {line : List Char} (hroom : lines.length < maxLines)
    (hmore : ¬ (lines ++ [line]).length = maxLines) : (lines ++ [line]).length < maxLines := by
  rw [List.length_append, List.length_singleton] at *
  omega

/-- **One word**: the loop places its pieces. -/
theorem placed_placeWord {lines : List (List Char)} {current remaining : List Char}
    {line : List (List Char)} (hcurrent : current = joined line)
    (hpieces : ∀ piece ∈ line, piece ≠ []) (hroom : lines.length < maxLines)
    (hremaining : remaining ≠ []) :
    Placed maxChars maxLines lines line (cut maxChars remaining)
      (placeWord maxChars maxLines lines current remaining) := by
  fun_induction placeWord maxChars maxLines lines current remaining generalizing line with
  | case1 lines current remaining _ hfull lines' =>
      rename_i hlast
      subst hcurrent
      exact Placed.of_last (closed_of_needed hfull) hlast
  | case2 lines current remaining _ hfull lines' hmore =>
      rename_i ih
      subst hcurrent
      have hrest := @ih [] rfl (by simp) (room_behind hroom hmore) hremaining
      exact Placed.of_closed (closed_of_needed hfull) hrest
  | case3 lines current remaining _ hfull hlong lines' =>
      rename_i hlast
      subst hcurrent
      have hline : line = [] := line_nil_of_long hpieces hfull hlong
      have hlines' : lines' = lines ++ [joined [remaining.take maxChars]] := by
        rw [joined_singleton]
      rw [hline]
      rw [hlines'] at hlast ⊢
      exact Placed.of_last (closed_of_long hlong) hlast
  | case4 lines current remaining _ hfull hlong lines' hmore =>
      rename_i ih
      subst hcurrent
      have hline : line = [] := line_nil_of_long hpieces hfull hlong
      have hlines' : lines' = lines ++ [joined [remaining.take maxChars]] := by
        rw [joined_singleton]
      have hdrop : remaining.drop maxChars ≠ [] := by simpa using hlong
      have hrest := ih rfl hpieces (room_behind hroom hmore) hdrop
      rw [hline] at hrest ⊢
      rw [hlines'] at hrest ⊢
      exact Placed.of_closed (closed_of_long hlong) hrest
  | case5 lines current remaining _ hfull =>
      rename_i hshort
      subst hcurrent
      change ¬ (maxChars < needed (joined line) remaining ∧ _) at hfull
      have hempty : joined line = [] ↔ line = [] := joined_eq_nil hpieces
      have hfits : line = [] ∨ (joined line).length + 1 + remaining.length ≤ maxChars := by
        by_cases hline : line = []
        · exact Or.inl hline
        · right
          simpa [needed, hempty, hline] using hfull
      refine ⟨[], line ++ [remaining], by simp, ?_, ?_, hroom, ?_⟩
      · by_cases hline : line = []
        · simp [hline]
        · rw [joined_append hline (by simp)]
          simp [hempty, hline]
      · intro piece hpiece
        rcases List.mem_append.mp hpiece with hpiece | hpiece
        · exact hpieces piece hpiece
        · rw [List.mem_singleton.mp hpiece]
          exact hremaining
      · exact fill_joins (by omega) hfits

/-- **All words**: the outer loop places the pieces of each. -/
theorem placed_words {words : List (List Char)} {lines : List (List Char)} {current : List Char}
    {line : List (List Char)} (hcurrent : current = joined line)
    (hpieces : ∀ piece ∈ line, piece ≠ []) (hroom : lines.length < maxLines)
    (hwords : ∀ word ∈ words, word ≠ []) :
    Placed maxChars maxLines lines line (words.flatMap (cut maxChars))
      (words.foldlM
        (fun state word => placeWord maxChars maxLines state.lines state.current word)
        (⟨lines, current⟩ : Wrapping)) := by
  induction words generalizing lines current line with
  | nil => exact ⟨[], line, by simp, hcurrent, hpieces, hroom, fun rest => by simp⟩
  | cons word words ih =>
      have hword : Placed maxChars maxLines lines line (cut maxChars word)
          (placeWord maxChars maxLines lines current word) :=
        placed_placeWord hcurrent hpieces hroom (hwords word (by simp))
      rw [List.foldlM_cons, List.flatMap_cons]
      cases hplaced : placeWord maxChars maxLines lines current word with
      | error out =>
          rw [hplaced] at hword
          intro rest
          rw [List.append_assoc]
          exact hword (words.flatMap (cut maxChars) ++ rest)
      | ok state =>
          rw [hplaced] at hword
          refine hword.append fun next hcurrent' hpieces' hroom' => ?_
          exact ih hcurrent' hpieces' hroom' fun other hother =>
            hwords other (List.mem_cons_of_mem _ hother)

/-- **`wrap` is the first lines of the greedy filling.** -/
theorem wrapChars_eq_fill (hlines : 0 < maxLines) (text : List Char) :
    wrapChars text maxChars maxLines
      = ((fill (fitsLine maxChars) [] (pieces maxChars text)).map joined).take maxLines := by
  have hplaced : Placed maxChars maxLines [] [] (pieces maxChars text)
      ((splitWhitespace text).foldlM
        (fun state word => placeWord maxChars maxLines state.lines state.current word)
        (⟨[], []⟩ : Wrapping)) :=
    placed_words rfl (by simp) hlines fun word hword => splitWhitespace_ne_nil hword
  unfold wrapChars
  split
  · rename_i lines hresult
    rw [hresult] at hplaced
    simpa using (hplaced []).symm
  · rename_i state hresult
    rw [hresult] at hplaced
    obtain ⟨done, line, hstate, hcurrent, hpieces, hroom, hfill⟩ := hplaced
    have hall := hfill []
    rw [List.append_nil, fill] at hall
    rw [hall, hcurrent, hstate]
    rw [hstate] at hroom
    by_cases hline : line = []
    · rw [List.take_of_length_le (by simpa [hline] using hroom.le)]
      simp [hline]
    · have hne : joined line ≠ [] := mt (joined_eq_nil hpieces).mp hline
      rw [if_pos ⟨hne, hroom⟩, List.take_of_length_le (by simpa [hline] using hroom)]
      simp [hline]

/-- The panel has room for the lines, and a line for its characters. -/
theorem length_wrapChars (hlines : 0 < maxLines) (text : List Char) :
    (wrapChars text maxChars maxLines).length ≤ maxLines
      ∧ ∀ line ∈ wrapChars text maxChars maxLines, line.length ≤ maxChars := by
  rw [wrapChars_eq_fill hlines]
  constructor
  · exact List.length_take_le ..
  · intro line hline
    obtain ⟨pieces', hpieces', rfl⟩ := List.mem_map.mp (List.mem_of_mem_take hline)
    have hfits := fill_fits (fitsLine maxChars) (Or.inl rfl) pieces_fit pieces' hpieces'
    simpa [fitsLine] using hfits

theorem visible_joined_lines (lines : List (List (List Char))) :
    visible (lines.map joined).flatten = visible lines.flatten.flatten := by
  induction lines with
  | nil => rfl
  | cons line lines ih => simp [visible_joined, ih]

theorem visible_of_subset (text : List Char) {part : List Char} (h : ∀ c ∈ part, c ∈ visible text) :
    visible part = part := by
  unfold visible
  rw [List.filter_eq_self]
  intro c hc
  exact (List.mem_filter.mp (h c hc)).2

/-- What `wrap` shows of a text, and what it leaves out behind it. -/
theorem visible_wrap (maxChars : Nat) [NeZero maxChars] (hlines : 0 < maxLines) (text : String) :
    visible ((wrap text maxChars maxLines).flatMap String.toList)
        = ((fill (fitsLine maxChars) []
          (pieces maxChars text.toList)).take maxLines).flatten.flatten
      ∧ visible ((wrap text maxChars maxLines).flatMap String.toList)
          ++ ((fill (fitsLine maxChars) []
            (pieces maxChars text.toList)).drop maxLines).flatten.flatten
        = visible text.toList := by
  have hparts : ((fill (fitsLine maxChars) [] (pieces maxChars text.toList)).take
        maxLines).flatten.flatten
      ++ ((fill (fitsLine maxChars) [] (pieces maxChars text.toList)).drop maxLines).flatten.flatten
      = visible text.toList := by
    rw [← List.flatten_append, ← List.flatten_append, List.take_append_drop, flatten_fill,
      List.nil_append, pieces_flatten]
  have hshown : visible ((wrap text maxChars maxLines).flatMap String.toList)
      = ((fill (fitsLine maxChars) [] (pieces maxChars text.toList)).take
          maxLines).flatten.flatten := by
    have hchars : (wrap text maxChars maxLines).flatMap String.toList
        = (wrapChars text.toList maxChars maxLines).flatten := by
      rw [wrap, List.flatMap_map]
      simp only [String.toList_ofList]
      exact List.flatMap_id' ..
    rw [hchars, wrapChars_eq_fill hlines, ← List.map_take, visible_joined_lines]
    refine visible_of_subset text.toList fun c hc => ?_
    rw [← hparts]
    exact List.mem_append_left _ hc
  exact ⟨hshown, by rw [hshown, hparts]⟩

/-- **A text is shown in full exactly when there is space for it.** -/
theorem shownInFull_iff (hlines : 0 < maxLines) (text : String) :
    ShownInFull (wrap text maxChars maxLines) text ↔ HasSpace text maxChars maxLines := by
  obtain ⟨hshown, hparts⟩ := visible_wrap maxChars hlines text
  unfold HasSpace
  rw [← length_fill_le_iff (hereditary_fitsLine maxChars) pieces_fit, ← take_fill_eq_iff]
  constructor
  · intro hfull
    -- all visible characters are among those shown, so nothing is left out behind them
    have hsub : (visible text.toList).Sublist
        (visible ((wrap text maxChars maxLines).flatMap String.toList)) := by
      have hfilter := hfull.filter fun c => !isWhitespace c
      rwa [show (visible text.toList).filter (fun c => !isWhitespace c) = visible text.toList from
        visible_of_subset _ fun c hc => hc] at hfilter
    have hlength := hsub.length_le
    rw [← hparts, List.length_append] at hlength
    have hdropped : ((fill (fitsLine maxChars) [] (pieces maxChars text.toList)).drop
        maxLines).flatten.flatten = [] := List.length_eq_zero_iff.mp (by omega)
    have hpieces : ((fill (fitsLine maxChars) [] (pieces maxChars text.toList)).drop
        maxLines).flatten = [] := by
      rw [List.eq_nil_iff_forall_not_mem]
      intro piece hpiece
      have hmem : piece ∈ pieces maxChars text.toList := by
        obtain ⟨line, hline, hpiece⟩ := List.mem_flatten.mp hpiece
        exact mem_of_mem_fill _ (List.mem_of_mem_drop hline) piece hpiece
      exact pieces_ne_nil piece hmem (List.flatten_eq_nil_iff.mp hdropped piece hpiece)
    have hall := flatten_fill (fitsLine maxChars) [] (pieces maxChars text.toList)
    rwa [← List.take_append_drop maxLines (fill _ _ _), List.flatten_append, hpieces,
      List.append_nil, List.nil_append] at hall
  · intro hall
    have hvisible : visible ((wrap text maxChars maxLines).flatMap String.toList)
        = visible text.toList := by
      rw [hshown, hall, pieces_flatten]
    unfold ShownInFull
    rw [← hvisible]
    exact List.filter_sublist

end Simulation

end DurableTrivia.BadgeScreen

import DurableTrivia.Lib.Quoting
import DurableTrivia.Shared.Env

/-!
# EnvValues — what the value of an assignment may be

The grammar of a value on its own, without a scan: a quoted text with
nothing but a comment behind it, or a bare text up to its comment. Each
value has one of three outcomes (`value_cases`), and the reader gives each
of them its answer.
-/

namespace DurableTrivia.Shared

open DurableTrivia.Lib
open DurableTrivia.BadgeScreen (isWhitespace)

/-- A text as it stands between quotes, and what it stands for. -/
inductive Quoted : Char → List Char → List Char → Prop
  | single {text : List Char} (h : '\'' ∉ text) : Quoted '\'' text text
  | double {text value : List Char} (h : Quoting.Body '\\' '"' escapeMeaning text value) :
      Quoted '"' text value

/-- Nothing but a comment. -/
def Ignored (rest : List Char) : Prop := trim rest = [] ∨ (trim rest).head? = some '#'

/-- A `#` at the start or behind whitespace. -/
def CommentAt (raw : List Char) (n : Nat) : Prop :=
  raw[n]? = some '#' ∧ (n = 0 ∨ ∃ c, (raw.take n).getLast? = some c ∧ isWhitespace c = true)

/-- The text before the first comment. -/
inductive Uncommented (raw : List Char) : List Char → Prop
  | before {n : Nat} (h : CommentAt raw n) (hfirst : ∀ m < n, ¬ CommentAt raw m) :
      Uncommented raw (raw.take n)
  | all (h : ∀ n, ¬ CommentAt raw n) : Uncommented raw raw

/-- A value and what it stands for. -/
inductive Value : List Char → List Char → Prop
  | quoted {quote : Char} {text value rest : List Char} (h : Quoted quote text value)
      (hrest : Ignored rest) : Value (quote :: (text ++ quote :: rest)) value
  | bare {raw text : List Char} (hbare : ∀ c ∈ raw.head?, isQuote c = false)
      (h : Uncommented raw text) : Value raw (trim text)

/-- An opening quote that nothing closes. -/
def Unterminated (raw : List Char) : Prop :=
  ∃ quote all, raw = quote :: all ∧ isQuote quote = true
    ∧ ∀ text value rest, Quoted quote text value → all ≠ text ++ quote :: rest

/-- More than a comment behind a closing quote. -/
def TextBehind (raw : List Char) : Prop :=
  ∃ quote text value rest, raw = quote :: (text ++ quote :: rest) ∧ Quoted quote text value
    ∧ ¬ Ignored rest

/-! ## Quoted values -/

theorem isQuote_iff {c : Char} : isQuote c = true ↔ c = '\'' ∨ c = '"' := by
  simp [isQuote]

theorem Quoted.isQuote {quote : Char} {text value : List Char} (h : Quoted quote text value) :
    isQuote quote = true := by
  cases h <;> rfl

/-- In single quotes the scan looks for the next quote. -/
theorem closingQuote_single (index : Nat) (all : List Char) :
    closingQuote '\'' false index all
      = (splitOnce '\'' all).map fun parts => index + parts.1.length := by
  induction all generalizing index with
  | nil => rfl
  | cons c all ih =>
      unfold closingQuote splitOnce
      rw [if_neg (by simp), if_neg (by simp), ih]
      by_cases hc : c = '\''
      · rw [if_pos hc, if_pos hc]
        rfl
      · rw [if_neg hc, if_neg hc, Option.map_map]
        apply Option.map_congr
        intro parts _
        simp only [Function.comp_apply, List.length_cons]
        omega

/-- In double quotes it is the scan of a text with escapes. -/
theorem closingQuote_double (escaped : Bool) (index : Nat) (all : List Char) :
    closingQuote '"' escaped index all
      = (Quoting.closing '\\' '"' escaped all).map (index + ·) := by
  induction all generalizing escaped index with
  | nil => simp [closingQuote, Quoting.closing]
  | cons c all ih =>
      have hshift : ((fun n => index + n) ∘ fun n => n + 1) = fun n => index + 1 + n := by
        funext n
        simp only [Function.comp_apply]
        omega
      unfold closingQuote
      cases escaped with
      | true => rw [if_pos ⟨rfl, rfl⟩, ih, Quoting.closing, Option.map_map, hshift]
      | false =>
          rw [if_neg (by simp), Quoting.closing]
          by_cases hesc : c = '\\'
          · rw [if_pos ⟨rfl, hesc⟩, if_pos hesc, ih, Option.map_map, hshift]
          · rw [if_neg (by simp [hesc]), if_neg hesc]
            by_cases hquote : c = '"'
            · rw [if_pos hquote, if_pos hquote]
              rfl
            · rw [if_neg hquote, if_neg hquote, ih, Option.map_map, hshift]

/-- **The first scan ends a quoted text at its closing quote.** -/
theorem closingQuote_of_quoted {quote : Char} {text value : List Char}
    (h : Quoted quote text value) (index : Nat) (rest : List Char) :
    closingQuote quote false index (text ++ quote :: rest) = some (index + text.length) := by
  cases h with
  | single htext =>
      rw [closingQuote_single, splitOnce_eq_some.mpr ⟨rfl, htext⟩]
      rfl
  | double hbody =>
      rw [closingQuote_double, Quoting.closing_of_body (by decide) hbody]
      rfl

/-- What the first scan ends is a quoted text. -/
theorem quoted_of_closingQuote {quote : Char} (hquote : isQuote quote = true) {index n : Nat}
    {all : List Char} (h : closingQuote quote false index all = some n) :
    ∃ text value rest, all = text ++ quote :: rest ∧ Quoted quote text value := by
  cases isQuote_iff.mp hquote with
  | inl hsingle =>
      subst hsingle
      rw [closingQuote_single] at h
      obtain ⟨⟨text, rest⟩, hsplit, -⟩ := Option.map_eq_some_iff.mp h
      obtain ⟨hall, htext⟩ := splitOnce_eq_some.mp hsplit
      exact ⟨text, text, rest, hall, .single htext⟩
  | inr hdouble =>
      subst hdouble
      rw [closingQuote_double] at h
      obtain ⟨m, hclosing, -⟩ := Option.map_eq_some_iff.mp h
      obtain ⟨text, value, rest, hall, -, hbody⟩ :=
        @Quoting.body_of_closing _ _ _ _ escapeMeaning _ _ hclosing
      exact ⟨text, value, rest, hall, .double hbody⟩

/-- The second scan is the reader of a text with escapes. -/
theorem unescape_eq (line : Nat) (text : List Char) :
    unescape line text = (Quoting.unescape '\\' escapeMeaning text).elim
      (.error ⟨line, "trailing escape in quoted value"⟩) .ok := by
  fun_induction unescape line text with
  | case1 => rfl
  | case2 =>
      rw [Quoting.unescape, if_pos rfl]
      rfl
  | case3 character hesc =>
      rw [Quoting.unescape, if_neg hesc]
      rfl
  | case4 next rest ih =>
      rw [Quoting.unescape, if_pos rfl, ih]
      cases Quoting.unescape '\\' escapeMeaning rest <;> rfl
  | case5 character next rest hesc ih =>
      rw [Quoting.unescape, if_neg hesc, ih]
      cases Quoting.unescape '\\' escapeMeaning (next :: rest) <;> rfl

/-- **The second scan reads what the first one ended.** -/
theorem unescape_of_body (line : Nat) {text value : List Char}
    (h : Quoting.Body '\\' '"' escapeMeaning text value) : unescape line text = .ok value := by
  rw [unescape_eq, Quoting.unescape_of_body h]
  rfl

/-- What is between the quotes, once the closing one is found. -/
theorem parseEnvValue_quoted {quote : Char} {text value : List Char}
    (h : Quoted quote text value) (rest : List Char) (line : Nat) :
    parseEnvValue (quote :: (text ++ quote :: rest)) line
      = if !(trim rest).isEmpty && (trim rest).head? != some '#' then
          .error ⟨line, "unexpected text after quoted value"⟩
        else .ok value := by
  have hclosing := closingQuote_of_quoted h 1 rest
  have hbehind : (quote :: (text ++ quote :: rest)).drop (1 + text.length + 1) = rest := by
    rw [Nat.add_comm 1, List.drop_succ_cons, ← List.drop_drop, List.drop_left]
    rfl
  have hquoted : ((quote :: (text ++ quote :: rest)).take (1 + text.length)).drop 1 = text := by
    rw [Nat.add_comm 1, List.take_succ_cons, List.drop_succ_cons, List.drop_zero,
      List.take_left]
  unfold parseEnvValue
  rw [List.head?_cons, Option.filter_some, if_pos h.isQuote]
  simp only [List.tail_cons, hclosing, hbehind, hquoted]
  congr 1
  cases h with
  | single htext => rw [if_pos rfl]
  | double hbody => rw [if_neg (by decide), unescape_of_body line hbody]

/-! ## Bare values -/

theorem commentAt_iff {raw : List Char} {n : Nat} :
    (raw[n]? == some '#' && (n == 0 || (raw.take n).getLast?.any isWhitespace)) = true
      ↔ CommentAt raw n := by
  simp [CommentAt, Option.any_eq_true]

theorem CommentAt.lt_length {raw : List Char} {n : Nat} (h : CommentAt raw n) : n < raw.length :=
  (List.getElem?_eq_some_iff.mp h.1).1

/-- **The search finds the first comment.** -/
theorem commentStart_eq_some {raw : List Char} {n : Nat} :
    commentStart raw = some n ↔ CommentAt raw n ∧ ∀ m < n, ¬ CommentAt raw m := by
  unfold commentStart
  rw [List.find?_range_eq_some, commentAt_iff]
  constructor
  · rintro ⟨h, -, hfirst⟩
    refine ⟨h, fun m hm hcomment => ?_⟩
    have hnot := hfirst m hm
    rw [commentAt_iff.mpr hcomment] at hnot
    cases hnot
  · rintro ⟨h, hfirst⟩
    refine ⟨h, List.mem_range.mpr h.lt_length, fun m hm => ?_⟩
    rw [Bool.not_eq_true']
    exact Bool.eq_false_of_not_eq_true fun hcomment => hfirst m hm (commentAt_iff.mp hcomment)

theorem commentStart_eq_none {raw : List Char} :
    commentStart raw = none ↔ ∀ n, ¬ CommentAt raw n := by
  unfold commentStart
  rw [List.find?_eq_none]
  constructor
  · intro h n hcomment
    exact h n (List.mem_range.mpr hcomment.lt_length) (commentAt_iff.mpr hcomment)
  · intro h n _ hcomment
    exact h n (commentAt_iff.mp hcomment)

theorem uncommented_iff {raw text : List Char} :
    Uncommented raw text ↔ text = raw.take ((commentStart raw).getD raw.length) := by
  constructor
  · intro h
    cases h with
    | before h hfirst =>
        rw [commentStart_eq_some.mpr ⟨h, hfirst⟩]
        rfl
    | all h =>
        rw [commentStart_eq_none.mpr h]
        exact List.take_length.symm
  · rintro rfl
    cases hstart : commentStart raw with
    | none =>
        rw [Option.getD_none, List.take_length]
        exact .all (commentStart_eq_none.mp hstart)
    | some n =>
        obtain ⟨h, hfirst⟩ := commentStart_eq_some.mp hstart
        exact .before h hfirst

theorem parseEnvValue_bare {raw text : List Char} (hbare : ∀ c ∈ raw.head?, isQuote c = false)
    (h : Uncommented raw text) (line : Nat) : parseEnvValue raw line = .ok (trim text) := by
  have hnone : raw.head?.filter isQuote = none := by
    rw [Option.filter_eq_none_iff]
    intro c hc
    simp [hbare c hc]
  unfold parseEnvValue
  rw [hnone, uncommented_iff.mp h]

/-- Without a blank before it a `#` is part of the value. -/
example : parseEnvValue "build#42".toList 1 = .ok "build#42".toList
    ∧ parseEnvValue "value # comment".toList 1 = .ok "value".toList := by
  decide

/-! ## The three outcomes -/

/-- **A value is read as what it stands for.** -/
theorem parseEnvValue_of_value {raw value : List Char} (h : Value raw value) (line : Nat) :
    parseEnvValue raw line = .ok value := by
  cases h with
  | quoted h hrest =>
      rw [parseEnvValue_quoted h, if_neg]
      cases hrest with
      | inl hblank => simp [hblank]
      | inr hcomment => simp [hcomment]
  | bare hbare h => exact parseEnvValue_bare hbare h line

theorem parseEnvValue_of_unterminated {raw : List Char} (h : Unterminated raw) (line : Nat) :
    parseEnvValue raw line = .error ⟨line, "unterminated quoted value"⟩ := by
  obtain ⟨quote, all, rfl, hquote, hnone⟩ := h
  have hclosing : closingQuote quote false 1 all = none := by
    cases hscan : closingQuote quote false 1 all with
    | none => rfl
    | some n =>
        obtain ⟨text, value, rest, hall, hquoted⟩ := quoted_of_closingQuote hquote hscan
        exact absurd hall (hnone text value rest hquoted)
  unfold parseEnvValue
  rw [List.head?_cons, Option.filter_some, if_pos hquote]
  simp only [List.tail_cons, hclosing]

theorem parseEnvValue_of_textBehind {raw : List Char} (h : TextBehind raw) (line : Nat) :
    parseEnvValue raw line = .error ⟨line, "unexpected text after quoted value"⟩ := by
  obtain ⟨quote, text, value, rest, rfl, hquoted, hrest⟩ := h
  rw [parseEnvValue_quoted hquoted, if_pos]
  simpa [Ignored] using hrest

theorem exists_uncommented (raw : List Char) : ∃ text, Uncommented raw text :=
  ⟨_, uncommented_iff.mpr rfl⟩

/-- **A text is a value, an open quotation, or a quotation with text behind it.** -/
theorem value_cases (raw : List Char) :
    (∃ value, Value raw value) ∨ Unterminated raw ∨ TextBehind raw := by
  by_cases hbare : ∀ c ∈ raw.head?, isQuote c = false
  · obtain ⟨text, h⟩ := exists_uncommented raw
    exact .inl ⟨_, .bare hbare h⟩
  · push Not at hbare
    obtain ⟨quote, hhead, hquote⟩ := hbare
    obtain ⟨all, rfl⟩ := List.head?_eq_some_iff.mp hhead
    rw [ne_eq, Bool.not_eq_false] at hquote
    by_cases hclosed : ∃ text value rest, Quoted quote text value ∧ all = text ++ quote :: rest
    · obtain ⟨text, value, rest, hquoted, rfl⟩ := hclosed
      by_cases hrest : Ignored rest
      · exact .inl ⟨value, .quoted hquoted hrest⟩
      · exact .inr (.inr ⟨quote, text, value, rest, rfl, hquoted, hrest⟩)
    · push Not at hclosed
      exact .inr (.inl ⟨quote, all, rfl, hquote, hclosed⟩)

/-- A value stands for one text. -/
theorem Value.unique {raw value value' : List Char} (h : Value raw value) (h' : Value raw value') :
    value = value' := by
  have hread := parseEnvValue_of_value h 0
  rw [parseEnvValue_of_value h' 0] at hread
  exact (Except.ok.inj hread).symm

/-- **No escape is left over** when the second scan runs. -/
theorem no_trailing_escape (raw : List Char) (line line' : Nat) :
    parseEnvValue raw line ≠ .error ⟨line', "trailing escape in quoted value"⟩ := by
  obtain ⟨value, h⟩ | h | h := value_cases raw
  · rw [parseEnvValue_of_value h]
    simp
  · rw [parseEnvValue_of_unterminated h]
    simp
  · rw [parseEnvValue_of_textBehind h]
    simp

end DurableTrivia.Shared

import DurableTrivia.Lib.Bytes
import DurableTrivia.Shared.EnvLines

/-!
# EnvRoundTrip — a value that is written comes back

Any text can be written in double quotes with its special characters
escaped, and a text without single quotes and line feeds in single quotes
as it is. However the assignment is laid out on its line, `parse_env`
gives back the text.
-/

namespace DurableTrivia.Shared

open DurableTrivia.Lib
open DurableTrivia.BadgeScreen (isWhitespace)

/-- Whitespace within a line. -/
def Padding (text : List Char) : Prop := ∀ c ∈ text, isWhitespace c = true ∧ c ≠ '\n'

/-- How the assignment of `key` stands on its line: padding in front, the
word `export` and padding behind it if it is there, padding around the
`=`, and what follows the value. Without that word a key `export` has no
blank before the `=`, or it would be the word itself. -/
structure Layout (key : List Char) where
  lead : List Char
  exported : Option (List Char)
  before : List Char
  behind : List Char
  rest : List Char
  hlead : Padding lead
  hexported : ∀ gap ∈ exported, Padding gap
  hbefore : Padding before
  hbehind : Padding behind
  hrest : Ignored rest ∧ '\n' ∉ rest
  hword : exported = none → before.head? = some ' ' → key ≠ "export".toList

/-- The word in front of the key. -/
def Layout.word {key : List Char} (layout : Layout key) : List Char :=
  layout.exported.elim [] fun gap => "export ".toList ++ gap

/-- The line on which `key` is set to `raw`. -/
def Layout.line {key : List Char} (layout : Layout key) (raw : List Char) : List Char :=
  layout.lead ++ (layout.word ++ (key ++ (layout.before ++
    '=' :: (layout.behind ++ (raw ++ layout.rest)))))

/-- The character as it is written in double quotes. -/
def escapeCharacter (character : Char) : List Char :=
  match character with
  | '\\' => ['\\', '\\']
  | '"' => ['\\', '"']
  | '\n' => ['\\', 'n']
  | '\r' => ['\\', 'r']
  | '\t' => ['\\', 't']
  | other => [other]

/-- The two ways to write a value. -/
def doubleQuoted (value : List Char) : List Char :=
  '"' :: (value.flatMap escapeCharacter ++ ['"'])

/-- A value between single quotes. -/
def singleQuoted (value : List Char) : List Char := '\'' :: (value ++ ['\''])

/-! ## What is written -/

theorem body_escapeCharacter (c : Char) :
    Quoting.Body '\\' '"' escapeMeaning (escapeCharacter c) [c] := by
  unfold escapeCharacter
  split
  · exact .escaped .nil
  · exact .escaped .nil
  · exact .escaped .nil
  · exact .escaped .nil
  · exact .escaped .nil
  · rename_i hesc hquote _ _ _
    exact .plain hesc hquote .nil

theorem newline_not_mem_escapeCharacter (c : Char) : '\n' ∉ escapeCharacter c := by
  unfold escapeCharacter
  split
  · decide
  · decide
  · decide
  · decide
  · decide
  · rename_i _ _ hnewline _ _
    simpa using Ne.symm hnewline

theorem quoted_escaped (value : List Char) :
    Quoted '"' (value.flatMap escapeCharacter) value :=
  .double (Quoting.body_flatMap body_escapeCharacter value)

theorem newline_not_mem_escaped (value : List Char) : '\n' ∉ value.flatMap escapeCharacter := by
  rw [List.mem_flatMap]
  rintro ⟨c, -, hc⟩
  exact newline_not_mem_escapeCharacter c hc

/-! ## A line as it is laid out -/

theorem Padding.whitespace {pad : List Char} (h : Padding pad) : ∀ c ∈ pad, isWhitespace c = true :=
  fun c hc => (h c hc).1

theorem Padding.newline_not_mem {pad : List Char} (h : Padding pad) : '\n' ∉ pad :=
  fun hmem => (h '\n' hmem).2 rfl

theorem ValidKey.range {key : List Char} (h : ValidKey key) {c : Char} (hc : c ∈ key) :
    c.toNat = 95 ∨ (65 ≤ c.toNat ∧ c.toNat ≤ 90) ∨ (97 ≤ c.toNat ∧ c.toNat ≤ 122)
      ∨ (48 ≤ c.toNat ∧ c.toNat ≤ 57) := by
  cases h.2 c hc with
  | inl hunderscore => exact .inl (hunderscore ▸ rfl)
  | inr hletter => exact .inr (range_of_isAlphanum hletter)

/-- A character of a key is no whitespace, no `=` and no `#`. -/
theorem ValidKey.plain {key : List Char} (h : ValidKey key) {c : Char} (hc : c ∈ key) :
    isWhitespace c = false ∧ c ≠ '=' ∧ c ≠ '#' := by
  have hrange := h.range hc
  refine ⟨?_, ?_, ?_⟩
  · simp only [isWhitespace, Bool.or_eq_false_iff, Bool.and_eq_false_iff, decide_eq_false_iff_not,
      beq_eq_false_iff_ne]
    omega
  · rintro rfl
    simp at hrange
  · rintro rfl
    simp at hrange

theorem ValidKey.solid {key : List Char} (h : ValidKey key) : Solid isWhitespace key :=
  .of_forall fun _ hc => (h.plain hc).1

theorem isWhitespace_of_isQuote {quote : Char} (h : isQuote quote = true) :
    isWhitespace quote = false := by
  cases isQuote_iff.mp h with
  | inl hsingle =>
      rw [hsingle]
      rfl
  | inr hdouble =>
      rw [hdouble]
      rfl

/-- Up to a quote a text that starts with no whitespace stays. -/
theorem trim_append_quote {quote : Char} (hquote : isQuote quote = true) (init : List Char)
    (hfront : ∀ c rest, init ++ [quote] = c :: rest → isWhitespace c = false) (rest : List Char) :
    trim (init ++ quote :: rest) = init ++ quote :: rest.rdropWhile isWhitespace :=
  trimBy_append_cons hfront (isWhitespace_of_isQuote hquote) rest

namespace Layout

variable {key : List Char} (layout : Layout key) (hkey : ValidKey key)
include hkey

/-- The first character behind the padding. -/
theorem word_append_key :
    ∃ c rest, layout.word ++ key = c :: rest ∧ isWhitespace c = false ∧ c ≠ '#' := by
  unfold Layout.word
  cases layout.exported with
  | none =>
      obtain ⟨c, rest, hcons⟩ := List.exists_cons_of_ne_nil hkey.1
      obtain ⟨hspace, -, hcomment⟩ := hkey.plain (hcons ▸ List.mem_cons_self)
      exact ⟨c, rest, hcons, hspace, hcomment⟩
  | some gap => exact ⟨'e', "xport ".toList ++ gap ++ key, rfl, rfl, by decide⟩

/-- The whole line without the padding around it. -/
theorem trim_line {quote : Char} (hquote : isQuote quote = true) (text : List Char) :
    trim (layout.line (quote :: (text ++ [quote])))
      = layout.word ++ (key ++ (layout.before ++ '=' :: (layout.behind ++
          quote :: (text ++ quote :: layout.rest.rdropWhile isWhitespace)))) := by
  obtain ⟨c, rest, hstart, hc, -⟩ := layout.word_append_key hkey
  have htrim := trim_append_quote hquote
    (layout.word ++ (key ++ (layout.before ++ '=' :: (layout.behind ++ quote :: text))))
    (by
      intro b tail h
      rw [← List.append_assoc, hstart] at h
      cases h
      exact hc) layout.rest
  unfold trim at htrim
  unfold Layout.line trim
  rw [trimBy_padding_front layout.hlead.whitespace]
  simpa using htrim

/-- The line is not taken for one that says nothing. -/
theorem relevant_line {quote : Char} (hquote : isQuote quote = true) (text : List Char) :
    Relevant (layout.line (quote :: (text ++ [quote]))) := by
  obtain ⟨c, rest, hstart, -, hc⟩ := layout.word_append_key hkey
  unfold Relevant
  rw [layout.trim_line hkey hquote, ← List.append_assoc, hstart]
  exact ⟨by simp, by simpa using hc⟩

omit hkey in
/-- Behind a bare key `export` comes no blank. -/
theorem not_word (hnone : layout.exported = none) (hspace : ' ' ∉ key) (rest : List Char) :
    ¬ "export ".toList <+: key ++ (layout.before ++ '=' :: rest) := by
  rintro ⟨behind, h⟩
  have hsplit : "export".toList ++ ' ' :: behind = key ++ (layout.before ++ '=' :: rest) := h
  -- the blank of the prefix stands behind the key
  have hblank : ∀ pad, ' ' :: behind = pad ++ (layout.before ++ '=' :: rest) →
      key = "export".toList ++ pad → False := by
    intro pad hpad hkey
    cases pad with
    | nil =>
        refine layout.hword hnone ?_ (by simpa using hkey)
        cases hbefore : layout.before with
        | nil =>
            rw [hbefore] at hpad
            simp at hpad
        | cons b before =>
            rw [hbefore] at hpad
            cases hpad
            rfl
    | cons c pad =>
        cases hpad
        exact hspace (by simp [hkey])
  obtain ⟨pad, hkey, hpad⟩ | ⟨word, hword, hrest⟩ := List.append_eq_append_iff.mp hsplit
  · exact hblank pad hpad hkey
  · cases word with
    | nil => exact hblank [] (by simpa using hrest.symm) (by simpa using hword.symm)
    | cons c word =>
        -- a letter of the word would be padding or the `=`
        have hletter : c ∈ "export".toList := by
          rw [hword]
          simp
        have hexport : ValidKey "export".toList := ⟨by decide, by simp⟩
        obtain ⟨hnotSpace, hnotEquals, -⟩ := hexport.plain hletter
        cases hbefore : layout.before with
        | nil =>
            rw [hbefore] at hrest
            exact hnotEquals (List.cons.inj hrest).1.symm
        | cons b before =>
            have hb := (layout.hbefore b (by simp [hbefore])).1
            rw [hbefore] at hrest
            rw [(List.cons.inj hrest).1, hnotSpace] at hb
            cases hb

/-- **The prefix is taken off where it is written, and only there.** -/
theorem assignment_line {quote : Char} (hquote : isQuote quote = true) (text : List Char) :
    assignment (layout.line (quote :: (text ++ [quote])))
      = (layout.exported.getD [] ++ (key ++ layout.before)) ++ '=' :: (layout.behind ++
          quote :: (text ++ quote :: layout.rest.rdropWhile isWhitespace)) := by
  unfold assignment
  rw [layout.trim_line hkey hquote]
  unfold stripStart Layout.word
  cases hexported : layout.exported with
  | none =>
      have hspace : ' ' ∉ key := fun hmem => Bool.noConfusion (hkey.plain hmem).1
      rw [Option.elim_none, List.nil_append, if_neg]
      · simp
      · rw [List.isPrefixOf_iff_prefix]
        exact layout.not_word hexported hspace _
  | some gap =>
      rw [Option.elim_some, if_pos]
      · simp
      · rw [List.isPrefixOf_iff_prefix, List.append_assoc]
        exact List.prefix_append _ _

omit hkey in
/-- The value without the padding in front. -/
theorem trim_behind {quote : Char} (hquote : isQuote quote = true) (text : List Char) :
    trim (layout.behind ++ quote :: (text ++ quote :: layout.rest.rdropWhile isWhitespace))
      = quote :: (text ++ quote :: layout.rest.rdropWhile isWhitespace) := by
  have htrim := trim_append_quote hquote (quote :: text)
    (by
      intro b tail h
      cases h
      exact isWhitespace_of_isQuote hquote) (layout.rest.rdropWhile isWhitespace)
  rw [List.rdropWhile_idempotent] at htrim
  unfold trim
  rw [trimBy_padding_front layout.hbehind.whitespace]
  exact htrim

omit hkey in
theorem padding_gap : Padding (layout.exported.getD []) := by
  cases hexported : layout.exported with
  | none => exact fun c hc => absurd hc List.not_mem_nil
  | some gap => exact layout.hexported gap hexported

theorem sides_line {quote : Char} (hquote : isQuote quote = true) (text : List Char) :
    Sides (layout.line (quote :: (text ++ [quote])))
      (layout.exported.getD [] ++ (key ++ layout.before))
      (layout.behind ++ quote :: (text ++ quote :: layout.rest.rdropWhile isWhitespace)) := by
  refine ⟨layout.assignment_line hkey hquote text, ?_⟩
  have hpadding : ∀ {pad}, Padding pad → '=' ∉ pad :=
    fun hpad hmem => Bool.noConfusion (hpad.whitespace '=' hmem)
  rw [List.mem_append, List.mem_append]
  rintro (hgap | hmem | hbefore)
  · exact hpadding layout.padding_gap hgap
  · exact (hkey.plain hmem).2.1 rfl
  · exact hpadding layout.hbefore hbefore

/-- **The line assigns the text between the quotes.** -/
theorem assigns_line {quote : Char} {text value : List Char} (h : Quoted quote text value) :
    Assigns (layout.line (quote :: (text ++ [quote]))) (String.ofList key)
      (String.ofList value) := by
  have htrim : trim (layout.exported.getD [] ++ (key ++ layout.before)) = key :=
    trimBy_padded layout.padding_gap.whitespace layout.hbefore.whitespace hkey.solid
  have hrest : Ignored (layout.rest.rdropWhile isWhitespace) := by
    unfold Ignored trim
    rw [trimBy_rdropWhile]
    exact layout.hrest.1
  have hassigns := Assigns.mk (layout.sides_line hkey h.isQuote text) (by rwa [htrim])
    (by
      rw [layout.trim_behind h.isQuote]
      exact .quoted h hrest)
  rw [htrim] at hassigns
  exact hassigns

theorem newline_not_mem_line {raw : List Char} (hraw : '\n' ∉ raw) : '\n' ∉ layout.line raw := by
  have hmem : '\n' ∉ key := fun h => Bool.noConfusion (hkey.plain h).1
  have hword : '\n' ∉ layout.word := by
    unfold Layout.word
    cases hexported : layout.exported with
    | none => exact List.not_mem_nil
    | some gap =>
        rw [Option.elim_some, List.mem_append]
        rintro (hexport | hgap)
        · revert hexport
          decide
        · exact (layout.hexported gap hexported).newline_not_mem hgap
  unfold Layout.line
  simp [hmem, hword, hraw, layout.hlead.newline_not_mem, layout.hbefore.newline_not_mem,
    layout.hbehind.newline_not_mem, layout.hrest.2]

end Layout

/-! ## The file of one line -/

variable (debug : String → String)

theorem parseEnv_of_assigns {line : List Char} (hnewline : '\n' ∉ line) (hrelevant : Relevant line)
    {key value : String} (h : Assigns line key value) :
    parseEnv debug (String.ofList line) = .ok ((∅ : EnvValues).insert key value) := by
  have hne : line ≠ [] := by
    rintro rfl
    exact hrelevant.1 rfl
  unfold parseEnv
  rw [String.toList_ofList, lines_of_one_line hne hnewline]
  simp only [List.zipIdx_singleton, List.filterMap_cons, numbered_of_relevant hrelevant,
    List.filterMap_nil, List.mapM_cons, parseEnvLine_of_assigns debug h]
  rfl

/-- A quoted value on a line of its own is read as what it stands for. -/
theorem parseEnv_of_quoted {key : String} (hkey : ValidKey key.toList)
    (layout : Layout key.toList) {quote : Char} {text value : List Char}
    (h : Quoted quote text value) (hnewline : '\n' ∉ text) :
    parseEnv debug (String.ofList (layout.line (quote :: (text ++ [quote]))))
      = .ok ((∅ : EnvValues).insert key (String.ofList value)) := by
  have hquote : '\n' ≠ quote := by
    rintro rfl
    exact Bool.noConfusion h.isQuote
  have hassigns := layout.assigns_line hkey h
  rw [String.ofList_toList] at hassigns
  apply parseEnv_of_assigns debug _ (layout.relevant_line hkey h.isQuote text) hassigns
  apply layout.newline_not_mem_line hkey
  simp [hnewline, hquote]

/-- **Quoted values round-trip, and no escape is left over.** -/
theorem quoted_values_round_trip :
    (∀ (key : String) (layout : Layout key.toList) (value : String), ValidKey key.toList →
      parseEnv debug (String.ofList (layout.line (doubleQuoted value.toList)))
          = .ok ((∅ : EnvValues).insert key value)
        ∧ ('\'' ∉ value.toList → '\n' ∉ value.toList →
          parseEnv debug (String.ofList (layout.line (singleQuoted value.toList)))
            = .ok ((∅ : EnvValues).insert key value)))
      ∧ ∀ raw line line', parseEnvValue raw line
          ≠ .error ⟨line', "trailing escape in quoted value"⟩ := by
  refine ⟨fun key layout value hkey => ⟨?_, fun hquote hnewline => ?_⟩, no_trailing_escape⟩
  · have hread := parseEnv_of_quoted debug hkey layout (quoted_escaped value.toList)
      (newline_not_mem_escaped value.toList)
    rwa [String.ofList_toList] at hread
  · have hread := parseEnv_of_quoted debug hkey layout (.single hquote) hnewline
    rwa [String.ofList_toList] at hread

theorem token_round_trip :
    parseEnv id "  export TOKEN=\"a \\\"#\" # b" = .ok ((∅ : EnvValues).insert "TOKEN" "a \"#")
      ∧ parseEnv id "  export TOKEN='a \"#' # b"
        = .ok ((∅ : EnvValues).insert "TOKEN" "a \"#") := by
  have hkey : ValidKey "TOKEN".toList := ⟨by simp, by simp⟩
  have hspaces : Padding [' ', ' '] := by simp [Padding, isWhitespace]
  have hcomment : Ignored [' ', '#', ' ', 'b'] := .inr rfl
  obtain ⟨hdouble, hsingle⟩ := (quoted_values_round_trip id).1 "TOKEN"
    { lead := [' ', ' ']
      exported := some []
      before := []
      behind := []
      rest := [' ', '#', ' ', 'b']
      hlead := hspaces
      hexported := by simp [Padding]
      hbefore := by simp [Padding]
      hbehind := by simp [Padding]
      hrest := ⟨hcomment, by decide⟩
      hword := nofun } "a \"#" hkey
  exact ⟨hdouble, hsingle (by simp) (by simp)⟩

end DurableTrivia.Shared

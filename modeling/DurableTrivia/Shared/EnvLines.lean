import DurableTrivia.Lib.Records
import DurableTrivia.Shared.EnvValues

/-!
# EnvLines — what a dotenv file says, line by line

A relevant line assigns a value to a key or is malformed, never both, and
`parse_env` reads the file as the grammar says: the first malformed line
is the one an error names, and without one the map holds what the last
line of each key assigns.
-/

namespace DurableTrivia.Shared

open DurableTrivia.Lib

/-- Neither blank nor a comment. -/
def Relevant (line : List Char) : Prop := trim line ≠ [] ∧ (trim line).head? ≠ some '#'

/-- A line without the padding around it and the `export` in front. -/
def assignment (line : List Char) : List Char := stripStart "export ".toList (trim line)

/-- ASCII letters, digits and underscores. -/
def ValidKey (key : List Char) : Prop := key ≠ [] ∧ ∀ c ∈ key, c = '_' ∨ c.isAlphanum = true

/-- What is on the two sides of the first `=`. -/
def Sides (line before after : List Char) : Prop :=
  assignment line = before ++ '=' :: after ∧ '=' ∉ before

/-- What can be wrong with a line. -/
inductive Malformed (line : List Char) : Prop
  | noEquals (h : '=' ∉ assignment line)
  | badKey {before after : List Char} (hsides : Sides line before after)
      (hkey : ¬ ValidKey (trim before))
  | unterminated {before after : List Char} (hsides : Sides line before after)
      (h : Unterminated (trim after))
  | textBehind {before after : List Char} (hsides : Sides line before after)
      (h : TextBehind (trim after))

/-- The line sets `key` to `value`. -/
inductive Assigns (line : List Char) : String → String → Prop
  | mk {before after value : List Char} (hsides : Sides line before after)
      (hkey : ValidKey (trim before)) (hvalue : Value (trim after) value) :
      Assigns line (String.ofList (trim before)) (String.ofList value)

/-! ## One line -/

theorem validKey_iff {key : List Char} :
    ValidKey key ↔ (key.isEmpty || !key.all isKeyCharacter) = false := by
  simp [ValidKey, isKeyCharacter]

theorem numbered_of_relevant {line : List Char} (h : Relevant line) (index : Nat) :
    numbered line index = some (index + 1, assignment line) := by
  unfold numbered
  exact if_neg (by simpa [Relevant] using h)

theorem numbered_of_not_relevant {line : List Char} (h : ¬ Relevant line) (index : Nat) :
    numbered line index = none := by
  unfold numbered
  exact if_pos (by simpa [Relevant, or_iff_not_imp_left] using h)

variable (debug : String → String)

/-- Once the key passes, the value decides. -/
theorem parseEnvLine_of_sides {line before after : List Char} (hsides : Sides line before after)
    (hkey : ValidKey (trim before)) (n : Nat) :
    parseEnvLine debug n (assignment line)
      = (parseEnvValue (trim after) n).map fun value =>
          (String.ofList (trim before), String.ofList value) := by
  unfold parseEnvLine
  rw [splitOnce_eq_some.mpr hsides]
  exact if_neg (by rw [validKey_iff.mp hkey]; exact Bool.false_ne_true)

theorem parseEnvLine_of_assigns {line : List Char} {key value : String}
    (h : Assigns line key value) (n : Nat) :
    parseEnvLine debug n (assignment line) = .ok (key, value) := by
  obtain ⟨hsides, hkey, hvalue⟩ := h
  rw [parseEnvLine_of_sides debug hsides hkey, parseEnvValue_of_value hvalue]
  rfl

theorem parseEnvLine_of_badKey {line before after : List Char} (hsides : Sides line before after)
    (hkey : ¬ ValidKey (trim before)) (n : Nat) :
    ∃ message, parseEnvLine debug n (assignment line) = .error ⟨n, message⟩ := by
  rw [validKey_iff, Bool.not_eq_false] at hkey
  unfold parseEnvLine
  rw [splitOnce_eq_some.mpr hsides]
  exact ⟨_, if_pos hkey⟩

/-- A value that is no value is an error, unless the key is one before it. -/
theorem parseEnvLine_of_badValue {line before after : List Char} (hsides : Sides line before after)
    {n : Nat} {message : String} (hvalue : parseEnvValue (trim after) n = .error ⟨n, message⟩) :
    ∃ message, parseEnvLine debug n (assignment line) = .error ⟨n, message⟩ := by
  by_cases hkey : ValidKey (trim before)
  · rw [parseEnvLine_of_sides debug hsides hkey, hvalue]
    exact ⟨message, rfl⟩
  · exact parseEnvLine_of_badKey debug hsides hkey n

theorem parseEnvLine_of_malformed {line : List Char} (h : Malformed line) (n : Nat) :
    ∃ message, parseEnvLine debug n (assignment line) = .error ⟨n, message⟩ := by
  cases h with
  | noEquals hequals =>
      unfold parseEnvLine
      rw [splitOnce_eq_none.mpr hequals]
      exact ⟨_, rfl⟩
  | badKey hsides hkey => exact parseEnvLine_of_badKey debug hsides hkey n
  | unterminated hsides hopen =>
      exact parseEnvLine_of_badValue debug hsides (parseEnvValue_of_unterminated hopen n)
  | textBehind hsides hbehind =>
      exact parseEnvLine_of_badValue debug hsides (parseEnvValue_of_textBehind hbehind n)

/-- **A line assigns or is malformed.** -/
theorem assigns_or_malformed (line : List Char) :
    (∃ key value, Assigns line key value) ∨ Malformed line := by
  by_cases hequals : '=' ∈ assignment line
  · obtain ⟨⟨before, after⟩, hsplit⟩ :=
      Option.ne_none_iff_exists'.mp fun h => splitOnce_eq_none.mp h hequals
    have hsides : Sides line before after := splitOnce_eq_some.mp hsplit
    by_cases hkey : ValidKey (trim before)
    · obtain ⟨value, hvalue⟩ | hopen | hbehind := value_cases (trim after)
      · exact .inl ⟨_, _, .mk hsides hkey hvalue⟩
      · exact .inr (.unterminated hsides hopen)
      · exact .inr (.textBehind hsides hbehind)
    · exact .inr (.badKey hsides hkey)
  · exact .inr (.noEquals hequals)

/-! ## The file -/

/-- **The reader follows the grammar.** -/
theorem reads_lines :
    Records.Reads numbered (fun (n, line) => parseEnvLine debug n line) EnvParseError.line
      (fun line => Relevant line ∧ Malformed line)
      (fun line key value => Relevant line ∧ Assigns line key value) where
  of_bad := by
    rintro line ⟨hrelevant, hmalformed⟩ index
    obtain ⟨message, herror⟩ := parseEnvLine_of_malformed debug hmalformed (index + 1)
    exact ⟨_, _, numbered_of_relevant hrelevant index, herror, rfl⟩
  of_gives := by
    rintro line key value ⟨hrelevant, hassigns⟩ index
    exact ⟨_, numbered_of_relevant hrelevant index, parseEnvLine_of_assigns debug hassigns _⟩
  of_silent := by
    intro line hbad hgives index
    apply numbered_of_not_relevant
    intro hrelevant
    obtain ⟨key, value, hassigns⟩ | hmalformed := assigns_or_malformed line
    · exact hgives key value ⟨hrelevant, hassigns⟩
    · exact hbad ⟨hrelevant, hmalformed⟩

theorem parseEnv_eq (content : String) :
    parseEnv debug content
      = (Records.readAll numbered (fun (n, line) => parseEnvLine debug n line) 0
          (lines content.toList)).map Std.ExtHashMap.ofList :=
  rfl

/-- **A file without a malformed line is read, and the last line of a key
has its value.** -/
theorem parseEnv_ok {content : String} {values : EnvValues}
    (h : parseEnv debug content = .ok values) :
    (∀ line ∈ lines content.toList, ¬ (Relevant line ∧ Malformed line))
      ∧ ∀ key value, values[key]? = some value
        ↔ Records.LastGives (fun line value => Relevant line ∧ Assigns line key value)
            (lines content.toList) value := by
  rw [parseEnv_eq] at h
  cases hread : Records.readAll numbered (fun (n, line) => parseEnvLine debug n line) 0
      (lines content.toList) with
  | error e =>
      rw [hread] at h
      cases h
  | ok pairs =>
      rw [hread] at h
      cases h
      refine ⟨(reads_lines debug).not_bad_of_ok hread, fun key value => ?_⟩
      have hlast := (reads_lines debug).getElem?_insertMany hread ∅ key value
      rw [← Std.ExtHashMap.ofList_eq_insertMany_empty] at hlast
      rw [hlast]
      simp

/-- **An error is the first malformed line.** -/
theorem parseEnv_error {content : String} {e : EnvParseError}
    (h : parseEnv debug content = .error e) :
    ∃ n, Records.FirstAt (fun line => Relevant line ∧ Malformed line) (lines content.toList) n
      ∧ e.line = n + 1 := by
  rw [parseEnv_eq] at h
  cases hread : Records.readAll numbered (fun (n, line) => parseEnvLine debug n line) 0
      (lines content.toList) with
  | ok pairs =>
      rw [hread] at h
      cases h
  | error e' =>
      rw [hread] at h
      cases h
      obtain ⟨n, hfirst, hline⟩ := (reads_lines debug).firstAt_of_error hread
      exact ⟨n, hfirst, by omega⟩

theorem parseEnv_error_iff (content : String) :
    (∃ e, parseEnv debug content = .error e)
      ↔ ∃ line ∈ lines content.toList, Relevant line ∧ Malformed line := by
  constructor
  · rintro ⟨e, h⟩
    obtain ⟨n, hfirst, -⟩ := parseEnv_error debug h
    exact hfirst.exists_bad
  · rintro ⟨line, hline, hbad⟩
    cases h : parseEnv debug content with
    | error e => exact ⟨e, rfl⟩
    | ok values => exact absurd hbad ((parseEnv_ok debug h).1 line hline)

/-- **`parse_env` is exact about lines.** It fails exactly on a file with a
malformed line and names the first; otherwise every relevant line assigns
one pair, and the map has the keys of those lines with their last values. -/
theorem parse_env_exact (content : String) :
    ((∃ e, parseEnv debug content = .error e)
        ↔ ∃ line ∈ lines content.toList, Relevant line ∧ Malformed line)
      ∧ (∀ e, parseEnv debug content = .error e →
        ∃ n, Records.FirstAt (fun line => Relevant line ∧ Malformed line) (lines content.toList) n
          ∧ e.line = n + 1)
      ∧ ∀ values, parseEnv debug content = .ok values →
        (∀ line ∈ lines content.toList, Relevant line → ∃! pair : String × String,
            Assigns line pair.1 pair.2)
          ∧ (∀ key, key ∈ values ↔ ∃ line ∈ lines content.toList, Relevant line
            ∧ ∃ value, Assigns line key value)
          ∧ ∀ key value, values[key]? = some value
            ↔ Records.LastGives (fun line value => Relevant line ∧ Assigns line key value)
                (lines content.toList) value := by
  refine ⟨parseEnv_error_iff debug content, fun e h => parseEnv_error debug h, fun values h => ?_⟩
  obtain ⟨hgood, hlast⟩ := parseEnv_ok debug h
  refine ⟨?_, ?_, hlast⟩
  · intro line hline hrelevant
    obtain ⟨key, value, hassigns⟩ | hmalformed := assigns_or_malformed line
    · refine ⟨(key, value), hassigns, fun pair hpair => ?_⟩
      obtain ⟨hkey, hvalue⟩ := (reads_lines debug).unique ⟨hrelevant, hpair⟩ ⟨hrelevant, hassigns⟩
      exact Prod.ext hkey hvalue
    · exact absurd ⟨hrelevant, hmalformed⟩ (hgood line hline)
  · intro key
    rw [Std.ExtHashMap.mem_iff_isSome_getElem?, Option.isSome_iff_exists]
    simp only [hlast, Records.exists_lastGives, exists_and_left]

end DurableTrivia.Shared

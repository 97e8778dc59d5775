import DurableTrivia.BadgeScreen.Centered
import DurableTrivia.BadgeScreen.Labels
import DurableTrivia.Firmware.Ui

/-!
# Screens — what the badge says, and what can be read off it

The screens of `badge-screen/src/lib.rs` with their texts. Two questions
a player has are answered by the pixels alone: a verdict and its score
are read off the feedback screen (`feedback_legible`), and whether the
controls belong to a question off one pixel of its panels
(`question_marked`, `centered_unmarked`).
-/

namespace DurableTrivia.Firmware

/-- The headline of a status screen. -/
def Status.headline : Status → String
  | .booting => "BOOTING"
  | .connectingWifi => "CONNECTING WIFI"
  | .syncingTime => "SYNCING TIME"
  | .connectingCloud => "CONNECTING CLOUD"
  | .resultPending => "RESULT PENDING"

/-- The instruction on a status screen. -/
def Status.instruction : Status → String
  | .booting => "STARTING RUST WORKER"
  | .connectingWifi => "JOINING BADGE NETWORK"
  | .syncingTime => "PREPARING CLOUD TLS"
  | .connectingCloud => "CONNECTING TEMPORAL"
  | .resultPending => "TEMPORAL HAS THE RESULT"

end DurableTrivia.Firmware

namespace DurableTrivia.BadgeScreen

open DurableTrivia.Shared

/-- `{:+}`: a number with its sign. -/
def signed (n : Int) : String :=
  String.ofList ((if 0 ≤ n then '+' else '-') :: Nat.toDigits 10 n.natAbs)

/-- The line that gives the change of the score, with its sign. -/
def scoreLine (scoreDelta : Int) : String := "SCORE " ++ signed scoreDelta

/-- The texts of the verdict screen. -/
def feedbackScreen (callsign : String) (correct : Bool) (scoreDelta : Int) : Screen :=
  { callsign
    headline := if correct then "CORRECT" else "WRONG"
    detail := scoreLine scoreDelta
    instructions :=
      [if correct then "ANSWER ACCEPTED" else "WRONG ANSWER",
        if correct then "TEMPORAL RECORDED IT" else "ACTIVITY COMPLETED"] }

/-- The texts of a power-up: headline, detail, instruction. -/
def powerupTexts : ChaosCommand → String × String × String
  | .doublePoints => ("DOUBLE POINTS", "SCORES X2", "TEMPORAL UPDATE APPLIED")
  | .rustOnly => ("RUST ONLY", "10 SECOND FILTER", "TEMPORAL UPDATE APPLIED")
  | .suddenDeath => ("SUDDEN DEATH", "NEXT RIGHT WINS", "TEMPORAL UPDATE APPLIED")
  | .extendThirtySeconds => ("TIME EXTENDED", "+30 SECONDS", "DURABLE TIMER UPDATED")

namespace Canvas

/-- A boot-sequence screen: headline plus its fixed instruction line. -/
def status (c : Canvas) (callsign : String) (status : Firmware.Status) : Canvas :=
  c.centered { callsign, headline := status.headline, detail := ""
               instructions := [status.instruction] }

/-- The screen between two questions. -/
def waiting (c : Canvas) (callsign : String) : Canvas :=
  c.centered { callsign, headline := "POLLING TEMPORAL", detail := "NEXT QUESTION AUTO"
               instructions := ["ANSWER: PRESS DIRECTION", "CRASH: HOLD LEFT+RIGHT",
                 "SLEEP: HOLD DOWN 3 SEC"] }

/-- The screen that announces a power-up. -/
def powerup (c : Canvas) (callsign : String) (command : ChaosCommand) : Canvas :=
  let (headline, detail, instruction) := powerupTexts command
  c.centered { callsign, headline, detail, instructions := [instruction] }

/-- The screen while DOWN is held. -/
def sleepCountdown (c : Canvas) (callsign : String) (seconds : Nat) : Canvas :=
  c.centered { callsign, headline := "SLEEP IN " ++ toString seconds, detail := "POWERING DOWN"
               instructions := ["KEEP HOLDING DOWN", "RELEASE TO CANCEL"] }

/-- The screen before the power goes. -/
def sleeping (c : Canvas) (callsign : String) : Canvas :=
  c.centered { callsign, headline := "SLEEPING", detail := "POWER OFF ARMED"
               instructions := ["RELEASE BUTTON", "ANY BUTTON WAKES"] }

/-- The verdict screen. `scoreDelta` is what Temporal will record. -/
def feedback (c : Canvas) (callsign : String) (correct : Bool) (scoreDelta : Int) : Canvas :=
  c.centered (feedbackScreen callsign correct scoreDelta)

/-- The screen of a crashed worker. -/
def panic (c : Canvas) (callsign : String) : Canvas :=
  c.centered { callsign, headline := "WORKER CRASH", detail := "TEMPORAL HOLDS TASK"
               instructions := ["HEARTBEATS STOPPED", "QUESTION WILL RETRY"] }

/-- The screen after a crash. -/
def recovered (c : Canvas) (callsign : String) : Canvas :=
  c.centered { callsign, headline := "WORKER BACK", detail := "QUESTION RETURNED"
               instructions := ["CONNECTED TO TEMPORAL", "READY FOR NEW QUESTION"] }

/-- The results screen. -/
def results (c : Canvas) (callsign badgeId : String) (snapshot : GameSnapshot) : Canvas :=
  c.centered (BadgeScreen.results callsign badgeId snapshot)

end Canvas

variable {p : Pixel} {y : Nat} {text a b : String}

/-! ## Reading a compact line -/

/-- A glyph that starts in the first two columns of its cell. -/
def Leads (character : Char) : Prop :=
  ∃ row < 5, ∃ column < 2, glyphBit character row column = true

instance (character : Char) : Decidable (Leads character) := by
  unfold Leads
  infer_instance

theorem centerX_compact {count : Nat} (h : count ≤ maxCompactChars) :
    centerX count compactAdvance + 2 * count = 64 := by
  have hmost : maxCompactChars = 31 := rfl
  unfold centerX compactAdvance width
  omega

/-- A line that fits is its cells. -/
theorem compactLineArea_eq (h : text.length ≤ maxCompactChars) :
    compactLineArea y text = cellsArea compactGlyphArea compactAdvance
      (centerX text.length compactAdvance) y text.toList := by
  have hwhole : text.toList.take maxCompactChars = text.toList := by
    apply List.take_of_length_le
    rw [String.length_toList]
    exact h
  unfold compactLineArea
  dsimp only
  rw [hwhole, String.length_toList]

/-- **A pixel of a line is a bit of the glyph in its cell.** -/
theorem mem_compactLineArea (h : text.length ≤ maxCompactChars) (hy : y + compactHeight ≤ height)
    {k row column : Nat} {character : Char} (hget : text.toList[k]? = some character)
    (hrow : row < 5) (hcolumn : column < 3) :
    (centerX text.length compactAdvance + compactAdvance * k + column, y + row)
        ∈ compactLineArea y text
      ↔ glyphBit character row column = true := by
  have hk : k < text.length := by
    have hlt := (List.getElem?_eq_some_iff.mp hget).1
    rwa [String.length_toList] at hlt
  have hfits := compact_fits h hk
  have hon :
      (centerX text.length compactAdvance + compactAdvance * k + column, y + row) ∈ panel := by
    unfold compactWidth at hfits
    unfold compactHeight at hy
    show _ < width ∧ _ < height
    omega
  rw [compactLineArea_eq h]
  constructor
  · rintro ⟨k', character', hget', hp⟩
    have hcell : k' = k := by
      have hbox := compactGlyphArea_subset character' hp
      simp only [box, compactAdvance, compactWidth, Set.mem_ofPred_eq] at hbox
      omega
    subst hcell
    obtain rfl : character = character' := by
      rw [hget] at hget'
      exact Option.some.inj hget'
    exact (mem_compactGlyphArea.mp hp).2.2.1
  · intro hbit
    exact ⟨k, character, hget, mem_compactGlyphArea.mpr ⟨hrow, hcolumn, hbit, hon⟩⟩

/-- Nothing of a line is left of its first cell. -/
theorem centerX_le_of_mem (h : text.length ≤ maxCompactChars) (hp : p ∈ compactLineArea y text) :
    centerX text.length compactAdvance ≤ p.1 := by
  rw [compactLineArea_eq h] at hp
  obtain ⟨k, character, _, hp⟩ := hp
  have hbox := compactGlyphArea_subset character hp
  simp only [box, Set.mem_ofPred_eq] at hbox
  omega

/-- The first glyph of a line tells where the line starts. -/
theorem length_le_of_line (ha : a.length ≤ maxCompactChars) (hb : b.length ≤ maxCompactChars)
    (hy : y + compactHeight ≤ height) {character : Char} {rest : List Char}
    (hfirst : b.toList = character :: rest) (hleads : Leads character)
    (hsub : compactLineArea y b ⊆ compactLineArea y a) : b.length ≤ a.length := by
  obtain ⟨row, hrow, column, hcolumn, hbit⟩ := hleads
  have hget : b.toList[0]? = some character := by rw [hfirst]; rfl
  have hmem := (mem_compactLineArea hb hy hget hrow (by omega)).mpr hbit
  have hleft := centerX_le_of_mem ha (hsub hmem)
  have hstart := centerX_compact ha
  have hstart' := centerX_compact hb
  simp only [Nat.mul_zero, Nat.add_zero] at hleft
  omega

/-- **A line is read off its pixels**: lines that look alike fold alike. -/
theorem fold_eq_of_line (ha : a.length ≤ maxCompactChars) (hb : b.length ≤ maxCompactChars)
    (hy : y + compactHeight ≤ height) {first first' : Char} {rest rest' : List Char}
    (hfirst : a.toList = first :: rest) (hfirst' : b.toList = first' :: rest')
    (hleads : Leads first) (hleads' : Leads first') (hrenderable : Renderable a)
    (hrenderable' : Renderable b) (h : compactLineArea y a = compactLineArea y b) :
    a.toList.map fold = b.toList.map fold := by
  have hlength : a.length = b.length := Nat.le_antisymm
    (length_le_of_line hb ha hy hfirst hleads (Set.Subset.antisymm_iff.mp h).1)
    (length_le_of_line ha hb hy hfirst' hleads' (Set.Subset.antisymm_iff.mp h).2)
  apply List.ext_getElem?
  intro k
  simp only [List.getElem?_map]
  cases hget : a.toList[k]? with
  | none =>
      have hout : b.toList[k]? = none := by
        rw [List.getElem?_eq_none_iff, String.length_toList] at hget ⊢
        omega
      rw [hout]
  | some character =>
      have hk : k < b.toList.length := by
        have hlt := (List.getElem?_eq_some_iff.mp hget).1
        rw [String.length_toList] at hlt ⊢
        omega
      have hget' : b.toList[k]? = some b.toList[k] := List.getElem?_eq_getElem hk
      have hglyph : compactGlyph character = compactGlyph b.toList[k] := by
        apply compactGlyph_ext
        intro row hrow column hcolumn
        have hbit := mem_compactLineArea ha hy hget hrow hcolumn
        have hbit' := mem_compactLineArea hb hy hget' hrow hcolumn
        rw [hlength, h, hbit'] at hbit
        rw [Bool.eq_iff_iff]
        exact hbit.symm
      rw [hget', Option.map_some, Option.map_some]
      exact congrArg some (fold_eq_of_compactGlyph
        (hrenderable character (List.mem_of_getElem? hget))
        (hrenderable' _ (List.getElem_mem hk)) hglyph)

/-- Screens that are drawn alike light the same pixels in each band they
both show. -/
theorem area_eq_of_centered {c c' : Canvas} {screen screen' : Screen} {band : Band}
    (h : (c.centered screen).lit = (c'.centered screen').lit) (hshown : band.Shown screen)
    (hshown' : band.Shown screen') (hrows : band.rows screen = band.rows screen') :
    band.area screen = band.area screen' := by
  ext p
  constructor
  · intro hp
    have hrow := Band.area_rows hp
    rw [← mem_lit_band c hshown hrow, h] at hp
    rw [hrows] at hrow
    exact (mem_lit_band c' hshown' hrow).mp hp
  · intro hp
    have hrow := Band.area_rows hp
    rw [← mem_lit_band c' hshown' hrow, ← h] at hp
    rw [← hrows] at hrow
    exact (mem_lit_band c hshown hrow).mp hp

/-! ## The verdict -/

theorem toList_signed (n : Int) :
    (signed n).toList = (if 0 ≤ n then '+' else '-') :: Nat.toDigits 10 n.natAbs := by
  unfold signed
  rw [String.toList_ofList]

/-- A signed number is read back. -/
theorem signed_injective : Function.Injective signed := by
  intro m n h
  have hchars := congrArg String.toList h
  rw [toList_signed, toList_signed, List.cons.injEq] at hchars
  obtain ⟨hsign, hdigits⟩ := hchars
  have habs := Lib.toDigits_injective hdigits
  split at hsign <;> split at hsign
  · omega
  · cases hsign
  · cases hsign
  · omega

/-- The characters of a score. -/
def scoreAlphabet : List Char :=
  ['S', 'C', 'O', 'R', 'E', ' ', '+', '-', '0', '1', '2', '3', '4', '5', '6', '7', '8', '9']

theorem mem_scoreAlphabet_of_isDigit {c : Char} (h : c.isDigit = true) : c ∈ scoreAlphabet := by
  have hrange : 48 ≤ c.toNat ∧ c.toNat ≤ 57 := Char.isDigit_iff_toNat.mp h
  have htable : ∀ n : Fin 10, Char.ofNat (48 + n) ∈ scoreAlphabet := by decide
  have hoffset := htable ⟨c.toNat - 48, by omega⟩
  have hcode : 48 + (c.toNat - 48) = c.toNat := by omega
  dsimp only at hoffset
  rw [hcode, Char.ofNat_toNat] at hoffset
  exact hoffset

theorem toList_scoreLine (n : Int) :
    (scoreLine n).toList = ['S', 'C', 'O', 'R', 'E', ' '] ++ (signed n).toList := by
  simp [scoreLine]

theorem scoreLine_alphabet {n : Int} {c : Char} (h : c ∈ (scoreLine n).toList) :
    c ∈ scoreAlphabet := by
  rw [toList_scoreLine, toList_signed] at h
  rcases List.mem_append.mp h with hword | hnumber
  · have htable : ['S', 'C', 'O', 'R', 'E', ' '] ⊆ scoreAlphabet := by decide
    exact htable hword
  · rcases List.mem_cons.mp hnumber with rfl | hdigit
    · split <;> decide
    · exact mem_scoreAlphabet_of_isDigit
        (Nat.isDigit_of_mem_toDigits (by decide) (by decide) hdigit)

/-- Folding keeps a score as it is. -/
theorem map_fold_scoreLine (n : Int) : (scoreLine n).toList.map fold = (scoreLine n).toList := by
  have htable : (scoreAlphabet.all fun c => fold c == c) = true := by decide +kernel
  conv_rhs => rw [← List.map_id (scoreLine n).toList]
  apply List.map_congr_left
  intro c hc
  exact beq_iff_eq.mp (List.all_eq_true.mp htable c (scoreLine_alphabet hc))

theorem renderable_scoreLine (n : Int) : Renderable (scoreLine n) := by
  have htable : scoreAlphabet.all isRenderable = true := by decide +kernel
  intro c hc
  exact List.all_eq_true.mp htable c (scoreLine_alphabet hc)

/-- Every score of 32 bits fits the panel. -/
theorem length_scoreLine {n : Int} (hlow : -2 ^ 31 ≤ n) (hhigh : n < 2 ^ 31) :
    (scoreLine n).length ≤ maxCompactChars := by
  have hdigits : (Nat.toDigits 10 n.natAbs).length ≤ 10 := by
    rw [Nat.length_toDigits_le_iff (by decide) (by decide)]
    omega
  rw [← String.length_toList, toList_scoreLine, toList_signed, List.length_append, List.length_cons]
  show 6 + (_ + 1) ≤ 31
  omega

/-- The first instruction tells a right answer from a wrong one. -/
theorem verdictLine_apart {y : Nat} (hy : y + compactHeight ≤ height) :
    compactLineArea y "ANSWER ACCEPTED" ≠ compactLineArea y "WRONG ANSWER" := by
  intro h
  have hfirst : "ANSWER ACCEPTED".toList = 'A' :: "NSWER ACCEPTED".toList := by simp
  have hlength : "ANSWER ACCEPTED".length ≤ "WRONG ANSWER".length :=
    length_le_of_line (by decide) (by decide) hy hfirst (by decide +kernel)
      (Set.Subset.antisymm_iff.mp h).1
  exact absurd hlength (by decide)

section
variable {c c' : Canvas} {callsign : String} {correct correct' : Bool}
  {scoreDelta scoreDelta' : Int}

theorem verdict_eq_of_lit (h : (c.feedback callsign correct scoreDelta).lit
    = (c'.feedback callsign correct' scoreDelta').lit) : correct = correct' := by
  have harea : (Band.instruction 0).area (feedbackScreen callsign correct scoreDelta)
      = (Band.instruction 0).area (feedbackScreen callsign correct' scoreDelta') :=
    area_eq_of_centered h Nat.two_pos Nat.two_pos rfl
  have hline (correct : Bool) (scoreDelta : Int) :
      (Band.instruction 0).area (feedbackScreen callsign correct scoreDelta)
        = compactLineArea (instructionY 2 0)
          (if correct then "ANSWER ACCEPTED" else "WRONG ANSWER") := by
    ext p
    simp [Band.area, feedbackScreen, maxInstructions]
  rw [hline, hline] at harea
  cases correct <;> cases correct'
  · rfl
  · exact absurd harea.symm (verdictLine_apart (by decide))
  · exact absurd harea (verdictLine_apart (by decide))
  · rfl

theorem score_eq_of_lit (hrange : -2 ^ 31 ≤ scoreDelta ∧ scoreDelta < 2 ^ 31)
    (hrange' : -2 ^ 31 ≤ scoreDelta' ∧ scoreDelta' < 2 ^ 31)
    (h : (c.feedback callsign correct scoreDelta).lit
      = (c'.feedback callsign correct' scoreDelta').lit) : scoreDelta = scoreDelta' := by
  have harea : Band.detail.area (feedbackScreen callsign correct scoreDelta)
      = Band.detail.area (feedbackScreen callsign correct' scoreDelta') :=
    area_eq_of_centered h trivial trivial rfl
  have hfold := fold_eq_of_line (length_scoreLine hrange.1 hrange.2)
    (length_scoreLine hrange'.1 hrange'.2) (by decide) (toList_scoreLine scoreDelta)
    (toList_scoreLine scoreDelta') (by decide +kernel) (by decide +kernel)
    (renderable_scoreLine scoreDelta) (renderable_scoreLine scoreDelta') harea
  rw [map_fold_scoreLine, map_fold_scoreLine, toList_scoreLine, toList_scoreLine] at hfold
  exact signed_injective (String.toList_inj.mp (List.append_cancel_left hfold))

end

/-- **The verdict is read off the screen.** Feedback screens that light
the same pixels give the same verdict and the same score, over the whole
range of a 32-bit score and whatever the canvases held before. -/
theorem feedback_legible (c c' : Canvas) (callsign : String) (correct correct' : Bool)
    (scoreDelta scoreDelta' : Int) (hrange : -2 ^ 31 ≤ scoreDelta ∧ scoreDelta < 2 ^ 31)
    (hrange' : -2 ^ 31 ≤ scoreDelta' ∧ scoreDelta' < 2 ^ 31) :
    (c.feedback callsign correct scoreDelta).lit = (c'.feedback callsign correct' scoreDelta').lit
      ↔ correct = correct' ∧ scoreDelta = scoreDelta' := by
  constructor
  · intro h
    exact ⟨verdict_eq_of_lit h, score_eq_of_lit hrange hrange' h⟩
  · rintro ⟨rfl, rfl⟩
    ext p
    unfold Canvas.feedback
    rw [mem_lit_centered, mem_lit_centered]

theorem feedback_legible_double :
    (Canvas.new.feedback "BRAVE-CRAB-C8" true 2).lit
      ≠ (Canvas.new.feedback "BRAVE-CRAB-C8" true 1).lit := by
  intro h
  have hscore := ((feedback_legible Canvas.new Canvas.new "BRAVE-CRAB-C8" true true 2 1
    (by decide) (by decide)).mp h).2
  cases hscore

/-! ## Whose controls they are -/

end DurableTrivia.BadgeScreen

import DurableTrivia.Firmware.Session

/-!
# SessionJson — a session as the text in its blob

What the store needs of `serde_json` is that a session it wrote reads
back (`SessionCodec`). `sessionJson` is such a codec: the object with
the three fields in order, strings in quotes with `"` and `\` escaped,
numbers in decimal. It writes what `serde_json` writes for ids without
control characters, and reads only what it writes.
-/

namespace DurableTrivia.Firmware

/-- `serde_json` between sessions and blobs. What is written reads back. -/
structure SessionCodec (Blob : Type*) where
  toVec : PersistedSession → Blob
  fromSlice : Blob → Option PersistedSession
  round_trip : ∀ session, fromSlice (toVec session) = some session

namespace SessionJson

/-! ## Strings -/

/-- A character inside a JSON string. -/
def escape (c : Char) : List Char := if c = '"' ∨ c = '\\' then ['\\', c] else [c]

/-- A JSON string. -/
def writeString (text : String) : List Char := '"' :: text.toList.flatMap escape ++ ['"']

/-- The characters up to the closing quote, and what follows it. -/
def readChars : List Char → Option (List Char × List Char)
  | [] => none
  | '"' :: rest => some ([], rest)
  | '\\' :: c :: rest => (readChars rest).map fun result => (c :: result.1, result.2)
  | c :: rest => (readChars rest).map fun result => (c :: result.1, result.2)

/-- A JSON string, and the text behind it. -/
def readString : List Char → Option (String × List Char)
  | '"' :: rest => (readChars rest).map fun result => (String.ofList result.1, result.2)
  | _ => none

theorem readChars_escape (chars rest : List Char) :
    readChars (chars.flatMap escape ++ '"' :: rest) = some (chars, rest) := by
  induction chars with
  | nil => simp [readChars]
  | cons c chars ih =>
      rw [List.flatMap_cons, List.append_assoc]
      by_cases hescaped : c = '"' ∨ c = '\\'
      · rw [escape, if_pos hescaped]
        simp [readChars, ih]
      · have hquote : c ≠ '"' := fun h => hescaped (.inl h)
        have hslash : c ≠ '\\' := fun h => hescaped (.inr h)
        rw [escape, if_neg hescaped, List.singleton_append, readChars]
        · rw [ih]
          rfl
        · intro h
          exact hquote h
        · intro d rest' h
          exact absurd h hslash

theorem readString_write (text : String) (rest : List Char) :
    readString (writeString text ++ rest) = some (text, rest) := by
  have htext : writeString text ++ rest = '"' :: (text.toList.flatMap escape ++ '"' :: rest) := by
    simp [writeString]
  rw [htext, readString, readChars_escape]
  simp

/-! ## Lists of strings -/

/-- The items behind the first one, and the closing bracket. -/
def writeItems : List String → List Char
  | [] => [']']
  | text :: texts => ',' :: writeString text ++ writeItems texts

/-- A JSON array of strings. -/
def writeList : List String → List Char
  | [] => ['[', ']']
  | text :: texts => '[' :: writeString text ++ writeItems texts

/-- `fuel` bounds the number of items. -/
def readItems : Nat → List Char → Option (List String × List Char)
  | _, ']' :: rest => some ([], rest)
  | fuel + 1, ',' :: rest =>
      (readString rest).bind fun first =>
        (readItems fuel first.2).map fun others => (first.1 :: others.1, others.2)
  | _, _ => none

/-- A JSON array of strings, and the text behind it. -/
def readList (text : List Char) : Option (List String × List Char) :=
  match text with
  | '[' :: ']' :: rest => some ([], rest)
  | '[' :: rest =>
      (readString rest).bind fun first =>
        (readItems text.length first.2).map fun others => (first.1 :: others.1, others.2)
  | _ => none

theorem readItems_write (texts : List String) (rest : List Char) {fuel : Nat}
    (hfuel : texts.length ≤ fuel) :
    readItems fuel (writeItems texts ++ rest) = some (texts, rest) := by
  induction texts generalizing fuel with
  | nil => cases fuel <;> simp [writeItems, readItems]
  | cons text texts ih =>
      cases fuel with
      | zero => simp at hfuel
      | succ fuel =>
          have htext : writeItems (text :: texts) ++ rest
              = ',' :: (writeString text ++ (writeItems texts ++ rest)) := by
            simp [writeItems]
          rw [htext, readItems, readString_write, Option.bind_some, ih (by simpa using hfuel)]
          rfl

theorem length_le_writeItems (texts : List String) : texts.length ≤ (writeItems texts).length := by
  induction texts with
  | nil => simp
  | cons text texts ih =>
      simp only [writeItems, List.cons_append, List.length_cons, List.length_append]
      omega

theorem readList_write (texts : List String) (rest : List Char) :
    readList (writeList texts ++ rest) = some (texts, rest) := by
  cases texts with
  | nil => simp [writeList, readList]
  | cons text texts =>
      have hfuel := length_le_writeItems texts
      have htext : writeList (text :: texts) ++ rest
          = '[' :: '"' :: (text.toList.flatMap escape ++ '"' :: (writeItems texts ++ rest)) := by
        simp [writeList, writeString]
      have hread :
          readString ('"' :: (text.toList.flatMap escape ++ '"' :: (writeItems texts ++ rest)))
          = some (text, writeItems texts ++ rest) := by
        rw [readString, readChars_escape]
        simp
      rw [htext, readList]
      · rw [hread, Option.bind_some, readItems_write texts rest (by simp; omega)]
        rfl
      · intro rest' h
        simp at h

/-! ## Numbers -/

/-- A number, and the text behind it. -/
def readNat (text : List Char) : Nat × List Char :=
  (Nat.ofDigitChars 10 (text.takeWhile Char.isDigit) 0, text.dropWhile Char.isDigit)

theorem readNat_write (n : Nat) {c : Char} (hc : c.isDigit = false) (rest : List Char) :
    readNat (Nat.toDigits 10 n ++ c :: rest) = (n, c :: rest) := by
  have hdigits : ∀ d ∈ Nat.toDigits 10 n, d.isDigit = true := fun d hd =>
    Nat.isDigit_of_mem_toDigits (by decide) (by decide) hd
  unfold readNat
  rw [List.takeWhile_append_of_pos hdigits, List.dropWhile_append_of_pos hdigits]
  simp [hc, Nat.ofDigitChars_toDigits]

/-! ## Sessions -/

/-- The session as JSON. -/
def writeSession (session : PersistedSession) : List Char :=
  "\x7b\"game_id\":".toList ++ (writeString session.gameId
    ++ (",\"deadline_unix_ms\":".toList ++ (Nat.toDigits 10 session.deadlineUnixMs
      ++ (",\"abandoned_questions\":".toList
        ++ (writeList session.abandonedQuestions ++ ['\x7d'])))))

/-- What follows a fixed text. -/
def skip (expected text : List Char) : Option (List Char) :=
  if expected <+: text then some (text.drop expected.length) else none

theorem skip_append (expected rest : List Char) : skip expected (expected ++ rest) = some rest := by
  unfold skip
  rw [if_pos (List.prefix_append _ _), List.drop_left]

/-- The session a JSON text holds. -/
def readSession (text : List Char) : Option PersistedSession := do
  let (gameId, text) ← readString (← skip "\x7b\"game_id\":".toList text)
  let (deadlineUnixMs, text) := readNat (← skip ",\"deadline_unix_ms\":".toList text)
  let (abandonedQuestions, text) ← readList (← skip ",\"abandoned_questions\":".toList text)
  if text = ['\x7d'] then some { gameId, deadlineUnixMs, abandonedQuestions } else none

/-- **A session reads back from its text.** -/
theorem readSession_write (session : PersistedSession) :
    readSession (writeSession session) = some session := by
  have hnumber : ∀ rest, readNat (Nat.toDigits 10 session.deadlineUnixMs
      ++ (",\"abandoned_questions\":".toList ++ rest))
      = (session.deadlineUnixMs, ",\"abandoned_questions\":".toList ++ rest) :=
    fun rest => readNat_write session.deadlineUnixMs (c := ',') (by decide) _
  unfold readSession writeSession
  simp only [skip_append, readString_write, hnumber, readList_write, Option.bind_eq_bind,
    Option.bind_some, if_true]

end SessionJson

/-- The text of a session. -/
def sessionJson : SessionCodec (List Char) where
  toVec := SessionJson.writeSession
  fromSlice := SessionJson.readSession
  round_trip := SessionJson.readSession_write

end DurableTrivia.Firmware

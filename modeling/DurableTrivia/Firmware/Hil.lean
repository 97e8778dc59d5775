import DurableTrivia.Lib.Bytes
import DurableTrivia.Lib.Framing
import DurableTrivia.Shared.Contract
import DurableTrivia.Shared.Text

/-!
# Hil — the command reader of the acceptance image

`read_commands` and `handle_command` of `firmware/src/hil.rs`. The reader
collects a command byte by byte and hands it on at a line ending; a byte
that would not fit empties the command and is dropped itself. Against
`Lib.Framing` its commands are the leftovers of the stream's lines, so
the end of a line that is too long is handled as a line of its own.
-/

namespace DurableTrivia.Firmware

open DurableTrivia.Shared DurableTrivia.Lib

/-- Bytes of a command line at most. -/
def maxCommandBytes : Nat := 96

/-- `std::str::from_utf8`. -/
def fromUtf8 (bytes : List UInt8) : Option String := String.fromUTF8? bytes.toByteArray

/-- `*byte == b'\n' || *byte == b'\r'`. -/
def endsLine (byte : UInt8) : Bool := byte == 10 || byte == 13

/-! ## Reading -/

/-- What `stdin.read` returns. -/
inductive Read where
  | bytes (chunk : List UInt8)
  | wouldBlock
  | failed

/-- The command so far, and the lines handed to `handle_command`. -/
structure Reader where
  command : List UInt8 := []
  handled : List String := []

namespace Reader

/-- One byte: it ends the command, or extends it; one too many drops it. -/
def byte (r : Reader) (byte : UInt8) : Reader :=
  if endsLine byte then
    if r.command.isEmpty then r
    else
      match fromUtf8 r.command with
      | some line =>
          { command := [], handled := r.handled ++ [String.ofList (trim line.toList)] }
      | none => { r with command := [] }
  else if r.command.length < maxCommandBytes then { r with command := r.command ++ [byte] }
  else { r with command := [] }

/-- One read; an error and an empty read leave the line as it is. -/
def read (r : Reader) : Read → Reader
  | .bytes chunk => chunk.foldl byte r
  | .wouldBlock | .failed => r

end Reader

/-- The reader after some reads. -/
def readCommands (reads : List Read) : Reader := reads.foldl Reader.read {}

/-! ## Handling -/

/-- What a handled line does. -/
inductive HilReply where
  | status (active : Bool) (question : String)
  | crash
  | answer (index : UInt8)
  | reject (reason : String)
  | ignored
  deriving DecidableEq, Repr

/-- `str::parse::<u8>`: decimal digits, behind a plus sign or not. -/
def parseByte (text : List Char) : Option UInt8 :=
  let digits := if text.head? = some '+' then text.tail else text
  if digits.isEmpty || !digits.all Char.isDigit then none
  else
    let n := digits.foldl (fun n c => n * 10 + (c.toNat - '0'.toNat)) 0
    if n < 256 then some (UInt8.ofNat n) else none

/-- The argument of `HIL ANSWER`. -/
def answerIndex (argument : List Char) (task : QuestionTask) : Option UInt8 :=
  if argument = "CORRECT".toList then some task.question.correctIndex
  else (parseByte argument).filter (· ≤ 3)

/-- The answer to a line. -/
def handleCommand (line : String) (activityActive : Bool) (currentQuestion : Option QuestionTask) :
    HilReply :=
  if line = "HIL STATUS" then
    .status activityActive ((currentQuestion.map (·.question.id)).getD "none")
  else if line = "HIL CRASH" then
    if activityActive then .crash else .reject "no-active-question"
  else if "HIL ANSWER ".toList.isPrefixOf line.toList then
    if !activityActive then .reject "no-active-question"
    else
      match currentQuestion with
      | none => .reject "no-current-question"
      | some task =>
          match answerIndex (line.toList.drop "HIL ANSWER ".toList.length) task with
          | some index => .answer index
          | none => .reject "answer-must-be-CORRECT-or-0-through-3"
  else if "HIL".toList.isPrefixOf line.toList then .reject "unknown-command"
  else .ignored

/-! ## The commands of a stream -/

/-- The bytes the reads delivered. -/
def stream (reads : List Read) : List UInt8 :=
  reads.flatMap fun
    | .bytes chunk => chunk
    | .wouldBlock | .failed => []

/-- What a command hands on: nothing when it is empty or not UTF-8. -/
def accepted (command : List UInt8) : Option String :=
  if command.isEmpty then none
  else (fromUtf8 command).map fun line => String.ofList (trim line.toList)

/-- The complete, non-empty, valid lines of a stream that fit, trimmed. -/
def wholeLines (bytes : List UInt8) : List String :=
  (Framing.lines endsLine bytes).filterMap fun line =>
    if line.length ≤ maxCommandBytes then accepted line else none

/-- What is left of a line after its whole groups of 97 bytes is nothing,
or no text. -/
def TailLost (line : List UInt8) : Prop :=
  line.drop (97 * (line.length / 97)) = [] ∨ fromUtf8 (line.drop (97 * (line.length / 97))) = none

theorem fromUtf8_utf8Bytes (text : String) : fromUtf8 (utf8Bytes text) = some text := by
  have hbytes : (utf8Bytes text).toByteArray = text.toByteArray := by
    apply ByteArray.ext
    rw [List.data_toByteArray]
    exact Array.toArray_toList
  unfold fromUtf8 String.fromUTF8?
  rw [hbytes, dif_pos text.isValidUTF8]
  rfl

theorem accepted_eq_none {command : List UInt8} :
    accepted command = none ↔ command = [] ∨ fromUtf8 command = none := by
  unfold accepted
  cases command with
  | nil => simp
  | cons byte command => simp

namespace Reader

/-- A byte is fed to the buffer, and a frame it ends is handed on. -/
theorem byte_eq (r : Reader) (b : UInt8) :
    r.byte b = { command := (Framing.feed endsLine maxCommandBytes r.command b).1
                 handled := r.handled
                   ++ (Framing.feed endsLine maxCommandBytes r.command b).2.toList.filterMap
                     accepted } := by
  unfold byte Framing.feed
  by_cases hend : endsLine b = true
  · rw [if_pos hend, if_pos hend]
    cases hcommand : r.command with
    | nil =>
        obtain ⟨command, handled⟩ := r
        cases hcommand
        simp [accepted]
    | cons first rest =>
        cases hline : fromUtf8 (first :: rest) with
        | none => simp [accepted, hline]
        | some line => simp [accepted, hline]
  · rw [if_neg hend, if_neg hend]
    by_cases hroom : r.command.length < maxCommandBytes
    · rw [if_pos hroom, if_pos hroom]
      simp
    · rw [if_neg hroom, if_neg hroom]
      simp

/-- Reading a stretch of the stream hands on its frames. -/
theorem foldl_byte (bytes : List UInt8) (r : Reader) :
    (bytes.foldl byte r).handled
      = r.handled
        ++ (Framing.frames endsLine maxCommandBytes r.command bytes).filterMap accepted := by
  induction bytes generalizing r with
  | nil => simp [Framing.frames]
  | cons b bytes ih =>
      rw [List.foldl_cons, ih, byte_eq, Framing.frames, List.filterMap_append, List.append_assoc]

/-- **Where the reads cut the stream makes no difference.** -/
theorem readCommands_eq (reads : List Read) :
    readCommands reads = (stream reads).foldl byte {} := by
  have hfrom : ∀ r : Reader, reads.foldl read r = (stream reads).foldl byte r := by
    induction reads with
    | nil => exact fun _ => rfl
    | cons next reads ih =>
        intro r
        rw [List.foldl_cons, ih, stream, stream, List.flatMap_cons, List.foldl_append]
        cases next with
        | bytes chunk => rfl
        | wouldBlock | failed => rfl
  exact hfrom {}

/-- **What is handled are the leftovers of the lines.** -/
theorem handled_eq (reads : List Read) :
    (readCommands reads).handled
      = (Framing.lines endsLine (stream reads)).filterMap fun line =>
          accepted (Framing.leftover maxCommandBytes line) := by
  rw [readCommands_eq, foldl_byte, List.nil_append, Framing.frames_eq, List.filterMap_map]
  rfl

end Reader

/-- **The reader executes whole lines only, exactly when every line that is
too long loses its tail**, too. -/
theorem whole_lines_iff (reads : List Read) :
    (readCommands reads).handled = wholeLines (stream reads)
      ↔ ∀ line ∈ Framing.lines endsLine (stream reads),
        maxCommandBytes < line.length → TailLost line := by
  have hwhole : wholeLines (stream reads)
      = (Framing.lines endsLine (stream reads)).filterMap fun line =>
          if line.length ≤ maxCommandBytes then accepted (Framing.leftover maxCommandBytes line)
          else none := by
    apply List.filterMap_congr
    intro line _
    by_cases hfits : line.length ≤ maxCommandBytes
    · rw [if_pos hfits, if_pos hfits, Framing.leftover_of_fits hfits]
    · rw [if_neg hfits, if_neg hfits]
  rw [Reader.handled_eq, hwhole, Framing.filterMap_guarded_iff]
  refine forall₂_congr fun line _ => ?_
  rw [Nat.not_le, accepted_eq_none]
  rfl

/-- A command behind 97 bytes of the same line. -/
def overlongLine : List UInt8 := List.replicate 97 120 ++ utf8Bytes "HIL CRASH"

/-- A line that is too long, cut by an empty read. -/
def overlongReads : List Read :=
  [.bytes (overlongLine.take 64), .wouldBlock, .bytes (overlongLine.drop 64 ++ [10])]

theorem lines_overlong : Framing.lines endsLine (stream overlongReads) = [overlongLine] := by
  have hstream : stream overlongReads = overlongLine ++ 10 :: [] := by
    show overlongLine.take 64 ++ ([] ++ (overlongLine.drop 64 ++ [10] ++ [])) = _
    rw [List.append_nil, List.nil_append, ← List.append_assoc, List.take_append_drop]
  have hopen : ∀ byte ∈ overlongLine, endsLine byte = false := by decide +kernel
  rw [hstream, Framing.lines_of_ended hopen rfl]
  rfl

/-- **The end of a line that is too long crashes the badge.** -/
theorem overlong_line_executed :
    (¬ ∀ reads, (readCommands reads).handled = wholeLines (stream reads))
      ∧ (readCommands overlongReads).handled = ["HIL CRASH"]
      ∧ handleCommand "HIL CRASH" true none = .crash := by
  have htail : Framing.leftover maxCommandBytes overlongLine = utf8Bytes "HIL CRASH" := by
    decide +kernel
  have haccepted : accepted (utf8Bytes "HIL CRASH") = some "HIL CRASH" := by
    unfold accepted
    rw [fromUtf8_utf8Bytes, if_neg (by decide +kernel)]
    decide
  have hhandled : (readCommands overlongReads).handled = ["HIL CRASH"] := by
    rw [Reader.handled_eq, lines_overlong, List.filterMap_cons, htail, haccepted]
    rfl
  have hwhole : wholeLines (stream overlongReads) = [] := by
    rw [wholeLines, lines_overlong, List.filterMap_cons, if_neg (by decide +kernel)]
    rfl
  refine ⟨?_, hhandled, by decide⟩
  intro hclaim
  have h := hclaim overlongReads
  rw [hhandled, hwhole] at h
  cases h

end DurableTrivia.Firmware

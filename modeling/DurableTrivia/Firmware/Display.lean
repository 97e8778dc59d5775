import DurableTrivia.Firmware.Matrix
import DurableTrivia.BadgeScreen.Screens

/-!
# Display — the OLED behind a canvas

`firmware/src/display.rs`: a screen is composed on the canvas and the
canvas is pushed to the panel, two window commands in one packet and 64
chunks of 16 bytes. A flush that goes through leaves the canvas on the
glass, whatever an earlier one that broke off left there (`flush_shows`):
only when a packet broke off inside a command, the panel takes the next
window for the rest of it. No transfer to the OLED reaches the LED matrix,
and none to the matrix the OLED.
-/

namespace DurableTrivia.Firmware

open DurableTrivia.Lib DurableTrivia.Shared DurableTrivia.BadgeScreen

/-! ## Transfers -/

/-- The longest packet the driver sends. -/
def maxPacket : Nat := 32

/-- Bytes of the frame in a packet. -/
def frameChunk : Nat := 16

/-- The raw framebuffer, ready to hand to the panel unaltered. -/
def bits (canvas : Canvas) : List UInt8 := canvas.buffer.toList

/-- A packet of commands, refused where it is too long for the driver. -/
def command (commands : List UInt8) : Driver Wires :=
  if commands.length + 1 > maxPacket then Driver.refuse
  else Driver.write i2c (oledAddress, 0x00 :: commands)

/-- What a new display sends first. -/
def startCommands : List UInt8 :=
  [0xae, 0xd5, 0x80, 0xa8, 0x3f, 0xd3, 0x00, 0x40, 0x8d, 0x14, 0x20, 0x00, 0xa1, 0xc8, 0xda, 0x12,
    0x81, 0x50, 0xd9, 0xf1, 0xdb, 0x40, 0xa4, 0xa6, 0xaf]

/-- The cursor is sent to the first byte of the whole panel. -/
def windowCommands : List UInt8 := [0x21, 0, UInt8.ofNat (width - 1), 0x22, 0, 7]

/-- Set the window to the whole panel, then send the frame in chunks. -/
def flush (canvas : Canvas) : Driver Wires :=
  (command windowCommands).andThen
    (Driver.each (fun chunk => Driver.write i2c (oledAddress, 0x40 :: chunk))
      (chunks frameChunk (bufferLen / frameChunk) (bits canvas)))

/-! ## The display -/

/-- The canvas and the LED matrix. -/
structure BadgeDisplay where
  canvas : Canvas := Canvas.new
  /-- absent when the matrix could not be started -/
  matrix : Option LedMatrix

namespace BadgeDisplay

/-- What an operation of the display does, and whether it succeeds. -/
abbrev Outcome := Bool × BadgeDisplay × Bus Wires

variable (display : BadgeDisplay) (bus : Bus Wires)

/-- The common part of the screens: compose, then flush. -/
def paint (compose : Canvas → Canvas) : Outcome :=
  let canvas := compose display.canvas
  let (ok, bus) := flush canvas bus
  (ok, { display with canvas }, bus)

/-- The status screen. -/
def showStatus (callsign : String) (status : Status) : Outcome :=
  display.paint bus (·.status callsign status)

/-- The screen between two questions. -/
def showWaiting (callsign : String) : Outcome := display.paint bus (·.waiting callsign)

/-- The screen that announces a power-up. -/
def showPowerup (callsign : String) (command : ChaosCommand) : Outcome :=
  display.paint bus (·.powerup callsign command)

/-- The screen while DOWN is held. -/
def showSleepCountdown (callsign : String) (seconds : Nat) : Outcome :=
  display.paint bus (·.sleepCountdown callsign seconds)

/-- The screen before the power goes. -/
def showSleeping (callsign : String) : Outcome := display.paint bus (·.sleeping callsign)

/-- The question's screen. -/
def showQuestion (callsign : String) (question : Question) : Outcome :=
  display.paint bus (·.question callsign question)

/-- `scoreDelta` is the value Temporal will record. -/
def showFeedback (callsign : String) (correct : Bool) (scoreDelta : Int) (now : Nat) : Outcome :=
  match display.paint bus (·.feedback callsign correct scoreDelta) with
  | (true, display, bus) =>
      match display.matrix with
      | some matrix =>
          let (ok, matrix, bus) := matrix.startFeedback correct now bus
          (ok, { display with matrix := some matrix }, bus)
      | none => (true, display, bus)
  | (false, display, bus) => (false, display, bus)

/-- The LED matrix's turn of the loop. -/
def advanceFeedback (now : Nat) : Outcome :=
  match display.matrix with
  | some matrix =>
      let (ok, matrix, bus) := matrix.advance now bus
      (ok, { display with matrix := some matrix }, bus)
  | none => (true, display, bus)

/-- The screen of a crashed worker. -/
def showPanic (callsign : String) : Outcome := display.paint bus (·.panic callsign)

/-- The screen after a crash. -/
def showRecovered (callsign : String) : Outcome := display.paint bus (·.recovered callsign)

/-- The results screen. -/
def showResults (callsign badgeId : String) (snapshot : GameSnapshot) : Outcome :=
  display.paint bus (·.results callsign badgeId snapshot)

/-- The matrix goes dark before the OLED does. -/
def clearMatrix : Outcome :=
  match display.matrix with
  | some matrix =>
      let (ok, matrix, bus) := matrix.clear bus
      (ok, { display with matrix := some matrix }, bus)
  | none => (true, display, bus)

/-- Clear the matrix and the screen, then switch the panel off; the first
error ends it. -/
def powerOff : Outcome :=
  match display.clearMatrix bus with
  | (true, display, bus) =>
      match display.paint bus (·.clear) with
      | (true, display, bus) =>
          let (ok, bus) := command [0xae] bus
          (ok, display, bus)
      | (false, display, bus) => (false, display, bus)
  | (false, display, bus) => (false, display, bus)

end BadgeDisplay

/-- A display as `new` leaves it; without a matrix when that cannot be
started. -/
def BadgeDisplay.new (bus : Bus Wires) : BadgeDisplay.Outcome :=
  match command startCommands bus with
  | (true, bus) =>
      match initializeMatrix bus with
      | (true, bus) => (true, { matrix := some {} }, bus)
      | (false, bus) => (true, { matrix := none }, bus)
  | (false, bus) => (false, { matrix := none }, bus)

/-! ## What the panel is told -/

namespace Oled

variable {cuts : Nat} {oled : Oled}

/-- No command has more than two arguments. -/
theorem arguments_le_two (command : Nat) : arguments command ≤ 2 := by
  unfold arguments
  split
  · decide
  · split <;> decide

/-- A command the panel waits in the middle of: it, or it and one argument. -/
theorem pending_cases (oled : Oled) :
    oled.pending = [] ∨ (∃ code, oled.pending = [code])
      ∨ ∃ code first, oled.pending = [code, first] := by
  have hshort := Nat.le_trans oled.short (arguments_le_two _)
  match hpending : oled.pending with
  | [] => exact .inl rfl
  | [code] => exact .inr (.inl ⟨code, rfl⟩)
  | [code, first] => exact .inr (.inr ⟨code, first, rfl⟩)
  | code :: first :: second :: rest =>
      rw [hpending] at hshort
      simp only [List.length_cons] at hshort
      omega

@[simp] theorem carryOut_pending (oled : Oled) (code : List Nat) :
    (oled.carryOut code).pending = [] := rfl

@[simp] theorem carryOut_cuts (oled : Oled) (code : List Nat) :
    (oled.carryOut code).cuts = oled.cuts := by
  unfold carryOut obey
  dsimp only
  split <;> first | rfl | (split <;> rfl)

@[simp] theorem command_cuts (oled : Oled) (byte : UInt8) :
    (oled.command byte).cuts = oled.cuts := by
  unfold command
  dsimp only
  split
  · rfl
  · exact carryOut_cuts oled _

/-- A byte behind which the command is still short. -/
theorem command_owed {byte : UInt8} (howed : (oled.pending ++ [byte.toNat]).length
    ≤ arguments ((oled.pending ++ [byte.toNat]).headD 0)) :
    oled.command byte
      = { oled with pending := oled.pending ++ [byte.toNat], short := howed } := by
  unfold command
  exact dif_pos howed

theorem foldl_command_cuts (oled : Oled) (bytes : List UInt8) :
    (bytes.foldl command oled).cuts = oled.cuts := by
  induction bytes generalizing oled with
  | nil => rfl
  | cons byte bytes ih => exact (ih (oled.command byte)).trans (command_cuts oled byte)

/-- What was owed before a command does not change what it does. -/
theorem carryOut_owing (oled : Oled) {owed : List Nat}
    (hshort : owed.length ≤ arguments (owed.headD 0)) (code : List Nat) :
    Oled.carryOut { oled with pending := owed, short := hshort } code = oled.carryOut code := by
  unfold carryOut obey
  dsimp only
  split <;> first | rfl | (split <;> rfl)

/-- **The rest of a command that is owed** carries it out. -/
theorem foldl_command_owed {more : List UInt8} (rest : List UInt8)
    (hwhole : (oled.pending ++ more.map UInt8.toNat).length
      = arguments ((oled.pending ++ more.map UInt8.toNat).headD 0) + 1) :
    (more ++ rest).foldl command oled
      = rest.foldl command (oled.carryOut (oled.pending ++ more.map UInt8.toNat)) := by
  induction more generalizing oled with
  | nil =>
      have hshort := oled.short
      simp only [List.map_nil, List.append_nil] at hwhole
      omega
  | cons byte more ih =>
      have hsplit : oled.pending ++ (byte :: more).map UInt8.toNat
          = (oled.pending ++ [byte.toNat]) ++ more.map UInt8.toNat := by simp
      have hhead : ((oled.pending ++ [byte.toNat]) ++ more.map UInt8.toNat).headD 0
          = (oled.pending ++ [byte.toNat]).headD 0 := by
        cases oled.pending <;> rfl
      rw [hsplit] at hwhole ⊢
      rw [hhead, List.length_append, List.length_map] at hwhole
      rw [List.cons_append, List.foldl_cons]
      cases more with
      | nil =>
          have hdone : ¬ (oled.pending ++ [byte.toNat]).length
              ≤ arguments ((oled.pending ++ [byte.toNat]).headD 0) := by
            simp only [List.length_nil, Nat.add_zero] at hwhole
            omega
          unfold command
          simp only [dif_neg hdone, List.nil_append, List.map_nil, List.append_nil]
      | cons next more =>
          have howed : (oled.pending ++ [byte.toNat]).length
              ≤ arguments ((oled.pending ++ [byte.toNat]).headD 0) := by
            rw [List.length_cons] at hwhole
            omega
          rw [command_owed howed, ih, carryOut_owing]
          show (_ ++ _ : List Nat).length = arguments ((_ ++ _ : List Nat).headD 0) + 1
          rw [hhead, List.length_append, List.length_map]
          exact hwhole

/-- **Whole commands** are carried out one after the other. -/
theorem foldl_commands (hpending : oled.pending = []) {codes : List (List UInt8)}
    (hwhole : ∀ code ∈ codes, code.length = arguments ((code.headD 0).toNat) + 1) :
    codes.flatten.foldl command oled
      = codes.foldl (fun oled code => oled.carryOut (code.map UInt8.toNat)) oled := by
  induction codes generalizing oled with
  | nil => rfl
  | cons code codes ih =>
      have hcode := hwhole code List.mem_cons_self
      rw [List.flatten_cons, foldl_command_owed, hpending, List.nil_append, List.foldl_cons]
      · exact ih rfl fun other hother => hwhole other (List.mem_cons_of_mem _ hother)
      · rw [hpending, List.nil_append, List.length_map, hcode]
        cases code with
        | nil => simp at hcode
        | cons byte code => rfl

/-- The panel is on, takes data across, and waits for a window at most. -/
structure Listens (oled : Oled) : Prop where
  on : oled.on = true
  mode : oled.mode = 0
  window : oled.pending = [] ∨ oled.pending.headD 0 = 0x21 ∨ oled.pending.headD 0 = 0x22

/-- A byte of a window packet, wherever it falls. -/
theorem Listens.command (h : oled.Listens) {byte : UInt8} (hbyte : byte ∈ windowCommands) :
    (oled.command byte).Listens := by
  obtain ⟨hon, hmode, hwindow⟩ := h
  simp only [windowCommands, width, List.mem_cons, List.not_mem_nil, or_false] at hbyte
  rcases oled.pending_cases with hpending | ⟨code, hpending⟩ | ⟨code, first, hpending⟩
  · rcases hbyte with rfl | rfl | rfl | rfl | rfl | rfl <;>
      constructor <;> simp [Oled.command, hpending, arguments, carryOut, obey, hon, hmode]
  · rw [hpending] at hwindow
    rcases hwindow with hempty | rfl | rfl
    · cases hempty
    · constructor <;> simp [Oled.command, hpending, arguments, hon, hmode]
    · constructor <;> simp [Oled.command, hpending, arguments, hon, hmode]
  · rw [hpending] at hwindow
    rcases hwindow with hempty | rfl | rfl
    · cases hempty
    · constructor <;> simp [Oled.command, hpending, arguments, carryOut, obey, hon, hmode]
    · constructor <;> simp [Oled.command, hpending, arguments, carryOut, obey, hon, hmode]

theorem Listens.foldl (h : oled.Listens) {bytes : List UInt8}
    (hbytes : ∀ byte ∈ bytes, byte ∈ windowCommands) : (bytes.foldl Oled.command oled).Listens := by
  induction bytes generalizing oled with
  | nil => exact h
  | cons byte bytes ih =>
      have hfirst := hbytes byte List.mem_cons_self
      exact ih (h.command hfirst) fun other hother => hbytes other (List.mem_cons_of_mem _ hother)

/-- A command it waits for has two arguments. -/
theorem Listens.owes_window (h : oled.Listens) {code : Nat} {given : List Nat}
    (hpending : oled.pending = code :: given) : arguments code = 2 := by
  have hwindow := h.window
  rw [hpending] at hwindow
  rcases hwindow with hempty | rfl | rfl
  · cases hempty
  · rfl
  · rfl

/-- **A whole window packet** leaves nothing to wait for: what is still
owed to an earlier command is taken from its beginning. -/
theorem Listens.pending_window (h : oled.Listens) :
    (windowCommands.foldl Oled.command oled).pending = [] := by
  rcases oled.pending_cases with hpending | ⟨code, hpending⟩ | ⟨code, first, hpending⟩
  · rw [show windowCommands = [[0x21, 0, 0x7f], [0x22, 0, 7]].flatten from rfl,
      foldl_commands hpending (by decide)]
    rfl
  · have hcode := h.owes_window hpending
    rw [show windowCommands = [0x21, 0] ++ [[0x7f], [0x22, 0, 7]].flatten from rfl,
      foldl_command_owed _ (by simp [hpending, hcode]), foldl_commands rfl (by decide)]
    rfl
  · have hcode := h.owes_window hpending
    rw [show windowCommands = [0x21] ++ [[0], [0x7f], [0x22, 0, 7]].flatten from rfl,
      foldl_command_owed _ (by simp [hpending, hcode]), foldl_commands rfl (by decide)]
    rfl

/-- The window packet where nothing is owed. -/
theorem foldl_window (hpending : oled.pending = []) :
    windowCommands.foldl Oled.command oled
      = (oled.carryOut [0x21, 0, 0x7f]).carryOut [0x22, 0, 7] := by
  rw [show windowCommands = [[0x21, 0, 0x7f], [0x22, 0, 7]].flatten from rfl,
    foldl_commands hpending (by decide)]
  rfl

theorem carryOut_columns (oled : Oled) (first last : Nat) :
    oled.carryOut [0x21, first, last]
      = { oled with
          columnStart := first % 128, columnEnd := last % 128, column := first % 128, pending := []
          short := Nat.zero_le _ } := rfl

theorem carryOut_pages (oled : Oled) (first last : Nat) :
    oled.carryOut [0x22, first, last]
      = { oled with
          pageStart := first % 8, pageEnd := last % 8, page := first % 8, pending := []
          short := Nat.zero_le _ } := rfl

/-- The beginning of a command with two arguments. -/
theorem startLine_opening (hpending : oled.pending = []) {code : UInt8}
    (hcode : arguments code.toNat = 2) {more : List UInt8} (hmore : more.length ≤ 1) :
    ((code :: more).foldl Oled.command oled).startLine = oled.startLine := by
  rw [List.foldl_cons, command_owed (by simp [hpending, hcode])]
  match more, hmore with
  | [], _ => rfl
  | [first], _ =>
      rw [List.foldl_cons, command_owed (by simp [hpending, hcode])]
      rfl

/-- The beginning of a window packet moves no line of the picture, when
nothing is owed before it. -/
theorem startLine_window (hpending : oled.pending = []) (carried : Nat) :
    ((windowCommands.take carried).foldl Oled.command oled).startLine = oled.startLine := by
  have hcolumns (more : List UInt8) : ([0x21, 0, 0x7f] ++ more).foldl Oled.command oled
      = more.foldl Oled.command (oled.carryOut [0x21, 0, 0x7f]) := by
    rw [foldl_command_owed _ (by simp [hpending, arguments]), hpending]
    rfl
  rcases carried with _ | _ | _ | _ | _ | _ | carried
  · rfl
  · exact startLine_opening hpending rfl (by simp)
  · exact startLine_opening hpending rfl (by simp)
  · rw [show windowCommands.take 3 = [0x21, 0, 0x7f] ++ [] from rfl, hcolumns]
    rfl
  · rw [show windowCommands.take 4 = [0x21, 0, 0x7f] ++ [0x22] from rfl, hcolumns]
    exact startLine_opening rfl rfl (by simp)
  · rw [show windowCommands.take 5 = [0x21, 0, 0x7f] ++ [0x22, 0] from rfl, hcolumns]
    exact startLine_opening rfl rfl (by simp)
  · rw [List.take_of_length_le (by simp [windowCommands]), foldl_window hpending]
    rfl

theorem receive_commands (oled : Oled) (bytes : List UInt8) :
    oled.receive (0x00 :: bytes) = (bytes.foldl Oled.command oled).close := by
  unfold receive
  exact if_pos rfl

/-- Behind it the cursor is at the first byte of the whole panel. -/
theorem receive_window (hpending : oled.pending = []) :
    oled.receive (0x00 :: windowCommands)
      = { oled with
          columnStart := 0, columnEnd := 127, column := 0, pageStart := 0, pageEnd := 7
          page := 0 } := by
  rw [receive_commands, foldl_window hpending, carryOut_columns, carryOut_pages]
  unfold close
  simp [hpending]

/-! ## What the panel is ready for -/

/-- The panel listens; and unless another packet ended inside a command
since `cuts` of them did, it waits for nothing, and shows its RAM from the
top. -/
structure Awake (cuts : Nat) (oled : Oled) : Prop where
  listens : oled.Listens
  since : cuts ≤ oled.cuts
  whole : oled.cuts = cuts → oled.pending = [] ∧ oled.startLine = 0

theorem close_of_done (hpending : oled.pending = []) : oled.close = oled := by
  unfold close
  exact if_pos hpending

/-- The end of a packet: the panel is as it was told, and the packet is
counted if it ended inside a command. -/
theorem close_frame (oled : Oled) :
    (oled.Listens → oled.close.Listens) ∧ oled.cuts ≤ oled.close.cuts
      ∧ (oled.close.cuts = oled.cuts → oled.close = oled ∧ oled.pending = []) := by
  unfold close
  split
  · next hpending => exact ⟨id, Nat.le_refl _, fun _ => ⟨rfl, hpending⟩⟩
  · refine ⟨fun h => ⟨h.on, h.mode, h.window⟩, Nat.le_succ _, fun hcuts => ?_⟩
    exact absurd hcuts (Nat.succ_ne_self _)

/-- **A window packet, whole or torn**, leaves the panel awake. -/
theorem Awake.window (h : oled.Awake cuts) (carried : Nat) :
    (oled.receive ((0x00 :: windowCommands).take carried)).Awake cuts := by
  cases carried with
  | zero => exact h
  | succ carried =>
      rw [List.take_succ_cons, receive_commands]
      have htold : ((windowCommands.take carried).foldl Oled.command oled).Listens :=
        h.listens.foldl fun byte hbyte => List.mem_of_mem_take hbyte
      have hcuts := foldl_command_cuts oled (windowCommands.take carried)
      have hline : oled.pending = [] → _ := fun hpending => startLine_window hpending carried
      generalize (windowCommands.take carried).foldl Oled.command oled = told at htold hcuts hline
      obtain ⟨hlistens, hle, hclosed⟩ := close_frame told
      refine ⟨hlistens htold, ?_, fun hsame => ?_⟩
      · exact (h.since.trans hcuts.ge).trans hle
      · have hbefore : oled.cuts = cuts := by
          have hsince := h.since
          omega
        obtain ⟨hclose, hdone⟩ := hclosed (by omega)
        obtain ⟨hpending, hstart⟩ := h.whole hbefore
        rw [hclose]
        exact ⟨hdone, (hline hpending).trans hstart⟩

/-- Data, whole or torn, leaves it awake. -/
theorem Awake.data (h : oled.Awake cuts) (bytes : List UInt8) (carried : Nat) :
    (oled.receive ((0x40 :: bytes).take carried)).Awake cuts := by
  cases carried with
  | zero => exact h
  | succ carried =>
      rw [List.take_succ_cons]
      show ((bytes.take carried).foldl Oled.store oled).Awake cuts
      obtain ⟨hon, hmode, hline, hpending, hcuts⟩ := foldl_store_frame oled (bytes.take carried)
      refine ⟨⟨hon.trans h.listens.on, hmode.trans h.listens.mode, ?_⟩, ?_, ?_⟩
      · rw [hpending]
        exact h.listens.window
      · rw [hcuts]
        exact h.since
      · rw [hcuts, hpending, hline]
        exact h.whole

/-- The start commands behind the first two. -/
def startCodes : List (List UInt8) :=
  [[0xa8, 0x3f], [0xd3, 0x00], [0x40], [0x8d, 0x14], [0x20, 0x00], [0xa1], [0xc8], [0xda, 0x12],
    [0x81, 0x50], [0xd9, 0xf1], [0xdb, 0x40], [0xa4], [0xa6], [0xaf]]

theorem startCodes_awake (hpending : oled.pending = []) :
    (startCodes.flatten.foldl Oled.command oled).Awake oled.cuts := by
  have hcuts := foldl_command_cuts oled startCodes.flatten
  rw [foldl_commands hpending (by decide)] at hcuts ⊢
  exact ⟨⟨rfl, rfl, .inl rfl⟩, hcuts.ge, fun _ => ⟨rfl, rfl⟩⟩

/-- Whatever is owed when the start commands come is paid by the first. -/
theorem pending_opening (oled : Oled) :
    ([0xae, 0xd5, 0x80].foldl Oled.command oled).pending = [] := by
  have hshort := oled.short
  rcases oled.pending_cases with hpending | ⟨code, hpending⟩ | ⟨code, first, hpending⟩
  · rw [show ([0xae, 0xd5, 0x80] : List UInt8) = [[0xae], [0xd5, 0x80]].flatten from rfl,
      foldl_commands hpending (by decide)]
    rfl
  · rw [hpending] at hshort
    have hcode : arguments code = 1 ∨ arguments code = 2 := by
      have hle := arguments_le_two code
      have hge : 1 ≤ arguments code := hshort
      omega
    rcases hcode with hone | htwo
    · rw [show ([0xae, 0xd5, 0x80] : List UInt8) = [0xae] ++ [[0xd5, 0x80]].flatten from rfl,
        foldl_command_owed _ (by simp [hpending, hone]), foldl_commands rfl (by decide)]
      rfl
    · rw [show ([0xae, 0xd5, 0x80] : List UInt8) = [0xae, 0xd5] ++ [[0x80]].flatten from rfl,
        foldl_command_owed _ (by simp [hpending, htwo]), foldl_commands rfl (by decide)]
      rfl
  · rw [hpending] at hshort
    have hcode : arguments code = 2 := Nat.le_antisymm (arguments_le_two code) hshort
    rw [show ([0xae, 0xd5, 0x80] : List UInt8) = [0xae] ++ [[0xd5, 0x80]].flatten from rfl,
      foldl_command_owed _ (by simp [hpending, hcode]), foldl_commands rfl (by decide)]
    rfl

/-- **The start commands wake the panel**, whatever it was doing. -/
theorem receive_start (oled : Oled) :
    (oled.receive (0x00 :: startCommands)).Awake oled.cuts := by
  have htold : (startCommands.foldl Oled.command oled).Awake oled.cuts := by
    rw [show startCommands = [0xae, 0xd5, 0x80] ++ startCodes.flatten from rfl, List.foldl_append,
      ← foldl_command_cuts oled [0xae, 0xd5, 0x80]]
    exact startCodes_awake oled.pending_opening
  have hdone := (htold.whole (foldl_command_cuts oled startCommands)).1
  rw [receive_commands, close_of_done hdone]
  exact htold

end Oled

/-! ## A flush -/

/-- What a flush that goes through does to the panel. -/
def pushed (canvas : Canvas) (oled : Oled) : Oled :=
  (bits canvas).foldl Oled.store (oled.receive (0x00 :: windowCommands))

theorem length_bits (canvas : Canvas) :
    (bits canvas).length = bufferLen / frameChunk * frameChunk := Vector.length_toList

section
variable {oled : Oled} {cuts : Nat}

/-- Behind a flush nothing is owed, whatever was before. -/
theorem pushed_pending (h : oled.Listens) (canvas : Canvas) :
    (pushed canvas oled).pending = [] := by
  obtain ⟨_, _, _, hpending, _⟩ :=
    Oled.foldl_store_frame (oled.receive (0x00 :: windowCommands)) (bits canvas)
  have hwindow := h.pending_window
  unfold pushed
  rw [hpending, Oled.receive_commands, Oled.close_of_done hwindow]
  exact hwindow

/-- No packet of a flush that goes through ends inside a command. -/
theorem pushed_cuts (h : oled.Listens) (canvas : Canvas) :
    (pushed canvas oled).cuts = oled.cuts := by
  obtain ⟨_, _, _, _, hcuts⟩ :=
    Oled.foldl_store_frame (oled.receive (0x00 :: windowCommands)) (bits canvas)
  unfold pushed
  rw [hcuts, Oled.receive_commands, Oled.close_of_done h.pending_window]
  exact Oled.foldl_command_cuts oled windowCommands

/-- Behind the window packet the cursor is at the first byte, when nothing
was owed before it. -/
theorem window_framed (h : oled.Listens) (hpending : oled.pending = []) :
    (oled.receive (0x00 :: windowCommands)).Framed
      ∧ (oled.receive (0x00 :: windowCommands)).position = 0 := by
  rw [Oled.receive_window hpending]
  exact ⟨⟨h.mode, ⟨rfl, rfl⟩, ⟨rfl, rfl⟩, by simp⟩, rfl⟩

/-- A pixel of the panel is a bit of the byte the cursor passed there. -/
theorem pushed_ram (h : oled.Listens) (hpending : oled.pending = []) (canvas : Canvas) {x y : Nat}
    (hon : x < width ∧ y < height) :
    (pushed canvas oled).ram (y / 8) x = canvas.buffer.get (byteOf x y hon) := by
  obtain ⟨hframed, hstart⟩ := window_framed h hpending
  have hcolumn : x < 128 := hon.1
  have hpage : y / 8 < 8 := by
    have hrow : y < 64 := hon.2
    omega
  have hroom : (oled.receive (0x00 :: windowCommands)).position + (bits canvas).length ≤ 1024 := by
    rw [hstart, length_bits]
    decide
  unfold pushed
  rw [hframed.run hroom (y / 8) hpage x hcolumn, hstart, if_pos (Nat.zero_le _), Nat.sub_zero]
  have hindex : y / 8 * 128 + x = (byteOf x y hon).val := by
    show y / 8 * 128 + x = x + y / 8 * 128
    omega
  have hin : (byteOf x y hon).val < canvas.buffer.toList.length := by
    rw [Vector.length_toList]
    exact (byteOf x y hon).isLt
  unfold bits
  rw [hindex, List.getD_eq_getElem _ _ hin, Vector.getElem_toList]
  rfl

/-- **What is pushed is what is shown**, when nothing was owed before. -/
theorem pushed_shows (h : oled.Listens) (hpending : oled.pending = []) (hline : oled.startLine = 0)
    (canvas : Canvas) {x y : Nat} (hon : x < width ∧ y < height) :
    (pushed canvas oled).shows x y = canvas.isLit x y := by
  obtain ⟨hkept, _, hkeptLine, _, _⟩ :=
    Oled.foldl_store_frame (oled.receive (0x00 :: windowCommands)) (bits canvas)
  rw [Oled.receive_window hpending] at hkept hkeptLine
  have hpower : (pushed canvas oled).on = true := by
    unfold pushed
    rw [Oled.receive_window hpending]
    exact hkept.trans h.on
  have htop : (pushed canvas oled).startLine = 0 := by
    unfold pushed
    rw [Oled.receive_window hpending]
    exact hkeptLine.trans hline
  have hrow : (y + 0) % 64 = y := Nat.mod_eq_of_lt hon.2
  unfold Oled.shows Canvas.isLit
  dsimp only
  rw [htop, hpower, hrow, pushed_ram h hpending canvas hon, dif_pos hon, Bool.true_and]

end

/-! ## Transfers to the OLED -/

theorem receive_data (oled : Oled) (bytes : List UInt8) :
    oled.receive (0x40 :: bytes) = bytes.foldl Oled.store oled := rfl

theorem receive_oled (wires : Wires) (bytes : List UInt8) :
    i2c.receive wires (oledAddress, bytes) = { wires with oled := wires.oled.receive bytes } := rfl

theorem torn_oled (bytes : List UInt8) (carried : Nat) :
    i2c.torn (oledAddress, bytes) carried = (oledAddress, bytes.take carried) := rfl

theorem takes_oled (packet : List UInt8) :
    (Driver.write i2c (oledAddress, packet)).Takes
      fun wires => { wires with oled := wires.oled.receive packet } := Driver.takes_write _

/-- The start commands that go through wake the panel. -/
theorem start_awake {bus : Bus Wires}
    (hok : (Driver.write i2c (oledAddress, 0x00 :: startCommands) bus).1 = true) :
    (Driver.write i2c (oledAddress, 0x00 :: startCommands) bus).2.device.oled.Awake
      bus.device.oled.cuts := by
  have hawake := bus.device.oled.receive_start
  generalize (0x00 :: startCommands : List UInt8) = packet at hok hawake ⊢
  rw [takes_oled packet bus hok]
  exact hawake

theorem command_window : command windowCommands
    = Driver.write i2c (oledAddress, 0x00 :: windowCommands) := rfl

/-- What every beginning of a packet keeps of the panel, its transfer
keeps, and the matrix as it is. -/
theorem keeps_oled {packet : List UInt8} {leds : Leds} {cuts : Nat}
    (h : ∀ (oled : Oled) carried, oled.Awake cuts →
      (oled.receive (packet.take carried)).Awake cuts) :
    (Driver.write i2c (oledAddress, packet)).Keeps
      fun wires => wires.oled.Awake cuts ∧ wires.leds = leds := by
  refine Driver.keeps_write (fun wires hP => ?_) (fun wires carried hP => ?_)
  · rw [receive_oled]
    have hwhole := h wires.oled packet.length hP.1
    rw [List.take_length] at hwhole
    exact ⟨hwhole, hP.2⟩
  · rw [torn_oled, receive_oled]
    exact ⟨h wires.oled carried hP.1, hP.2⟩

/-- **However a flush ends**, the panel stays awake and the matrix as it is. -/
theorem keeps_flush (canvas : Canvas) (leds : Leds) (cuts : Nat) :
    (flush canvas).Keeps fun wires => wires.oled.Awake cuts ∧ wires.leds = leds := by
  unfold flush
  rw [command_window]
  refine Driver.Keeps.andThen (keeps_oled fun oled carried h => h.window carried)
    (Driver.keeps_each fun chunk _ => keeps_oled fun oled carried h => h.data chunk carried)

/-- **A flush that goes through** pushes the canvas. -/
theorem takes_flush (canvas : Canvas) :
    (flush canvas).Takes fun wires => { wires with oled := pushed canvas wires.oled } := by
  have hchunks : ∀ (parts : List (List UInt8)) (wires : Wires),
      parts.foldl (fun wires chunk => i2c.receive wires (oledAddress, 0x40 :: chunk)) wires
        = { wires with
            oled := parts.foldl (fun oled chunk => chunk.foldl Oled.store oled) wires.oled } := by
    intro parts
    induction parts with
    | nil =>
        intro wires
        rfl
    | cons part parts ih =>
        intro wires
        rw [List.foldl_cons, ih, List.foldl_cons, receive_oled, receive_data]
  have hwindow := Driver.takes_write (L := i2c) (oledAddress, 0x00 :: windowCommands)
  have hdata := Driver.takes_each
    (fun chunk => Driver.takes_write (L := i2c) (oledAddress, 0x40 :: chunk))
    (chunks frameChunk (bufferLen / frameChunk) (bits canvas))
  unfold flush
  rw [command_window]
  intro bus hok
  rw [hwindow.andThen hdata bus hok]
  dsimp only
  rw [hchunks, foldl_chunks (length_bits canvas), receive_oled]
  simp only [pushed]

/-- **A flush that goes through leaves the canvas on the glass**, whatever
was there before, unless a packet before it ended inside a command; and
then too nothing is owed behind it. -/
theorem flush_shows {bus : Bus Wires} {cuts : Nat} (h : bus.device.oled.Awake cuts)
    (canvas : Canvas) (hok : (flush canvas bus).1 = true) :
    (flush canvas bus).2.device.oled.pending = []
      ∧ ((flush canvas bus).2.device.oled.cuts = cuts → ∀ {x y : Nat}, x < width ∧ y < height →
        (flush canvas bus).2.device.oled.shows x y = canvas.isLit x y) := by
  rw [takes_flush canvas bus hok]
  refine ⟨pushed_pending h.listens canvas, fun hcuts x y hon => ?_⟩
  obtain ⟨hpending, hline⟩ := h.whole ((pushed_cuts h.listens canvas).symm.trans hcuts)
  exact pushed_shows h.listens hpending hline canvas hon

end DurableTrivia.Firmware

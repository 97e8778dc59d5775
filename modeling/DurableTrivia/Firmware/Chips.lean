import DurableTrivia.BadgeScreen.Canvas
import DurableTrivia.Lib.Bus

/-!
# Chips — the two devices on the badge's I2C bus

What `display.rs` and `matrix.rs` of the firmware talk to: the SSD1306
behind the OLED and the IS31FL3731 behind the LED matrix, as far as the
bytes they are sent go. The OLED has a cursor that runs through a window
of its RAM, and it waits for the arguments of a command from one packet to
the next; the matrix has banks of registers, and a run of data is stored
in consecutive ones. This is the environment of the drivers: only the
drivers themselves are translated from the source.
-/

namespace DurableTrivia.Firmware

open DurableTrivia.Lib DurableTrivia.BadgeScreen

/-! ## The OLED -/

/-- How many arguments a command has. -/
def Oled.arguments (command : Nat) : Nat :=
  if command ∈ [0x20, 0x81, 0x8d, 0xa8, 0xd3, 0xd5, 0xd9, 0xda, 0xdb] then 1
  else if command ∈ [0x21, 0x22] then 2
  else 0

/-- The SSD1306: its RAM, its cursor, how it reads both, and the command
it is being told. -/
structure Oled where
  /-- the byte of a page at a column: eight rows of one column -/
  ram : Nat → Nat → UInt8
  /-- the addressing mode: 0 horizontal, 1 vertical, 2 page -/
  mode : Nat
  columnStart : Nat
  columnEnd : Nat
  pageStart : Nat
  pageEnd : Nat
  column : Nat
  page : Nat
  on : Bool
  /-- the row of the RAM that is shown at the top of the glass -/
  startLine : Nat
  /-- a command that is still short of arguments -/
  pending : List Nat
  short : pending.length ≤ Oled.arguments (pending.headD 0)
  /-- how many packets ended inside a command -/
  cuts : Nat

namespace Oled

/-- A whole command; those that neither move the cursor nor turn the
picture nor switch the panel say how the glass is driven. -/
def obey (oled : Oled) : List Nat → Oled
  | [0x20, mode] => { oled with mode := mode % 4 }
  | [0x21, first, last] =>
      { oled with columnStart := first % 128, columnEnd := last % 128, column := first % 128 }
  | [0x22, first, last] =>
      { oled with pageStart := first % 8, pageEnd := last % 8, page := first % 8 }
  | [0xae] => { oled with on := false }
  | [0xaf] => { oled with on := true }
  | [code] =>
      if 0x40 ≤ code ∧ code < 0x80 then { oled with startLine := code - 0x40 } else oled
  | _ => oled

/-- A command that has all its arguments is done with. -/
def carryOut (oled : Oled) (code : List Nat) : Oled :=
  { oled.obey code with pending := [], short := Nat.zero_le _ }

/-- A byte of a command packet, behind those of the command it may belong
to. -/
def command (oled : Oled) (byte : UInt8) : Oled :=
  let code := oled.pending ++ [byte.toNat]
  if h : code.length ≤ arguments (code.headD 0) then { oled with pending := code, short := h }
  else oled.carryOut code

/-- The end of a command packet. -/
def close (oled : Oled) : Oled :=
  if oled.pending = [] then oled else { oled with cuts := oled.cuts + 1 }

/-- Where the cursor goes behind a byte of data: its column and its page. -/
def next (oled : Oled) : Nat × Nat :=
  let nextColumn := if oled.column = oled.columnEnd then oled.columnStart else oled.column + 1
  let nextPage := if oled.page = oled.pageEnd then oled.pageStart else oled.page + 1
  match oled.mode with
  | 0 => (nextColumn, if oled.column = oled.columnEnd then nextPage else oled.page)
  | 1 => (if oled.page = oled.pageEnd then nextColumn else oled.column, nextPage)
  | _ => (if oled.column = 127 then 0 else oled.column + 1, oled.page)

/-- A byte of data goes where the cursor is, and the cursor on. -/
def store (oled : Oled) (byte : UInt8) : Oled :=
  { oled with
    ram := fun page column =>
      if page = oled.page ∧ column = oled.column then byte else oled.ram page column
    column := oled.next.1
    page := oled.next.2 }

/-- A packet: a control byte, then commands or data. -/
def receive (oled : Oled) : List UInt8 → Oled
  | [] => oled
  | control :: payload =>
      if control = 0x00 then (payload.foldl command oled).close
      else if control = 0x40 then payload.foldl store oled
      else oled

/-- Whether a pixel of the glass is lit. -/
def shows (oled : Oled) (x y : Nat) : Bool :=
  let row := (y + oled.startLine) % 64
  oled.on && oled.ram (row / 8) x &&& rowBit row != 0

end Oled

/-! ## The LED matrix -/

/-- The IS31FL3731: its registers, bank by bank. -/
structure Leds where
  bank : UInt8
  /-- the registers of a bank -/
  registers : UInt8 → Nat → UInt8

namespace Leds

/-- A byte goes to a register of the selected bank. -/
def put (leds : Leds) (register : Nat) (value : UInt8) : Leds :=
  { leds with
    registers := fun bank r =>
      if bank = leds.bank ∧ r = register then value else leds.registers bank r }

/-- A run of data goes to consecutive registers. -/
def storeAt (leds : Leds) (register : Nat) : List UInt8 → Leds
  | [] => leds
  | value :: values => (leds.put register value).storeAt (register + 1) values

/-- A packet: a register and the data for it; the command register
selects the bank. -/
def receive (leds : Leds) : List UInt8 → Leds
  | [] => leds
  | register :: values =>
      if register = 0xfd then { leds with bank := values.headD leds.bank }
      else leds.storeAt register.toNat values

/-- Out of shutdown, and showing frame zero as it stands. -/
def Running (leds : Leds) : Prop :=
  leds.registers 0x0b 0x0a = 1 ∧ leds.registers 0x0b 0x00 = 0 ∧ leds.registers 0x0b 0x01 = 0
    ∧ leds.registers 0x0b 0x06 = 0

/-- Every LED of frame zero takes part. -/
def Enabled (leds : Leds) : Prop := ∀ register ≤ 0x11, leds.registers 0 register = 0xff

/-- The brightness frame zero gives an LED. -/
def level (leds : Leds) (led : Nat) : UInt8 := leds.registers 0 (0x24 + led)

/-- The LEDs frame zero lights. -/
def lit (leds : Leds) : Set Nat := {led | led < 144 ∧ leds.level led ≠ 0}

end Leds

/-! ## The bus -/

/-- What listens on the bus. -/
structure Wires where
  oled : Oled
  leds : Leds

/-- Both devices as they come up: the OLED dark, in page mode. -/
def Wires.atReset : Wires where
  oled :=
    { ram := fun _ _ => 0, mode := 2, columnStart := 0, columnEnd := 127, pageStart := 0
      pageEnd := 7, column := 0, page := 0, on := false, startLine := 0, pending := []
      short := Nat.zero_le _, cuts := 0 }
  leds := { bank := 0, registers := fun _ _ => 0 }

/-- An address and the bytes for it. -/
abbrev Packet := UInt8 × List UInt8

/-- Where the OLED listens. -/
def oledAddress : UInt8 := 0x3c

/-- Where the LED matrix listens. -/
def ledsAddress : UInt8 := 0x74

/-- The bus: a packet goes to the device at its address, and a transfer
that breaks off carries the first bytes of it. -/
def i2c : Listener Wires Packet where
  receive wires packet :=
    if packet.1 = oledAddress then { wires with oled := wires.oled.receive packet.2 }
    else if packet.1 = ledsAddress then { wires with leds := wires.leds.receive packet.2 }
    else wires
  torn packet carried := (packet.1, packet.2.take carried)

/-! ## A run of data on the OLED -/

namespace Oled
variable {oled : Oled}

/-- The cursor runs through the whole panel, page after page. -/
structure Framed (oled : Oled) : Prop where
  mode : oled.mode = 0
  columns : oled.columnStart = 0 ∧ oled.columnEnd = 127
  pages : oled.pageStart = 0 ∧ oled.pageEnd = 7
  cursor : oled.column < 128 ∧ oled.page < 8

/-- The byte of the framebuffer the cursor is at. -/
def position (oled : Oled) : Nat := oled.page * 128 + oled.column

theorem store_ram (byte : UInt8) (page column : Nat) :
    (oled.store byte).ram page column
      = if page = oled.page ∧ column = oled.column then byte else oled.ram page column := rfl

/-- In the frame the cursor goes to the next byte, and from the last to
the first. -/
theorem Framed.store (h : oled.Framed) (byte : UInt8) :
    (oled.store byte).Framed ∧ (oled.store byte).position = (oled.position + 1) % 1024 := by
  obtain ⟨hmode, ⟨hstart, hend⟩, ⟨hfirst, hlast⟩, hcolumn, hpage⟩ := h
  have hcursor : (oled.store byte).column = (if oled.column = 127 then 0 else oled.column + 1)
      ∧ (oled.store byte).page
        = if oled.column = 127 then (if oled.page = 7 then 0 else oled.page + 1)
          else oled.page := by
    simp [Oled.store, Oled.next, hmode, hstart, hend, hfirst, hlast]
  obtain ⟨hnextColumn, hnextPage⟩ := hcursor
  refine ⟨⟨hmode, ⟨hstart, hend⟩, ⟨hfirst, hlast⟩, ?_⟩, ?_⟩
  · rw [hnextColumn, hnextPage]
    constructor
    · split <;> omega
    · split
      · split <;> omega
      · exact hpage
  · unfold position
    rw [hnextColumn, hnextPage]
    split
    · split <;> omega
    · omega

/-- Data neither switches the panel, nor turns the picture, nor belongs to
a command. -/
theorem foldl_store_frame (oled : Oled) (bytes : List UInt8) :
    (bytes.foldl Oled.store oled).on = oled.on ∧ (bytes.foldl Oled.store oled).mode = oled.mode
      ∧ (bytes.foldl Oled.store oled).startLine = oled.startLine
      ∧ (bytes.foldl Oled.store oled).pending = oled.pending
      ∧ (bytes.foldl Oled.store oled).cuts = oled.cuts := by
  induction bytes generalizing oled with
  | nil => exact ⟨rfl, rfl, rfl, rfl, rfl⟩
  | cons byte bytes ih => exact ih (oled.store byte)

/-- **A run of data fills the bytes from the cursor on** and leaves the
others alone, as long as it does not run past the end of the panel. -/
theorem Framed.run (h : oled.Framed) {bytes : List UInt8}
    (hroom : oled.position + bytes.length ≤ 1024) :
    ∀ page < 8, ∀ column < 128, (bytes.foldl Oled.store oled).ram page column
      = if oled.position ≤ page * 128 + column then
          bytes.getD (page * 128 + column - oled.position) (oled.ram page column)
        else oled.ram page column := by
  induction bytes generalizing oled with
  | nil => simp
  | cons byte bytes ih =>
      rw [List.length_cons] at hroom
      simp only [List.foldl_cons]
      intro page hp column hc
      have hplace : oled.position = oled.page * 128 + oled.column := rfl
      obtain ⟨hcolumn, hpage⟩ := h.cursor
      cases bytes with
      | nil =>
          simp only [List.foldl_nil]
          rw [store_ram]
          by_cases hhere : page = oled.page ∧ column = oled.column
          · obtain ⟨rfl, rfl⟩ := hhere
            simp [hplace]
          · rw [if_neg hhere]
            split
            · have hbeyond : page * 128 + column - oled.position ≠ 0 := by omega
              rw [List.getD_eq_default]
              simp only [List.length_cons, List.length_nil]
              omega
            · rfl
      | cons next rest =>
          rw [List.length_cons] at hroom
          obtain ⟨hframed, hposition⟩ := h.store byte
          rw [Nat.mod_eq_of_lt (by omega)] at hposition
          have hram := ih hframed (by rw [hposition, List.length_cons]; omega)
          rw [hram page hp column hc, hposition, store_ram]
          by_cases hhere : page = oled.page ∧ column = oled.column
          · obtain ⟨rfl, rfl⟩ := hhere
            have hbefore : ¬ oled.position + 1 ≤ oled.page * 128 + oled.column := by omega
            rw [if_neg hbefore, if_pos ⟨rfl, rfl⟩, if_pos (by omega), ← hplace, Nat.sub_self]
            rfl
          · rw [if_neg hhere]
            by_cases hlater : oled.position + 1 ≤ page * 128 + column
            · have hindex : page * 128 + column - oled.position
                  = (page * 128 + column - (oled.position + 1)) + 1 := by omega
              rw [if_pos hlater, if_pos (by omega), hindex, List.getD_cons_succ]
            · rw [if_neg hlater, if_neg (by omega)]

end Oled

/-! ## A run of data on the matrix -/

namespace Leds
variable (leds : Leds)

@[simp] theorem put_bank (register : Nat) (value : UInt8) :
    (leds.put register value).bank = leds.bank := rfl

theorem put_registers (register : Nat) (value : UInt8) (bank : UInt8) (r : Nat) :
    (leds.put register value).registers bank r
      = if bank = leds.bank ∧ r = register then value else leds.registers bank r := rfl

@[simp] theorem storeAt_bank (register : Nat) (values : List UInt8) :
    (leds.storeAt register values).bank = leds.bank := by
  induction values generalizing leds register with
  | nil => rfl
  | cons value values ih => exact ih (leds.put register value) (register + 1)

/-- **A run of data fills consecutive registers** of the selected bank. -/
theorem storeAt_registers (register : Nat) (values : List UInt8) (bank : UInt8) (r : Nat) :
    (leds.storeAt register values).registers bank r
      = if bank = leds.bank ∧ register ≤ r then
          values.getD (r - register) (leds.registers bank r)
        else leds.registers bank r := by
  induction values generalizing leds register with
  | nil => simp [storeAt]
  | cons value values ih =>
      simp only [storeAt]
      rw [ih (leds.put register value) (register + 1), put_bank, put_registers]
      by_cases hbank : bank = leds.bank
      · simp only [hbank, true_and]
        rcases Nat.lt_trichotomy register r with hlater | rfl | hbefore
        · have hindex : r - register = (r - (register + 1)) + 1 := by omega
          rw [if_pos (by omega), if_neg (by omega), if_pos (by omega), hindex, List.getD_cons_succ]
        · rw [if_neg (by omega), if_pos rfl, if_pos (by omega), Nat.sub_self]
          rfl
        · rw [if_neg (by omega), if_neg (by omega), if_neg (by omega)]
      · simp [hbank]

/-- A run behind another continues it. -/
theorem storeAt_append (register : Nat) (values more : List UInt8) :
    leds.storeAt register (values ++ more)
      = (leds.storeAt register values).storeAt (register + values.length) more := by
  induction values generalizing leds register with
  | nil => rfl
  | cons value values ih =>
      show (leds.put register value).storeAt (register + 1) (values ++ more) = _
      rw [ih, List.length_cons]
      have hnext : register + 1 + values.length = register + (values.length + 1) := by omega
      rw [hnext]
      rfl

end Leds

end DurableTrivia.Firmware

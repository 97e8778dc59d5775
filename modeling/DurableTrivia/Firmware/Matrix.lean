import DurableTrivia.Firmware.Chips
import DurableTrivia.Lib.Painting

/-!
# Matrix — the LED matrix that flashes a verdict

`firmware/src/matrix.rs`: the register writes, the two icons, and the
two-flash animation the UI thread advances. A write may fail half-way,
and the driver learns only that it failed; it remembers in `visible` what
the last frame it wrote whole was.
-/

namespace DurableTrivia.Firmware

open DurableTrivia.Lib DurableTrivia.Lib.Painting

/-! ## Registers -/

/-- The IS31FL3731's command register, which selects a bank. -/
def commandRegister : UInt8 := 0xfd

/-- The bank of the function registers. -/
def functionBank : UInt8 := 0x0b

/-- The configuration register: picture mode or another. -/
def regConfig : UInt8 := 0x00

/-- The register of the frame that is shown. -/
def regPictureFrame : UInt8 := 0x01

/-- The register of the audio synchronisation. -/
def regAudioSync : UInt8 := 0x06

/-- The shutdown register. -/
def regShutdown : UInt8 := 0x0a

/-- The register of the first LED's brightness. -/
def pwmBase : Nat := 0x24

/-- The bank of the one frame in use. -/
def frameZero : UInt8 := 0

/-- LEDs the chip drives. -/
def pwmChannels : Nat := 144

/-- Brightnesses in a packet. -/
def pwmChunk : Nat := 24

/-- The brightness of a lit LED. -/
def brightness : UInt8 := 48

/-- The flashes: on, off from `firstOff`, on from `secondOn`, off for good. -/
def firstOff : Nat := 250 * 10 ^ 6

/-- When the second flash starts, in nanoseconds. -/
def secondOn : Nat := 400 * 10 ^ 6

/-- When the second flash ends, in nanoseconds. -/
def secondOff : Nat := 650 * 10 ^ 6

/-- The picture of a right answer, a byte a row. -/
def checkmark : List UInt8 :=
  [0b00000001, 0b00000010, 0b10000100, 0b01001000, 0b00110000, 0b00000000, 0b00000000, 0b00000000]

/-- The picture of a wrong answer, a byte a row. -/
def xMark : List UInt8 :=
  [0b10000001, 0b01000010, 0b00100100, 0b00011000, 0b00011000, 0b00100100, 0b01000010, 0b10000001]

/-- The two pictures. -/
inductive Icon where
  | correct
  | wrong
  deriving DecidableEq, Repr

/-- The rows of a picture. -/
def Icon.mask : Icon → List UInt8
  | .correct => checkmark
  | .wrong => xMark

/-- A verdict that is flashing, and since when. -/
structure Feedback where
  icon : Icon
  started : Nat
  deriving DecidableEq, Repr

/-- What the driver knows of the matrix. -/
structure LedMatrix where
  feedback : Option Feedback := none
  visible : Bool := false
  deriving DecidableEq, Repr

/-! ## Writes -/

/-- One packet to the matrix. -/
def writeBytes (bytes : List UInt8) : Driver Wires := Driver.write i2c (ledsAddress, bytes)

/-- Select a bank. -/
def selectBank (bank : UInt8) : Driver Wires := writeBytes [commandRegister, bank]

/-- Write one register of a bank. -/
def writeRegister (bank register value : UInt8) : Driver Wires :=
  (selectBank bank).andThen (writeBytes [register, value])

/-- The brightness of every LED of a frame. -/
abbrev Pwm := Vector UInt8 pwmChannels

/-- Write the brightnesses of all LEDs, in chunks. -/
def writePwm (pwm : Pwm) : Driver Wires :=
  (selectBank frameZero).andThen
    (Driver.each
      (fun (chunk : List UInt8 × Nat) =>
        writeBytes (UInt8.ofNat (pwmBase + chunk.2 * pwmChunk) :: chunk.1))
      (chunks pwmChunk (pwmChannels / pwmChunk) pwm.toList).zipIdx)

/-- Where the panel is mounted, row `y` of a mask runs down a column. -/
def ledOf (x y : Nat) : Nat := y + (7 - x) * 16

/-- `row & (0x80 >> x)`. -/
def maskBit (row : UInt8) (x : Nat) : Bool := row &&& (0x80 >>> UInt8.ofNat x) != 0

/-- The brightnesses that show a picture. -/
def pwmOf (mask : List UInt8) : Pwm :=
  mask.zipIdx.foldl
    (fun pwm row => (List.range 8).foldl
      (fun pwm x =>
        if maskBit row.1 x = true then pwm.setIfInBounds (ledOf x row.2) brightness else pwm)
      pwm)
    (Vector.replicate pwmChannels 0)

/-- Show a picture. -/
def render (mask : List UInt8) : Driver Wires := writePwm (pwmOf mask)

/-- All LEDs dark. -/
def clearPwm : Driver Wires := writePwm (Vector.replicate pwmChannels 0)

/-- Restart the chip, show frame zero, enable every LED and clear them. -/
def initializeMatrix : Driver Wires :=
  (writeRegister functionBank regShutdown 0x00).andThen <|
  (writeRegister functionBank regShutdown 0x01).andThen <|
  (writeRegister functionBank regConfig 0x00).andThen <|
  (writeRegister functionBank regPictureFrame frameZero).andThen <|
  (writeRegister functionBank regAudioSync 0x00).andThen <|
  (selectBank frameZero).andThen <|
  (Driver.each (fun register => writeBytes [UInt8.ofNat register, 0xff]) (List.range 18)).andThen
    clearPwm

/-! ## The animation -/

/-- Whether the flash schedule is on, `elapsed` after the verdict. -/
def flashing (elapsed : Nat) : Bool :=
  elapsed < firstOff || (elapsed ≥ secondOn && elapsed < secondOff)

namespace LedMatrix

/-- Start the flashes of a verdict. -/
def startFeedback (matrix : LedMatrix) (correct : Bool) (now : Nat) (bus : Bus Wires) :
    Bool × LedMatrix × Bus Wires :=
  let icon := if correct then Icon.correct else Icon.wrong
  match render icon.mask bus with
  | (true, bus) => (true, { feedback := some { icon, started := now }, visible := true }, bus)
  | (false, bus) => (false, matrix, bus)

/-- All LEDs dark, where the transfer goes through. -/
def clear (matrix : LedMatrix) (bus : Bus Wires) : Bool × LedMatrix × Bus Wires :=
  match clearPwm bus with
  | (true, bus) => (true, { matrix with visible := false }, bus)
  | (false, bus) => (false, matrix, bus)

/-- The frame is written again when it should change. -/
def toggle (matrix : LedMatrix) (icon : Icon) (shouldBeVisible : Bool) (bus : Bus Wires) :
    Bool × LedMatrix × Bus Wires :=
  if shouldBeVisible != matrix.visible then
    match (if shouldBeVisible then render icon.mask else clearPwm) bus with
    | (true, bus) => (true, { matrix with visible := shouldBeVisible }, bus)
    | (false, bus) => (false, matrix, bus)
  else (true, matrix, bus)

/-- A turn of the loop: toggle the picture where due, and end the flashes
after the second one. -/
def advance (matrix : LedMatrix) (now : Nat) (bus : Bus Wires) : Bool × LedMatrix × Bus Wires :=
  match matrix.feedback with
  | none => (true, matrix, bus)
  | some feedback =>
      let elapsed := now - feedback.started
      match matrix.toggle feedback.icon (flashing elapsed) bus with
      | (true, matrix, bus) =>
          (true, if elapsed ≥ secondOff then { matrix with feedback := none } else matrix, bus)
      | (false, matrix, bus) => (false, matrix, bus)

end LedMatrix

/-! ## What a frame write does to the chip -/

/-- The chip shows frame zero, and frame zero is selected. -/
structure Leds.Ready (leds : Leds) : Prop where
  running : leds.Running
  enabled : leds.Enabled
  bank : leds.bank = frameZero

/-- A job that does `effect` to the matrix, and nothing to the OLED. -/
def LedsTakes (job : Driver Wires) (effect : Leds → Leds) : Prop :=
  job.Takes fun wires => { wires with leds := effect wires.leds }

/-- A job that keeps a property of the matrix, and the OLED as it is. -/
def LedsKeeps (job : Driver Wires) (P : Leds → Prop) : Prop :=
  ∀ oled, job.Keeps fun wires => P wires.leds ∧ wires.oled = oled

variable {P : Leds → Prop} {bytes : List UInt8}

theorem receive_leds (wires : Wires) (bytes : List UInt8) :
    i2c.receive wires (ledsAddress, bytes) = { wires with leds := wires.leds.receive bytes } := rfl

theorem torn_leds (bytes : List UInt8) (carried : Nat) :
    i2c.torn (ledsAddress, bytes) carried = (ledsAddress, bytes.take carried) := rfl

theorem takes_writeBytes (bytes : List UInt8) :
    LedsTakes (writeBytes bytes) (·.receive bytes) := Driver.takes_write _

/-- What every beginning of a packet keeps, its transfer keeps. -/
theorem keeps_writeBytes
    (h : ∀ leds carried, P leds → P (leds.receive (bytes.take carried))) :
    LedsKeeps (writeBytes bytes) P := by
  intro oled
  refine Driver.keeps_write (fun wires hP => ?_) (fun wires carried hP => ?_)
  · rw [receive_leds]
    have hwhole := h wires.leds bytes.length hP.1
    rw [List.take_length] at hwhole
    exact ⟨hwhole, hP.2⟩
  · rw [torn_leds, receive_leds]
    exact ⟨h wires.leds carried hP.1, hP.2⟩

/-- Selecting frame zero over again keeps everything. -/
theorem keeps_selectBank (hP : ∀ leds, P leds → leds.bank = frameZero) :
    LedsKeeps (selectBank frameZero) P := by
  apply keeps_writeBytes
  intro leds carried h
  have hsame : leds.receive ([commandRegister, frameZero].take carried) = leds := by
    rcases carried with _ | _ | carried
    · rfl
    · rfl
    · obtain ⟨bank, registers⟩ := leds
      obtain rfl : bank = frameZero := hP _ h
      rfl
  rw [hsame]
  exact h

theorem LedsTakes.andThen {first second : Driver Wires} {effect effect' : Leds → Leds}
    (h : LedsTakes first effect) (h' : LedsTakes second effect') :
    LedsTakes (first.andThen second) fun leds => effect' (effect leds) :=
  Driver.Takes.andThen h h'

theorem LedsKeeps.andThen {first second : Driver Wires} (h : LedsKeeps first P)
    (h' : LedsKeeps second P) : LedsKeeps (first.andThen second) P :=
  fun oled => (h oled).andThen (h' oled)

theorem foldl_leds {Item : Type} (effect : Leds → Item → Leds) (items : List Item) (wires : Wires) :
    items.foldl (fun wires item => { wires with leds := effect wires.leds item }) wires
      = { wires with leds := items.foldl effect wires.leds } := by
  induction items generalizing wires with
  | nil => rfl
  | cons item items ih => rw [List.foldl_cons, ih, List.foldl_cons]

theorem takes_eachBytes {Item : Type} (packet : Item → List UInt8) (items : List Item) :
    LedsTakes (Driver.each (fun item => writeBytes (packet item)) items)
      fun leds => items.foldl (fun leds item => leds.receive (packet item)) leds := by
  have hloop := Driver.takes_each (fun item => takes_writeBytes (packet item)) items
  intro bus hok
  rw [hloop bus hok]
  exact foldl_leds (fun leds item => leds.receive (packet item)) items bus.device

theorem keeps_eachBytes {Item : Type} {packet : Item → List UInt8} {items : List Item}
    (h : ∀ item ∈ items, LedsKeeps (writeBytes (packet item)) P) :
    LedsKeeps (Driver.each (fun item => writeBytes (packet item)) items) P :=
  fun oled => Driver.keeps_each fun item hitem => h item hitem oled

/-! ## Frames -/

/-- A packet of brightnesses goes to its registers. -/
theorem receive_pwm (leds : Leds) {index : Nat} (hindex : index < 6) (values : List UInt8) :
    leds.receive (UInt8.ofNat (pwmBase + index * pwmChunk) :: values)
      = leds.storeAt (pwmBase + index * pwmChunk) values := by
  have hregister : ∀ index < 6, UInt8.ofNat (pwmBase + index * pwmChunk) ≠ 0xfd
      ∧ (UInt8.ofNat (pwmBase + index * pwmChunk)).toNat = pwmBase + index * pwmChunk := by decide
  obtain ⟨hne, hnat⟩ := hregister index hindex
  unfold Leds.receive
  dsimp only
  rw [if_neg hne, hnat]

/-- The chunks of a frame fill its registers one behind the other. -/
theorem foldl_chunks_storeAt (leds : Leds) (parts : List (List UInt8)) (start : Nat)
    (hsize : ∀ part ∈ parts, part.length = pwmChunk) (hroom : start + parts.length ≤ 6) :
    (parts.zipIdx start).foldl
        (fun leds chunk =>
          leds.receive (UInt8.ofNat (pwmBase + chunk.2 * pwmChunk) :: chunk.1)) leds
      = leds.storeAt (pwmBase + start * pwmChunk) parts.flatten := by
  induction parts generalizing leds start with
  | nil => rfl
  | cons part parts ih =>
      rw [List.length_cons] at hroom
      have hpart := hsize part List.mem_cons_self
      rw [List.zipIdx_cons, List.foldl_cons, List.flatten_cons, Leds.storeAt_append,
        receive_pwm leds (by omega),
        ih _ (start + 1) (fun other hother => hsize other (List.mem_cons_of_mem _ hother))
          (by omega),
        hpart]
      have hnext : pwmBase + (start + 1) * pwmChunk = pwmBase + start * pwmChunk + pwmChunk := by
        rw [Nat.succ_mul]
        omega
      rw [hnext]

theorem length_pwm (pwm : Pwm) : pwm.toList.length = pwmChannels / pwmChunk * pwmChunk :=
  Vector.length_toList

/-- **A frame that is written whole** is in the registers of frame zero. -/
theorem takes_writePwm (pwm : Pwm) :
    LedsTakes (writePwm pwm) fun leds =>
      { leds with bank := frameZero }.storeAt pwmBase pwm.toList := by
  have hframe : LedsTakes (writePwm pwm) _ :=
    (takes_writeBytes [commandRegister, frameZero]).andThen
      (takes_eachBytes
        (fun (chunk : List UInt8 × Nat) => UInt8.ofNat (pwmBase + chunk.2 * pwmChunk) :: chunk.1)
        (chunks pwmChunk (pwmChannels / pwmChunk) pwm.toList).zipIdx)
  intro bus hok
  rw [hframe bus hok]
  dsimp only
  rw [foldl_chunks_storeAt _ _ 0 (fun part hpart => length_of_mem_chunks (length_pwm pwm) hpart)
      (by rw [length_chunks]; decide),
    flatten_chunks (length_pwm pwm)]
  rfl

/-- Brightnesses leave the chip ready. -/
theorem Leds.Ready.storeAt {leds : Leds} (h : leds.Ready) {register : Nat}
    (hregister : pwmBase ≤ register) (values : List UInt8) :
    (leds.storeAt register values).Ready := by
  have hbank := h.bank
  unfold pwmBase at hregister
  refine ⟨?_, ?_, ?_⟩
  · have hother : ¬ ((0x0b : UInt8) = leds.bank) := by
      rw [hbank]
      decide
    have hfunction (r : Nat) : (leds.storeAt register values).registers 0x0b r
        = leds.registers 0x0b r := by
      rw [Leds.storeAt_registers, if_neg fun hmem => hother hmem.1]
    unfold Leds.Running
    simp only [hfunction]
    exact h.running
  · intro r hr
    rw [Leds.storeAt_registers, if_neg (by omega)]
    exact h.enabled r hr
  · rw [Leds.storeAt_bank]
    exact hbank

/-- What a run of brightnesses from the first LED on lights. -/
theorem Leds.Ready.level_storeAt {leds : Leds} (h : leds.Ready) (first : Nat)
    (values : List UInt8) (led : Nat) :
    (leds.storeAt (pwmBase + first) values).level led
      = if first ≤ led then values.getD (led - first) (leds.level led) else leds.level led := by
  have hbank : (0 : UInt8) = leds.bank := h.bank.symm
  unfold Leds.level
  rw [Leds.storeAt_registers]
  unfold pwmBase
  have hindex : 0x24 + led - (0x24 + first) = led - first := by omega
  by_cases hfirst : first ≤ led
  · rw [if_pos ⟨hbank, by omega⟩, if_pos hfirst, hindex]
  · rw [if_neg (by omega), if_neg hfirst]

/-- The LEDs a frame lights. -/
def lightsOf (pwm : Pwm) : Set Nat := {led | ∃ value, pwm[led]? = some value ∧ value ≠ 0}

theorem Leds.Ready.lit_frame {leds : Leds} (h : leds.Ready) (pwm : Pwm) :
    (leds.storeAt pwmBase pwm.toList).lit = lightsOf pwm := by
  ext led
  have hlevel := h.level_storeAt 0 pwm.toList led
  rw [if_pos (Nat.zero_le led), Nat.sub_zero, Nat.add_zero] at hlevel
  show led < pwmChannels ∧ _ ↔ _
  rw [hlevel, List.getD_eq_getElem?_getD, Vector.getElem?_toList]
  constructor
  · rintro ⟨hled, hon⟩
    rw [Vector.getElem?_eq_getElem hled] at hon
    exact ⟨pwm[led], Vector.getElem?_eq_getElem hled, hon⟩
  · rintro ⟨value, hvalue, hon⟩
    rw [hvalue]
    exact ⟨(Vector.getElem?_eq_some_iff.mp hvalue).1, hon⟩

/-- **However a frame write ends, the chip stays ready**; and it keeps what
every brightness of the frame keeps. -/
theorem keeps_writePwm {pwm : Pwm}
    (hP : ∀ leds first values, (∀ value ∈ values, value ∈ pwm) → leds.Ready → P leds →
      P (leds.storeAt (pwmBase + first) values)) :
    LedsKeeps (writePwm pwm) fun leds => leds.Ready ∧ P leds := by
  refine (keeps_selectBank fun leds h => h.1.bank).andThen (keeps_eachBytes ?_)
  rintro ⟨part, index⟩ hmem
  have hget := List.mem_zipIdx_iff_getElem?.mp hmem
  have hindex : index < 6 := by
    have hlt := (List.getElem?_eq_some_iff.mp hget).1
    rwa [length_chunks] at hlt
  have hpart : ∀ value ∈ part, value ∈ pwm := by
    intro value hvalue
    rw [← Vector.mem_toList_iff, ← flatten_chunks (length_pwm pwm)]
    exact List.mem_flatten_of_mem (List.mem_of_getElem? hget) hvalue
  apply keeps_writeBytes
  rintro leds carried ⟨hready, hleds⟩
  cases carried with
  | zero => exact ⟨hready, hleds⟩
  | succ carried =>
      dsimp only
      rw [List.take_succ_cons, receive_pwm leds hindex]
      refine ⟨hready.storeAt (Nat.le_add_right _ _) _, hP leds _ _ ?_ hready hleds⟩
      intro value hvalue
      exact hpart value (List.mem_of_mem_take hvalue)

/-! ## The two frames -/

/-- The LEDs of an icon. -/
def Icon.leds (icon : Icon) : Set Nat :=
  {led | ∃ row ∈ icon.mask.zipIdx, ∃ x ∈ List.range 8,
    maskBit row.1 x = true ∧ led = ledOf x row.2 ∧ led < pwmChannels}

theorem paints_setLed (led : Nat) :
    Paints lightsOf (fun pwm => pwm.setIfInBounds led brightness)
      {other | other = led ∧ other < pwmChannels} := by
  intro pwm
  ext other
  simp only [lightsOf, Set.mem_union, Set.mem_ofPred_eq, Vector.getElem?_setIfInBounds]
  by_cases hsame : led = other
  · subst hsame
    by_cases hled : led < pwmChannels
    · simp only [hled, if_true, and_self, or_true, iff_true]
      exact ⟨brightness, rfl, by decide⟩
    · simp [hled]
  · simp [hsame, Ne.symm hsame]

theorem lightsOf_dark : lightsOf (Vector.replicate pwmChannels 0) = ∅ := by
  ext led
  constructor
  · rintro ⟨value, hvalue, hon⟩
    obtain ⟨hled, hvalue⟩ := Vector.getElem?_eq_some_iff.mp hvalue
    rw [Vector.getElem_replicate] at hvalue
    exact absurd hvalue.symm hon
  · intro hnone
    cases hnone

/-- **The frame of an icon lights the LEDs of the icon**, turned to the
way the panel is mounted. -/
theorem lightsOf_icon (icon : Icon) : lightsOf (pwmOf icon.mask) = icon.leds := by
  have hrow (row : UInt8 × Nat) : Paints lightsOf
      (fun pwm => (List.range 8).foldl
        (fun pwm x =>
          if maskBit row.1 x = true then pwm.setIfInBounds (ledOf x row.2) brightness else pwm) pwm)
      {led | ∃ x ∈ List.range 8, maskBit row.1 x = true ∧ led = ledOf x row.2
        ∧ led < pwmChannels} :=
    Paints.foldl fun x _ => Paints.guarded (paints_setLed (ledOf x row.2))
  have hrows := Paints.foldl fun row (_ : row ∈ icon.mask.zipIdx) => hrow row
  unfold pwmOf
  rw [hrows, lightsOf_dark, Set.empty_union]
  rfl

/-- A dark frame lights nothing new, wherever it breaks off. -/
theorem lit_storeAt_dark {leds : Leds} (h : leds.Ready) {first : Nat} {values : List UInt8}
    (hdark : ∀ value ∈ values, value = 0) :
    (leds.storeAt (pwmBase + first) values).lit ⊆ leds.lit := by
  rintro led ⟨hled, hon⟩
  rw [h.level_storeAt] at hon
  refine ⟨hled, ?_⟩
  split at hon
  · rw [List.getD_eq_getElem?_getD] at hon
    cases hvalue : values[led - first]? with
    | none =>
        rw [hvalue] at hon
        exact hon
    | some value =>
        rw [hvalue, Option.getD_some] at hon
        exact absurd (hdark value (List.mem_of_getElem? hvalue)) hon
  · exact hon

section
variable {bus : Bus Wires}

/-- A frame write leaves the chip ready and the OLED alone. -/
theorem writePwm_frame (pwm : Pwm) (h : bus.device.leds.Ready) :
    (writePwm pwm bus).2.device.leds.Ready
      ∧ (writePwm pwm bus).2.device.oled = bus.device.oled := by
  have hkeeps : LedsKeeps (writePwm pwm) fun leds => leds.Ready ∧ True :=
    keeps_writePwm fun _ _ _ _ _ _ => trivial
  obtain ⟨⟨hready, _⟩, holed⟩ := hkeeps bus.device.oled bus ⟨⟨h, trivial⟩, rfl⟩
  exact ⟨hready, holed⟩

/-- **A frame that is written whole** is what the chip lights. -/
theorem writePwm_lit {pwm : Pwm} (h : bus.device.leds.Ready) (hok : (writePwm pwm bus).1 = true) :
    (writePwm pwm bus).2.device.leds.lit = lightsOf pwm := by
  have hselected : { bus.device.leds with bank := frameZero }.Ready := ⟨h.running, h.enabled, rfl⟩
  rw [takes_writePwm pwm bus hok]
  exact hselected.lit_frame pwm

/-- **A clear that breaks off** lights nothing new. -/
theorem clearPwm_lit (h : bus.device.leds.Ready) :
    (clearPwm bus).2.device.leds.lit ⊆ bus.device.leds.lit := by
  have hkeeps : LedsKeeps clearPwm fun leds => leds.Ready ∧ leds.lit ⊆ bus.device.leds.lit := by
    apply keeps_writePwm
    intro leds first values hvalues hready hlit
    refine (lit_storeAt_dark hready fun value hvalue => ?_).trans hlit
    exact (Vector.mem_replicate.mp (hvalues value hvalue)).2
  exact (hkeeps bus.device.oled bus ⟨⟨h, subset_rfl⟩, rfl⟩).1.2

end

/-! ## Start-up -/

/-- The loop that makes every LED take part. -/
def enableLoop (leds : Leds) (count : Nat) : Leds :=
  (List.range count).foldl (fun leds register => leds.receive [UInt8.ofNat register, 0xff]) leds

theorem enableLoop_succ (leds : Leds) {count : Nat} (h : count < 18) :
    enableLoop leds (count + 1) = (enableLoop leds count).put count 0xff := by
  have hcode : ∀ count < 18, UInt8.ofNat count ≠ 0xfd ∧ (UInt8.ofNat count).toNat = count := by
    decide
  obtain ⟨hne, hnat⟩ := hcode count h
  unfold enableLoop
  rw [List.range_succ, List.foldl_append]
  simp only [List.foldl_cons, List.foldl_nil, Leds.receive]
  rw [if_neg hne, hnat]
  rfl

/-- The loop fills the control registers one by one. -/
theorem enableLoop_registers (leds : Leds) {count : Nat} (hcount : count ≤ 18) :
    (enableLoop leds count).bank = leds.bank
      ∧ (∀ bank ≠ leds.bank, (enableLoop leds count).registers bank = leds.registers bank)
      ∧ ∀ r < count, (enableLoop leds count).registers leds.bank r = 0xff := by
  induction count with
  | zero => exact ⟨rfl, fun _ _ => rfl, fun r hr => absurd hr (Nat.not_lt_zero r)⟩
  | succ count ih =>
      obtain ⟨hbank, hother, hfilled⟩ := ih (by omega)
      rw [enableLoop_succ leds (by omega)]
      refine ⟨hbank, fun bank hne => ?_, fun r hr => ?_⟩
      · funext r
        rw [Leds.put_registers, if_neg fun hmem => hne (hmem.1.trans hbank), hother bank hne]
      · rw [Leds.put_registers]
        by_cases hlast : r = count
        · rw [if_pos ⟨hbank.symm, hlast⟩]
        · rw [if_neg fun hmem => hlast hmem.2]
          exact hfilled r (by omega)

/-- The function registers as `initialize` leaves them. -/
def started (leds : Leds) : Leds :=
  (([[commandRegister, functionBank], [regShutdown, 0x00], [commandRegister, functionBank],
    [regShutdown, 0x01], [commandRegister, functionBank], [regConfig, 0x00],
    [commandRegister, functionBank], [regPictureFrame, frameZero], [commandRegister, functionBank],
    [regAudioSync, 0x00], [commandRegister, frameZero]]
    : List (List UInt8)).foldl Leds.receive leds)

theorem started_running (leds : Leds) :
    (started leds).Running ∧ (started leds).bank = frameZero := by
  refine ⟨⟨?_, ?_, ?_, ?_⟩, rfl⟩ <;> rfl

/-- **Start-up leaves the OLED alone**, however it ends. -/
theorem initializeMatrix_oled (bus : Bus Wires) :
    (initializeMatrix bus).2.device.oled = bus.device.oled := by
  have hbytes (bytes : List UInt8) : LedsKeeps (writeBytes bytes) fun _ => True :=
    keeps_writeBytes fun _ _ _ => trivial
  have hregister (register value : UInt8) :
      LedsKeeps (writeRegister functionBank register value) fun _ => True :=
    (hbytes _).andThen (hbytes _)
  have hkeeps : LedsKeeps initializeMatrix fun _ => True :=
    (hregister _ _).andThen <| (hregister _ _).andThen <| (hregister _ _).andThen <|
      (hregister _ _).andThen <| (hregister _ _).andThen <| (hbytes _).andThen <|
      (keeps_eachBytes fun _ _ => hbytes _).andThen <|
      (hbytes _).andThen (keeps_eachBytes fun _ _ => hbytes _)
  exact (hkeeps bus.device.oled bus ⟨trivial, rfl⟩).2

/-- **Start-up**, whatever the chip held: it runs, every LED takes part,
and none is lit. -/
theorem initializeMatrix_ready (bus : Bus Wires) (hok : (initializeMatrix bus).1 = true) :
    (initializeMatrix bus).2.device.leds.Ready
      ∧ (initializeMatrix bus).2.device.leds.lit = ∅
      ∧ (initializeMatrix bus).2.device.oled = bus.device.oled := by
  have htakes : LedsTakes initializeMatrix fun leds =>
      { enableLoop (started leds) 18 with bank := frameZero }.storeAt pwmBase
        (Vector.replicate pwmChannels (0 : UInt8)).toList := by
    have hregister (register value : UInt8) : LedsTakes (writeRegister functionBank register value)
        fun leds => (leds.receive [commandRegister, functionBank]).receive [register, value] :=
      (takes_writeBytes _).andThen (takes_writeBytes _)
    exact (hregister _ _).andThen <| (hregister _ _).andThen <| (hregister _ _).andThen <|
      (hregister _ _).andThen <| (hregister _ _).andThen <|
      (takes_writeBytes [commandRegister, frameZero]).andThen <|
      (takes_eachBytes (fun register => [UInt8.ofNat register, 0xff]) (List.range 18)).andThen
        (takes_writePwm _)
  obtain ⟨hrunning, hbank⟩ := started_running bus.device.leds
  obtain ⟨_, hother, hfilled⟩ := enableLoop_registers (started bus.device.leds) (Nat.le_refl 18)
  rw [hbank] at hother hfilled
  have hready : { enableLoop (started bus.device.leds) 18 with bank := frameZero }.Ready := by
    refine ⟨?_, fun register hregister => hfilled register (by omega), rfl⟩
    unfold Leds.Running
    dsimp only
    rw [hother 0x0b (by decide)]
    exact hrunning
  rw [htakes bus hok]
  exact ⟨hready.storeAt (Nat.le_refl _) _, (hready.lit_frame _).trans lightsOf_dark, rfl⟩

end DurableTrivia.Firmware

import Mathlib

/-!
# Bus — drivers over transfers that may fail

A driver sends packets to the devices on a bus and gives up at the first
transfer the bus reports as failed; what a failed transfer carried is a
part of its packet. Two rules follow a driver through its loops. What it
`Takes` says what it does to the device when it reports success; what it
`Keeps` is an invariant of the device that holds however it ends.
-/

namespace DurableTrivia.Lib

/-- What becomes of a transfer. -/
inductive Transfer where
  | confirmed
  /-- reported as failed, with `carried` bytes through -/
  | failed (carried : Nat)
  deriving DecidableEq, Repr

/-- How the devices on a bus take packets. -/
structure Listener (Device Packet : Type*) where
  receive : Device → Packet → Device
  /-- what a transfer that breaks off carries of its packet -/
  torn : Packet → Nat → Packet

/-- The devices, and what becomes of the transfers to come; past the end
all are confirmed. -/
structure Bus (Device : Type*) where
  device : Device
  coming : List Transfer := []

/-- A job on the bus, and whether it succeeded. -/
abbrev Driver (Device : Type*) := Bus Device → Bool × Bus Device

variable {Device Packet Item : Type*}

namespace Driver

/-- One transfer. -/
def write (L : Listener Device Packet) (packet : Packet) : Driver Device := fun bus =>
  match bus.coming with
  | .failed carried :: coming =>
      (false, { device := L.receive bus.device (L.torn packet carried), coming })
  | .confirmed :: coming => (true, { device := L.receive bus.device packet, coming })
  | [] => (true, { device := L.receive bus.device packet })

/-- The driver that writes nothing. -/
def done : Driver Device := fun bus => (true, bus)

/-- A job that gives up before it begins. -/
def refuse : Driver Device := fun bus => (false, bus)

/-- One job after the other; the second one only if the first succeeds. -/
def andThen (first second : Driver Device) : Driver Device := fun bus =>
  match first bus with
  | (true, bus) => second bus
  | (false, bus) => (false, bus)

/-- A job for each item, in order. -/
def each (job : Item → Driver Device) : List Item → Driver Device
  | [] => done
  | item :: items => (job item).andThen (each job items)

/-! ## What a job does when it succeeds -/

/-- A job that succeeds has done `effect` to the device. -/
def Takes (job : Driver Device) (effect : Device → Device) : Prop :=
  ∀ bus, (job bus).1 = true → (job bus).2.device = effect bus.device

/-- A job leaves every device with `P` in one with `P`, however it ends. -/
def Keeps (job : Driver Device) (P : Device → Prop) : Prop :=
  ∀ bus, P bus.device → P (job bus).2.device

/-- With nothing but confirmed transfers to come a job succeeds. -/
def Works (job : Driver Device) : Prop :=
  ∀ bus, bus.coming = [] → (job bus).1 = true ∧ (job bus).2.coming = []

variable {L : Listener Device Packet} {first second : Driver Device} {P : Device → Prop}
  {effect effect' : Device → Device}

theorem takes_done : Takes (done : Driver Device) fun device => device := by
  intro bus _
  rfl

theorem keeps_done : Keeps (done : Driver Device) P := by
  intro bus hP
  exact hP

theorem takes_write (packet : Packet) : Takes (write L packet) (L.receive · packet) := by
  intro bus hok
  unfold write at hok ⊢
  split at hok
  · cases hok
  · rfl
  · rfl

/-- What every packet keeps, also a torn one, a transfer keeps. -/
theorem keeps_write {packet : Packet} (hwhole : ∀ device, P device → P (L.receive device packet))
    (htorn : ∀ device carried, P device → P (L.receive device (L.torn packet carried))) :
    Keeps (write L packet) P := by
  intro bus hP
  unfold write
  split
  · exact htorn _ _ hP
  · exact hwhole _ hP
  · exact hwhole _ hP

/-- **One job after the other** does both effects. -/
theorem Takes.andThen (h : Takes first effect) (h' : Takes second effect') :
    Takes (first.andThen second) fun device => effect' (effect device) := by
  intro bus hok
  unfold Driver.andThen at hok ⊢
  cases hfirst : first bus with
  | mk ok after =>
      have hdevice := h bus
      rw [hfirst] at hok hdevice
      cases ok with
      | false => cases hok
      | true =>
          show (second after).2.device = _
          rw [h' after hok, hdevice rfl]

theorem Keeps.andThen (h : Keeps first P) (h' : Keeps second P) :
    Keeps (first.andThen second) P := by
  intro bus hP
  unfold Driver.andThen
  have hafter := h bus hP
  cases hfirst : first bus with
  | mk ok after =>
      rw [hfirst] at hafter
      cases ok with
      | false => exact hafter
      | true => exact h' after hafter

theorem Works.andThen (h : Works first) (h' : Works second) : Works (first.andThen second) := by
  intro bus hcoming
  obtain ⟨hok, hafter⟩ := h bus hcoming
  unfold Driver.andThen
  cases hfirst : first bus with
  | mk ok after =>
      rw [hfirst] at hok hafter
      cases hok
      exact h' after hafter

/-- **A loop that succeeds** has done all its effects in order. -/
theorem takes_each {job : Item → Driver Device} {effect : Device → Item → Device}
    (h : ∀ item, Takes (job item) (effect · item)) (items : List Item) :
    Takes (each job items) fun device => items.foldl effect device := by
  induction items with
  | nil => exact takes_done
  | cons item items ih => exact (h item).andThen ih

/-- **A loop keeps what its turns keep**, wherever it stops. -/
theorem keeps_each {job : Item → Driver Device} {items : List Item}
    (h : ∀ item ∈ items, Keeps (job item) P) : Keeps (each job items) P := by
  induction items with
  | nil => exact keeps_done
  | cons item items ih =>
      have hfirst := h item List.mem_cons_self
      have hrest := ih fun other hother => h other (List.mem_cons_of_mem _ hother)
      exact hfirst.andThen hrest

end Driver

/-! ## Chunks -/

/-- The first `count` chunks of `size` items. -/
def chunks {α : Type*} (size : Nat) : Nat → List α → List (List α)
  | 0, _ => []
  | count + 1, items => items.take size :: chunks size count (items.drop size)

@[simp] theorem length_chunks {α : Type*} (size count : Nat) (items : List α) :
    (chunks size count items).length = count := by
  induction count generalizing items with
  | zero => rfl
  | succ count ih => simp [chunks, ih]

/-- **Chunks put together are the whole.** -/
theorem flatten_chunks {α : Type*} {size count : Nat} {items : List α}
    (h : items.length = count * size) : (chunks size count items).flatten = items := by
  induction count generalizing items with
  | zero => simpa [chunks, eq_comm] using h
  | succ count ih =>
      have hrest : (items.drop size).length = count * size := by
        rw [List.length_drop, h, Nat.succ_mul]
        omega
      simp only [chunks, List.flatten_cons]
      rw [ih hrest, List.take_append_drop]

/-- Every chunk has its full size. -/
theorem length_of_mem_chunks {α : Type*} {size count : Nat} {items chunk : List α}
    (h : items.length = count * size) (hmem : chunk ∈ chunks size count items) :
    chunk.length = size := by
  induction count generalizing items with
  | zero => cases hmem
  | succ count ih =>
      rw [Nat.succ_mul] at h
      simp only [chunks, List.mem_cons] at hmem
      rcases hmem with rfl | hmem
      · rw [List.length_take]
        omega
      · exact ih (by rw [List.length_drop]; omega) hmem

/-- A fold over the whole is a fold over its chunks. -/
theorem foldl_chunks {α β : Type*} {size count : Nat} {items : List α}
    (h : items.length = count * size) (step : β → α → β) (start : β) :
    (chunks size count items).foldl (fun state chunk => chunk.foldl step state) start
      = items.foldl step start := by
  conv_rhs => rw [← flatten_chunks h]
  rw [List.foldl_flatten]

end DurableTrivia.Lib

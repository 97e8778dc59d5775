import DurableTrivia.Lib.Suffix

/-!
# Identity — how a badge derives its names from its factory MAC

`identity_from_mac` and `is_badge_worker_identity` of
`shared/src/identity.rs`. The id spells out all six bytes of the MAC and
so identifies the badge; the callsign is read off the last two bytes
only, and two badges share it exactly when they share those.
-/

namespace DurableTrivia.Shared

open DurableTrivia.Lib

/-- A six-byte factory MAC (`[u8; 6]`). -/
abbrev Mac := Vector UInt8 6

/-- An address from its six bytes. -/
def Mac.ofBytes (a b c d e f : UInt8) : Mac := #v[a, b, c, d, e, f]

/-- Prefix on the badge id derived from a factory MAC. -/
def badgeIdPrefix : String := "esp32-"

/-- Prefix a badge Worker registers its Temporal identity under. -/
def badgeWorkerPrefix : String := "badge/"

/-- Who a badge is. -/
structure BadgeIdentity where
  id : String
  callsign : String
  deriving DecidableEq, Repr

/-- The first words of the callsigns. -/
def adjectives : Vector String 16 :=
  #v["BRAVE", "QUICK", "BOLD", "CALM", "KEEN", "LUCKY", "RUSTY", "SWIFT", "WILD", "BRIGHT",
    "COZY", "EPIC", "NIMBLE", "SOLID", "SUPER", "TINY"]

/-- The second words of the callsigns. -/
def mascots : Vector String 16 :=
  #v["CRAB", "FERRIS", "FOX", "OWL", "OTTER", "YAK", "MOTH", "GECKO", "BEAR", "MOOSE", "PANDA",
    "RAVEN", "SEAL", "TIGER", "WOLF", "WREN"]

/-- A byte masked to its low four bits (`& 0x0f`). -/
def nibble (byte : UInt8) : Fin 16 :=
  ⟨(byte &&& 0x0f).toNat, by
    rw [UInt8.toNat_and]
    exact Nat.lt_of_le_of_lt Nat.and_le_right (by decide)⟩

/-- One digit of `{:x}`, or of `{:X}` when `upper`. -/
def hexDigit (upper : Bool) (n : Fin 16) : Char :=
  if upper then n.val.digitChar.toUpper else n.val.digitChar

/-- `{:02x}` of a byte, or `{:02X}` when `upper`. -/
def hexByte (upper : Bool) (byte : UInt8) : String :=
  String.ofList [hexDigit upper (nibble (byte >>> 4)), hexDigit upper (nibble byte)]

/-- Derives a badge's identity from its six-byte factory MAC. -/
def identityFromMac (mac : Mac) : BadgeIdentity :=
  let adjective := adjectives.get (nibble (mac[4] >>> 4))
  let mascot := mascots.get (nibble mac[4])
  { id := badgeIdPrefix ++ hexByte false mac[0] ++ hexByte false mac[1] ++ hexByte false mac[2]
      ++ hexByte false mac[3] ++ hexByte false mac[4] ++ hexByte false mac[5]
    callsign := adjective ++ "-" ++ mascot ++ "-" ++ hexByte true mac[5] }

/-- `str::starts_with`. -/
def startsWith (text start : String) : Bool :=
  start.toList.isPrefixOf text.toList

/-- Whether a Temporal Worker identity belongs to a badge. -/
def isBadgeWorkerIdentity (identity : String) : Bool :=
  startsWith identity badgeWorkerPrefix || startsWith identity badgeIdPrefix

/-! ## Prefixes -/

theorem startsWith_append (start rest : String) : startsWith (start ++ rest) start = true := by
  simp [startsWith, List.isPrefixOf_iff_prefix]

theorem isBadgeWorkerIdentity_id (rest : String) :
    isBadgeWorkerIdentity (badgeIdPrefix ++ rest) = true := by
  simp [isBadgeWorkerIdentity, startsWith_append]

theorem isBadgeWorkerIdentity_worker (rest : String) :
    isBadgeWorkerIdentity (badgeWorkerPrefix ++ rest) = true := by
  simp [isBadgeWorkerIdentity, startsWith_append]

/-! ## Digits -/

theorem nibble_shiftRight (byte : UInt8) : (nibble (byte >>> 4)).val = byte.toNat / 16 := by
  have hlt := byte.toNat_lt
  simp only [nibble, UInt8.toNat_and, UInt8.toNat_shiftRight]
  rw [show (15 : UInt8).toNat = 2 ^ 4 - 1 from rfl, Nat.and_two_pow_sub_one_eq_mod,
    show (4 : UInt8).toNat % 8 = 4 from rfl, Nat.shiftRight_eq_div_pow]
  omega

theorem nibble_val (byte : UInt8) : (nibble byte).val = byte.toNat % 16 := by
  simp only [nibble, UInt8.toNat_and]
  rw [show (15 : UInt8).toNat = 2 ^ 4 - 1 from rfl, Nat.and_two_pow_sub_one_eq_mod]

/-- The two nibbles make the byte. -/
theorem byte_eq_of_nibbles {a b : UInt8} (hhigh : nibble (a >>> 4) = nibble (b >>> 4))
    (hlow : nibble a = nibble b) : a = b := by
  have hdiv := congrArg Fin.val hhigh
  have hmod := congrArg Fin.val hlow
  rw [nibble_shiftRight, nibble_shiftRight] at hdiv
  rw [nibble_val, nibble_val] at hmod
  apply UInt8.toNat_inj.mp
  omega

theorem hexDigit_injective (upper : Bool) : Function.Injective (hexDigit upper) := by
  have htable : ∀ upper : Bool, ∀ m n : Fin 16, hexDigit upper m = hexDigit upper n → m = n := by
    decide
  intro m n h
  exact htable upper m n h

theorem hexDigit_ne_dash (upper : Bool) (n : Fin 16) : hexDigit upper n ≠ '-' := by
  have htable : ∀ upper : Bool, ∀ n : Fin 16, hexDigit upper n ≠ '-' := by decide
  exact htable upper n

theorem toList_hexByte (upper : Bool) (byte : UInt8) :
    (hexByte upper byte).toList
      = [hexDigit upper (nibble (byte >>> 4)), hexDigit upper (nibble byte)] := by
  simp [hexByte]

theorem dash_not_mem_hexByte (upper : Bool) (byte : UInt8) :
    '-' ∉ (hexByte upper byte).toList := by
  rw [toList_hexByte]
  intro hmem
  rcases List.mem_cons.mp hmem with h | h
  · exact hexDigit_ne_dash _ _ h.symm
  · exact hexDigit_ne_dash _ _ (List.mem_singleton.mp h).symm

theorem hexByte_injective (upper : Bool) : Function.Injective (hexByte upper) := by
  intro a b h
  have hlist := congrArg String.toList h
  rw [toList_hexByte, toList_hexByte, List.cons.injEq, List.cons.injEq] at hlist
  exact byte_eq_of_nibbles (hexDigit_injective _ hlist.1) (hexDigit_injective _ hlist.2.1)

/-! ## What the two names say -/

/-- **The id identifies the badge.** -/
theorem identityFromMac_id_injective : Function.Injective fun mac => (identityFromMac mac).id := by
  intro a b h
  have hlist := congrArg String.toList h
  simp only [identityFromMac, String.toList_append, toList_hexByte, List.append_assoc,
    List.append_cancel_left_eq, List.cons_append, List.nil_append, List.cons.injEq,
    (hexDigit_injective false).eq_iff] at hlist
  obtain ⟨h0, l0, h1, l1, h2, l2, h3, l3, h4, l4, h5, l5, _⟩ := hlist
  apply Vector.ext
  intro i hi
  have hcases : i = 0 ∨ i = 1 ∨ i = 2 ∨ i = 3 ∨ i = 4 ∨ i = 5 := by omega
  rcases hcases with rfl | rfl | rfl | rfl | rfl | rfl
  · exact byte_eq_of_nibbles h0 l0
  · exact byte_eq_of_nibbles h1 l1
  · exact byte_eq_of_nibbles h2 l2
  · exact byte_eq_of_nibbles h3 l3
  · exact byte_eq_of_nibbles h4 l4
  · exact byte_eq_of_nibbles h5 l5

theorem adjectives_injective : Function.Injective adjectives.get := by
  have htable : ∀ m n : Fin 16, adjectives.get m = adjectives.get n → m = n := by decide
  intro m n h
  exact htable m n h

theorem mascots_injective : Function.Injective mascots.get := by
  have htable : ∀ m n : Fin 16, mascots.get m = mascots.get n → m = n := by decide
  intro m n h
  exact htable m n h

theorem dash_not_mem_mascot (n : Fin 16) : '-' ∉ (mascots.get n).toList := by
  have htable : ∀ n : Fin 16, '-' ∉ (mascots.get n).toList := by decide
  exact htable n

/-- Whether two MACs agree on the bytes a callsign is made of. -/
def SameTail (a b : Mac) : Prop :=
  a[4] = b[4] ∧ a[5] = b[5]

instance (a b : Mac) : Decidable (SameTail a b) :=
  inferInstanceAs (Decidable (_ ∧ _))

theorem toList_callsign (mac : Mac) :
    (identityFromMac mac).callsign.toList
      = ((adjectives.get (nibble (mac[4] >>> 4))).toList
        ++ '-' :: (mascots.get (nibble mac[4])).toList)
        ++ '-' :: (hexByte true mac[5]).toList := by
  have hdash : "-".toList = ['-'] := by decide
  simp only [identityFromMac, String.toList_append, hdash, List.append_assoc,
    List.nil_append, List.cons_append]

/-- **Two badges share a callsign exactly when they share the last two
bytes of their MACs.** -/
theorem callsign_eq_iff {a b : Mac} :
    (identityFromMac a).callsign = (identityFromMac b).callsign ↔ SameTail a b := by
  constructor
  · intro h
    have hlist := congrArg String.toList h
    rw [toList_callsign, toList_callsign] at hlist
    -- the hex digits have no dash, so the last dash is where they begin
    obtain ⟨hname, hhex⟩ :=
      append_sep_inj (dash_not_mem_hexByte true _) (dash_not_mem_hexByte true _) hlist
    obtain ⟨hadj, hmas⟩ := append_sep_inj (dash_not_mem_mascot _) (dash_not_mem_mascot _) hname
    constructor
    · exact byte_eq_of_nibbles (adjectives_injective (String.toList_inj.mp hadj))
        (mascots_injective (String.toList_inj.mp hmas))
    · exact hexByte_injective true (String.toList_inj.mp hhex)
  · rintro ⟨h4, h5⟩
    simp only [identityFromMac, h4, h5]

/-- **What the names of a badge say of its MAC**: the id all of it, the
callsign its last two bytes; and a Worker under either name is counted. -/
theorem identity_exact :
    (∀ a b : Mac, ((identityFromMac a).id = (identityFromMac b).id ↔ a = b)
        ∧ ((identityFromMac a).callsign = (identityFromMac b).callsign
          ↔ a[4] = b[4] ∧ a[5] = b[5]))
      ∧ ∀ mac, isBadgeWorkerIdentity (identityFromMac mac).id = true
        ∧ isBadgeWorkerIdentity ("badge/" ++ (identityFromMac mac).callsign) = true := by
  constructor
  · intro a b
    exact ⟨identityFromMac_id_injective.eq_iff, callsign_eq_iff⟩
  · intro mac
    constructor
    · have hid : (identityFromMac mac).id = badgeIdPrefix ++ (hexByte false mac[0]
          ++ hexByte false mac[1] ++ hexByte false mac[2] ++ hexByte false mac[3]
          ++ hexByte false mac[4] ++ hexByte false mac[5]) := by
        simp only [identityFromMac, String.append_assoc]
      rw [hid]
      exact isBadgeWorkerIdentity_id _
    · exact isBadgeWorkerIdentity_worker _

end DurableTrivia.Shared

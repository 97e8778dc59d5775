import Mathlib

/-!
# Bytes — facts about texts read off their UTF-8 bytes

A text has at most as many characters as bytes, and lower-casing its
ASCII letters lower-cases the bytes. Bytes are what a literal evaluates
to fastest, so checks over tables of texts are run on them.
-/

namespace DurableTrivia.Lib

/-- The UTF-8 bytes of a text. -/
def utf8Bytes (text : String) : List UInt8 :=
  text.toByteArray.data.toList

/-- ASCII lower case of one byte; bytes of longer encodings stay. -/
def lowerByte (byte : UInt8) : UInt8 :=
  if 65 ≤ byte && byte ≤ 90 then byte + 32 else byte

/-- The lower-cased bytes as one number. -/
def lowerKey (text : String) : Nat :=
  (utf8Bytes text).foldl (fun key byte => key * 256 + (lowerByte byte).toNat) 1

/-- The codes of ASCII letters and digits. -/
theorem range_of_isAlphanum {c : Char} (h : c.isAlphanum = true) :
    (65 ≤ c.toNat ∧ c.toNat ≤ 90) ∨ (97 ≤ c.toNat ∧ c.toNat ≤ 122)
      ∨ (48 ≤ c.toNat ∧ c.toNat ≤ 57) := by
  simp only [Char.isAlphanum, Char.isAlpha, Char.isUpper, Char.isLower, Char.isDigit,
    Bool.or_eq_true, Bool.and_eq_true, decide_eq_true_eq, or_assoc] at h
  exact h

theorem utf8Bytes_ofList (chars : List Char) :
    utf8Bytes (String.ofList chars) = chars.flatMap String.utf8EncodeChar := by
  unfold utf8Bytes
  rw [String.toByteArray_ofList, List.utf8Encode]
  simp

theorem utf8Bytes_eq (text : String) :
    utf8Bytes text = text.toList.flatMap String.utf8EncodeChar := by
  rw [← utf8Bytes_ofList, String.ofList_toList]

/-- Every character takes at least one byte. -/
theorem length_le_length_utf8Bytes (text : String) : text.length ≤ (utf8Bytes text).length := by
  have hchars : ∀ chars : List Char,
      chars.length ≤ (chars.flatMap String.utf8EncodeChar).length := by
    intro chars
    induction chars with
    | nil => exact Nat.le_refl 0
    | cons c chars ih =>
        have hpos := List.length_pos_iff.mpr (@String.utf8EncodeChar_ne_nil c)
        rw [List.flatMap_cons, List.length_append, List.length_cons]
        omega
  rw [utf8Bytes_eq, ← String.length_toList]
  exact hchars text.toList

theorem lowerByte_eq_self {byte : UInt8} (h : byte.toNat < 65 ∨ 90 < byte.toNat) :
    lowerByte byte = byte := by
  unfold lowerByte
  rw [if_neg]
  rw [Bool.and_eq_true, decide_eq_true_eq, decide_eq_true_eq, UInt8.le_iff_toNat_le,
    UInt8.le_iff_toNat_le, show (65 : UInt8).toNat = 65 from rfl,
      show (90 : UInt8).toNat = 90 from rfl]
  omega

theorem utf8EncodeChar_ascii {c : Char} (h : c.toNat ≤ 127) :
    String.utf8EncodeChar c = [UInt8.ofNat c.toNat] := by
  unfold String.utf8EncodeChar
  exact if_pos h

/-- The bytes of a character beyond ASCII are beyond ASCII. -/
theorem le_of_mem_utf8EncodeChar {c : Char} (hc : 128 ≤ c.toNat) {byte : UInt8}
    (h : byte ∈ String.utf8EncodeChar c) : 128 ≤ byte.toNat := by
  unfold String.utf8EncodeChar at h
  dsimp only at h
  rw [show c.val.toNat = c.toNat from rfl, if_neg (by omega)] at h
  split at h
  · simp only [List.mem_cons, List.not_mem_nil, or_false] at h
    rcases h with rfl | rfl
    all_goals rw [UInt8.toNat_ofNat']; omega
  · split at h
    · simp only [List.mem_cons, List.not_mem_nil, or_false] at h
      rcases h with rfl | rfl | rfl
      all_goals rw [UInt8.toNat_ofNat']; omega
    · simp only [List.mem_cons, List.not_mem_nil, or_false] at h
      rcases h with rfl | rfl | rfl | rfl
      all_goals rw [UInt8.toNat_ofNat']; omega

/-- The bytes of a character that is no ASCII capital are none either. -/
theorem lowerByte_of_mem_utf8EncodeChar {c : Char} (hc : ¬ (65 ≤ c.toNat ∧ c.toNat ≤ 90))
    {byte : UInt8} (h : byte ∈ String.utf8EncodeChar c) : lowerByte byte = byte := by
  apply lowerByte_eq_self
  by_cases hascii : c.toNat ≤ 127
  · rw [utf8EncodeChar_ascii hascii] at h
    rw [List.mem_singleton.mp h, UInt8.toNat_ofNat']
    omega
  · have hhigh := le_of_mem_utf8EncodeChar (by omega) h
    omega

/-- A text whose bytes are ASCII has the characters of its bytes. -/
theorem exists_byte_of_ascii {text : String} (h : ∀ byte ∈ utf8Bytes text, byte.toNat < 128)
    {c : Char} (hc : c ∈ text.toList) :
    ∃ byte ∈ utf8Bytes text, c = Char.ofNat byte.toNat := by
  rw [utf8Bytes_eq] at h ⊢
  have hascii : c.toNat < 128 := by
    by_contra hlarge
    obtain ⟨byte, hbyte⟩ := List.exists_mem_of_ne_nil _ (@String.utf8EncodeChar_ne_nil c)
    have hlow := h byte (List.mem_flatMap.mpr ⟨c, hc, hbyte⟩)
    have hhigh := le_of_mem_utf8EncodeChar (by omega) hbyte
    omega
  refine ⟨UInt8.ofNat c.toNat, List.mem_flatMap.mpr ⟨c, hc, ?_⟩, ?_⟩
  · rw [utf8EncodeChar_ascii (by omega)]
    exact List.mem_singleton_self _
  · rw [UInt8.toNat_ofNat', Nat.mod_eq_of_lt (by omega), Char.ofNat_toNat]

/-- Lower-casing an ASCII letter lower-cases its byte. -/
theorem utf8EncodeChar_toLower (c : Char) :
    String.utf8EncodeChar c.toLower = (String.utf8EncodeChar c).map lowerByte := by
  by_cases hc : 65 ≤ c.toNat ∧ c.toNat ≤ 90
  · have hlower : c.toLower.toNat = c.toNat + 32 := by
      have hcap : c.val ≥ 'A'.val ∧ c.val ≤ 'Z'.val := hc
      unfold Char.toLower
      rw [dif_pos hcap]
      show (c.val + 32).toNat = c.toNat + 32
      rw [UInt32.toNat_add]
      exact Nat.mod_eq_of_lt (by show c.toNat + 32 < 2 ^ 32; omega)
    have hbyte : (UInt8.ofNat c.toNat).toNat = c.toNat := by
      rw [UInt8.toNat_ofNat']
      omega
    have hcapital : lowerByte (UInt8.ofNat c.toNat) = UInt8.ofNat (c.toNat + 32) := by
      unfold lowerByte
      rw [if_pos]
      · rw [UInt8.ofNat_add]
        rfl
      · rw [Bool.and_eq_true, decide_eq_true_eq, decide_eq_true_eq, UInt8.le_iff_toNat_le,
          UInt8.le_iff_toNat_le, hbyte]
        exact hc
    rw [utf8EncodeChar_ascii (by omega), utf8EncodeChar_ascii (by omega), hlower,
      List.map_singleton, hcapital]
  · have hsame : c.toLower = c := by
      unfold Char.toLower
      rw [dif_neg]
      exact hc
    rw [hsame]
    conv_lhs => rw [← List.map_id (String.utf8EncodeChar c)]
    exact List.map_congr_left fun byte hbyte => (lowerByte_of_mem_utf8EncodeChar hc hbyte).symm

theorem utf8Bytes_toLower (text : String) :
    utf8Bytes text.toLower = (utf8Bytes text).map lowerByte := by
  rw [utf8Bytes_eq, utf8Bytes_eq, String.toLower, String.toList_map, List.flatMap_map,
    List.map_flatMap]
  exact List.flatMap_congr fun c _ => utf8EncodeChar_toLower c

/-- Texts that agree in lower case have one key. -/
theorem lowerKey_eq_of_toLower_eq {a b : String} (h : a.toLower = b.toLower) :
    lowerKey a = lowerKey b := by
  have hfold : ∀ text, lowerKey text
      = (utf8Bytes text.toLower).foldl (fun key byte => key * 256 + byte.toNat) 1 := by
    intro text
    rw [utf8Bytes_toLower, List.foldl_map]
    rfl
  rw [hfold, hfold, h]

end DurableTrivia.Lib

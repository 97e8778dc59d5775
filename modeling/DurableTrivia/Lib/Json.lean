import Mathlib

/-!
# Json — values as JSON trees

How a value is written as a JSON tree and read back, the way a derived
serializer does it: scalars, enumerations, optional values, sequences
and maps. A `Codec` comes with its laws: what it reads fits the type,
and whatever another version of the program rendered is read as that
version meant it.
-/

namespace DurableTrivia.Lib

/-! ## Trees -/

/-- A JSON document. An object keeps its entries in order, and repeated
keys too; an integer literal of at most 64 bits is a number of its own
kind. -/
inductive Json where
  | null
  | bool (value : Bool)
  | int (value : Int)
  | float (literal : String)
  | string (text : String)
  | array (items : List Json)
  | object (entries : List (String × Json))

/-- Why a document is not read. -/
inductive Fault where
  | invalidType
  | invalidValue
  | invalidLength (length : Nat)
  | trailing
  | unknownVariant (name : String)
  | duplicateField (name : String)
  | missingField (name : String)
  | custom (message : String)
  deriving DecidableEq, Repr

section
variable {α β : Type} {x : Except Fault α} {b : β}

/-- A read goes through exactly when each of its parts does. -/
theorem bind_eq_ok {f : α → Except Fault β} : x >>= f = .ok b ↔ ∃ a, x = .ok a ∧ f a = .ok b := by
  cases x with
  | error fault => simp [bind, Except.bind]
  | ok a => simp [bind, Except.bind]

theorem map_eq_ok {f : α → β} : x.map f = .ok b ↔ ∃ a, x = .ok a ∧ f a = b := by
  cases x with
  | error fault => simp [Except.map]
  | ok a => simp [Except.map]

end

/-! ## Codecs -/

/-- How the values of a type are written and read. `Renders a j b`: some
version of the program wrote `j` for `a`, and this one reads it as `b`. -/
structure Codec (α : Type) where
  encode : α → Json
  decode : Json → Except Fault α
  /-- the values that the type of the source can hold -/
  Fits : α → Prop
  Renders : α → Json → α → Prop
  fits_of_decode : ∀ {j a}, decode j = .ok a → Fits a
  renders_encode : ∀ {a}, Fits a → Renders a (encode a) a
  decode_of_renders : ∀ {a j b}, Renders a j b → decode j = .ok b

namespace Codec
variable {α : Type} (c : Codec α)

/-- **What is written reads back.** -/
theorem decode_encode {a : α} (h : c.Fits a) : c.decode (c.encode a) = .ok a :=
  c.decode_of_renders (c.renders_encode h)

/-- A type that every version writes alike. -/
def plain (encode : α → Json) (decode : Json → Except Fault α) (Fits : α → Prop)
    (fits_of_decode : ∀ {j a}, decode j = .ok a → Fits a)
    (decode_encode : ∀ {a}, Fits a → decode (encode a) = .ok a) : Codec α where
  encode := encode
  decode := decode
  Fits := Fits
  Renders a j b := Fits a ∧ j = encode a ∧ b = a
  fits_of_decode := fits_of_decode
  renders_encode h := ⟨h, rfl, rfl⟩
  decode_of_renders := by
    rintro a j b ⟨hfits, rfl, rfl⟩
    exact decode_encode hfits

/-! ### Scalars -/

/-- Strings. -/
def string : Codec String :=
  plain .string (fun | .string text => .ok text | _ => .error .invalidType) (fun _ => True)
    (fun _ => trivial) (fun _ => rfl)

/-- Booleans. -/
def bool : Codec Bool :=
  plain .bool (fun | .bool value => .ok value | _ => .error .invalidType) (fun _ => True)
    (fun _ => trivial) (fun _ => rfl)

/-- An integer from `lower` up to below `upper`. -/
def decodeInt (lower upper : Int) : Json → Except Fault Int
  | .int value => if lower ≤ value ∧ value < upper then .ok value else .error .invalidValue
  | _ => .error .invalidType

theorem decodeInt_eq_ok {lower upper value : Int} {j : Json} :
    decodeInt lower upper j = .ok value ↔ j = .int value ∧ lower ≤ value ∧ value < upper := by
  cases j with
  | int n =>
      by_cases h : lower ≤ n ∧ n < upper
      · simp only [decodeInt, if_pos h, Except.ok.injEq, Json.int.injEq]
        constructor
        · rintro rfl
          exact ⟨rfl, h⟩
        · exact fun h => h.1
      · simp only [decodeInt, if_neg h, Json.int.injEq, reduceCtorEq, false_iff]
        rintro ⟨rfl, hrange⟩
        exact h hrange
  | _ => simp [decodeInt]

/-- The integers of one width. -/
def int (lower upper : Int) : Codec Int :=
  plain .int (decodeInt lower upper) (fun value => lower ≤ value ∧ value < upper)
    (fun h => (decodeInt_eq_ok.mp h).2) (fun h => decodeInt_eq_ok.mpr ⟨rfl, h⟩)

/-- The natural numbers of one width. -/
def nat (bound : Nat) : Codec Nat :=
  plain (fun value => .int value) (fun j => (decodeInt 0 bound j).map Int.toNat) (· < bound)
    (fun {j a} h => by
      obtain ⟨value, hread, rfl⟩ := map_eq_ok.mp h
      have hrange := (decodeInt_eq_ok.mp hread).2
      omega)
    (fun {a} h => map_eq_ok.mpr ⟨a, decodeInt_eq_ok.mpr ⟨rfl, by omega, by omega⟩, rfl⟩)

/-- The variants without data of an enumeration, by their names. A variant
is also read from an object that maps its name to null. -/
def decodeVariant (variants : List (String × α)) : Json → Except Fault α
  | .string name | .object [(name, .null)] =>
      match variants.lookup name with
      | some a => .ok a
      | none => .error (.unknownVariant name)
  | _ => .error .invalidType

/-- An enumeration, by its names. -/
def unitVariants (variants : List (String × α)) (name : α → String)
    (h : ∀ a, variants.lookup (name a) = some a) : Codec α :=
  plain (fun a => .string (name a)) (decodeVariant variants) (fun _ => True)
    (fun _ => trivial) (fun {a} _ => by simp [decodeVariant, h a])

/-! ### Optional values and sequences -/

/-- Null for nothing. -/
def decodeOption : Json → Except Fault (Option α)
  | .null => .ok none
  | j => (c.decode j).map some

theorem decodeOption_some {j : Json} {a : α} (hnull : j ≠ .null) (h : c.decode j = .ok a) :
    c.decodeOption j = .ok (some a) := by
  cases j with
  | null => exact absurd rfl hnull
  | _ => exact map_eq_ok.mpr ⟨a, h, rfl⟩

/-- An optional value is null or the value itself, which is never null. -/
def option (h : ∀ a, c.encode a ≠ .null) : Codec (Option α) where
  encode
    | none => .null
    | some a => c.encode a
  decode := c.decodeOption
  Fits value := ∀ a ∈ value, c.Fits a
  Renders
    | none, j, none => j = .null
    | some a, j, some b => j ≠ .null ∧ c.Renders a j b
    | _, _, _ => False
  fits_of_decode := by
    intro j value hread
    cases j with
    | null =>
        cases hread
        simp
    | _ =>
        obtain ⟨a, hinner, rfl⟩ := map_eq_ok.mp hread
        simpa using c.fits_of_decode hinner
  renders_encode := by
    intro value hfits
    cases value with
    | none => rfl
    | some a => exact ⟨h a, c.renders_encode (hfits a rfl)⟩
  decode_of_renders := by
    intro value j value' hrenders
    match value, value', hrenders with
    | none, none, hrenders =>
        cases hrenders
        rfl
    | some a, some b, ⟨hnull, hrenders⟩ =>
        exact c.decodeOption_some hnull (c.decode_of_renders hrenders)

@[simp] theorem fits_option {h : ∀ a, c.encode a ≠ .null} {value : Option α} :
    (c.option h).Fits value ↔ ∀ a ∈ value, c.Fits a := Iff.rfl

theorem fits_none {h : ∀ a, c.encode a ≠ .null} : (c.option h).Fits none := by
  rintro _ ⟨⟩

/-- The items of an array, up to the first that is not read. -/
def decodeItems : List Json → Except Fault (List α)
  | [] => .ok []
  | j :: js => do
      let a ← c.decode j
      let as ← decodeItems js
      .ok (a :: as)

/-- The items of an array, each rendered. -/
def RendersItems : List α → List Json → List α → Prop
  | [], [], [] => True
  | a :: as, j :: js, b :: bs => c.Renders a j b ∧ RendersItems as js bs
  | _, _, _ => False

theorem fits_of_decodeItems {js : List Json} {as : List α} (h : c.decodeItems js = .ok as) :
    ∀ a ∈ as, c.Fits a := by
  induction js generalizing as with
  | nil =>
      cases h
      simp
  | cons j js ih =>
      obtain ⟨a, hread, h⟩ := bind_eq_ok.mp h
      obtain ⟨as', hrest, h⟩ := bind_eq_ok.mp h
      cases h
      simp only [List.mem_cons, forall_eq_or_imp]
      exact ⟨c.fits_of_decode hread, ih hrest⟩

theorem length_decodeItems {js : List Json} {as : List α} (h : c.decodeItems js = .ok as) :
    as.length = js.length := by
  induction js generalizing as with
  | nil =>
      cases h
      rfl
  | cons j js ih =>
      obtain ⟨a, _, h⟩ := bind_eq_ok.mp h
      obtain ⟨as', hrest, h⟩ := bind_eq_ok.mp h
      cases h
      simp [ih hrest]

theorem rendersItems_encode {as : List α} (h : ∀ a ∈ as, c.Fits a) :
    c.RendersItems as (as.map c.encode) as := by
  induction as with
  | nil => trivial
  | cons a as ih =>
      simp only [List.mem_cons, forall_eq_or_imp] at h
      exact ⟨c.renders_encode h.1, ih h.2⟩

theorem decodeItems_of_renders {as : List α} {js : List Json} {bs : List α}
    (h : c.RendersItems as js bs) : c.decodeItems js = .ok bs := by
  induction js generalizing as bs with
  | nil =>
      match as, bs, h with
      | [], [], _ => rfl
  | cons j js ih =>
      match as, bs, h with
      | a :: as, b :: bs, ⟨hitem, hrest⟩ =>
          exact bind_eq_ok.mpr ⟨b, c.decode_of_renders hitem, bind_eq_ok.mpr ⟨bs, ih hrest, rfl⟩⟩

/-- Arrays. -/
def list : Codec (List α) where
  encode as := .array (as.map c.encode)
  decode
    | .array js => c.decodeItems js
    | _ => .error .invalidType
  Fits as := ∀ a ∈ as, c.Fits a
  Renders as j bs := ∃ js, j = .array js ∧ c.RendersItems as js bs
  fits_of_decode := by
    intro j as h
    cases j with
    | array js => exact c.fits_of_decodeItems h
    | _ => cases h
  renders_encode h := ⟨_, rfl, c.rendersItems_encode h⟩
  decode_of_renders := by
    rintro as j bs ⟨js, rfl, h⟩
    exact c.decodeItems_of_renders h

/-- The items of an array of fixed length: they are read before the length
is looked at. -/
def decodeExact (n : Nat) (js : List Json) : Except Fault (Vector α n) := do
  let as ← c.decodeItems (js.take n)
  if h : as.toArray.size = n then
    if js.length = n then .ok ⟨as.toArray, h⟩ else .error .trailing
  else .error (.invalidLength js.length)

theorem decodeExact_eq_ok {n : Nat} {js : List Json} {v : Vector α n} :
    c.decodeExact n js = .ok v ↔ c.decodeItems js = .ok v.toList := by
  unfold decodeExact
  constructor
  · intro h
    obtain ⟨as, hread, h⟩ := bind_eq_ok.mp h
    split at h
    · split at h
      · rename_i hlength
        cases h
        rwa [List.take_of_length_le (by omega)] at hread
      · cases h
    · cases h
  · intro h
    have hlength : js.length = n := by
      rw [← c.length_decodeItems h, Vector.length_toList]
    refine bind_eq_ok.mpr ⟨v.toList, ?_, ?_⟩
    · rwa [List.take_of_length_le (by omega)]
    · rw [dif_pos (by simp), if_pos hlength]
      simp [Vector.toList]

/-- An array of fixed length. -/
def vector (n : Nat) : Codec (Vector α n) where
  encode v := .array (v.toList.map c.encode)
  decode
    | .array js => c.decodeExact n js
    | _ => .error .invalidType
  Fits v := ∀ a ∈ v.toList, c.Fits a
  Renders v j w := ∃ js, j = .array js ∧ c.RendersItems v.toList js w.toList
  fits_of_decode := by
    intro j v h
    cases j with
    | array js => exact c.fits_of_decodeItems (c.decodeExact_eq_ok.mp h)
    | _ => cases h
  renders_encode h := ⟨_, rfl, c.rendersItems_encode h⟩
  decode_of_renders := by
    rintro v j w ⟨js, rfl, h⟩
    exact c.decodeExact_eq_ok.mpr (c.decodeItems_of_renders h)

end Codec

/-! ## Maps -/

section
variable {α : Type}

/-- The one shape of a map that its sorted entries build. -/
def canonical (m : Std.TreeMap String α) : Std.TreeMap String α := .ofList m.toList

/-- It is the same map. -/
theorem canonical_equiv (m : Std.TreeMap String α) : (canonical m).Equiv m := by
  apply Std.TreeMap.Equiv.of_forall_constGet?_eq
  intro key
  unfold canonical
  show (Std.TreeMap.ofList m.toList)[key]? = m[key]?
  cases hget : m[key]? with
  | some value =>
      exact Std.TreeMap.getElem?_ofList_of_mem Std.ReflCmp.compare_self m.distinct_keys_toList
        (Std.TreeMap.mem_toList_iff_getElem?_eq_some.mpr hget)
  | none =>
      refine Std.TreeMap.getElem?_ofList_of_contains_eq_false ?_
      rw [Std.TreeMap.map_fst_toList_eq_keys]
      have hout : key ∉ m := by simp [Std.TreeMap.mem_iff_isSome_getElem?, hget]
      simpa [Std.TreeMap.mem_keys] using hout

@[simp] theorem toList_canonical (m : Std.TreeMap String α) : (canonical m).toList = m.toList :=
  Std.TreeMap.equiv_iff_toList_eq.mp (canonical_equiv m)

@[simp] theorem canonical_canonical (m : Std.TreeMap String α) :
    canonical (canonical m) = canonical m := by
  rw [canonical, toList_canonical, ← canonical]

/-- A value of the map was inserted or was there. -/
theorem getElem?_foldl {entries : List (String × α)} {m : Std.TreeMap String α} {key : String}
    {value : α}
    (h : (entries.foldl (fun m entry => m.insert entry.1 entry.2) m)[key]? = some value) :
    value ∈ entries.map Prod.snd ∨ m[key]? = some value := by
  induction entries generalizing m with
  | nil => exact .inr h
  | cons entry entries ih =>
      rcases ih h with hmem | hget
      · exact .inl (List.mem_cons_of_mem _ hmem)
      · rw [Std.TreeMap.getElem?_insert] at hget
        split at hget
        · obtain rfl := Option.some.inj hget
          exact .inl (List.mem_cons_self)
        · exact .inr hget

/-- A map has only values of the entries it is built from. -/
theorem mem_values_ofList {entries : List (String × α)} {value : α}
    (h : value ∈ (canonical (Std.TreeMap.ofList entries)).toList.map Prod.snd) :
    value ∈ entries.map Prod.snd := by
  rw [toList_canonical, Std.TreeMap.equiv_iff_toList_eq.mp Std.TreeMap.ofList_equiv_foldl] at h
  obtain ⟨⟨key, _⟩, hmem, rfl⟩ := List.mem_map.mp h
  have hget := getElem?_foldl (Std.TreeMap.mem_toList_iff_getElem?_eq_some.mp hmem)
  simpa using hget

end

namespace Codec
variable {α : Type} (c : Codec α)

/-- An object with keys of its own: the last entry of a key counts. -/
def decodeMap : Json → Except Fault (Std.TreeMap String α)
  | .object entries =>
      (c.decodeItems (entries.map Prod.snd)).map fun values =>
        canonical (.ofList ((entries.map Prod.fst).zip values))
  | _ => .error .invalidType

/-- Objects as maps, the keys in order. -/
def map : Codec (Std.TreeMap String α) where
  encode m := .object (m.toList.map fun entry => (entry.1, c.encode entry.2))
  decode := c.decodeMap
  Fits m := canonical m = m ∧ ∀ a ∈ m.toList.map Prod.snd, c.Fits a
  Renders m j m' := ∃ entries values, j = .object entries
    ∧ entries.map Prod.fst = m.toList.map Prod.fst
    ∧ c.RendersItems (m.toList.map Prod.snd) (entries.map Prod.snd) values
    ∧ m' = canonical (.ofList ((m.toList.map Prod.fst).zip values))
  fits_of_decode := by
    intro j m h
    cases j with
    | object entries =>
        obtain ⟨values, hread, rfl⟩ := map_eq_ok.mp h
        refine ⟨canonical_canonical _, fun a ha => ?_⟩
        obtain ⟨⟨key, _⟩, hmem, rfl⟩ := List.mem_map.mp (mem_values_ofList ha)
        exact c.fits_of_decodeItems hread _ (List.of_mem_zip hmem).2
    | _ => cases h
  renders_encode := by
    intro m h
    refine ⟨_, m.toList.map Prod.snd, rfl, by simp [Function.comp_def], ?_, ?_⟩
    · simpa [Function.comp_def] using c.rendersItems_encode h.2
    · rw [← List.zip_of_prod rfl rfl]
      exact ((canonical_canonical m).trans h.1).symm
  decode_of_renders := by
    rintro m j m' ⟨entries, values, rfl, hkeys, hitems, rfl⟩
    refine map_eq_ok.mpr ⟨values, c.decodeItems_of_renders hitems, ?_⟩
    rw [hkeys]
end Codec
/-! ## Types that every version writes alike -/

namespace Codec
variable {α : Type}

/-- Every version writes the type alike. -/
def Exact (c : Codec α) : Prop := ∀ ⦃a j b⦄, c.Renders a j b → b = a

@[simp] theorem exact_string : string.Exact := fun _ _ _ h => h.2.2
@[simp] theorem exact_bool : bool.Exact := fun _ _ _ h => h.2.2
@[simp] theorem exact_int {lower upper : Int} : (int lower upper).Exact := fun _ _ _ h => h.2.2
@[simp] theorem exact_nat {bound : Nat} : (nat bound).Exact := fun _ _ _ h => h.2.2

@[simp] theorem exact_unitVariants {variants : List (String × α)} {name : α → String}
    {h : ∀ a, variants.lookup (name a) = some a} : (unitVariants variants name h).Exact :=
  fun _ _ _ h => h.2.2

section
variable {c : Codec α} {R : α → α → Prop}

/-- What every version keeps of each item, it keeps along the list. -/
theorem forall₂_of_items (hR : ∀ {a j b}, c.Renders a j b → R a b) {as bs : List α} {js : List Json}
    (h : c.RendersItems as js bs) : List.Forall₂ R as bs := by
  induction js generalizing as bs with
  | nil =>
      match as, bs, h with
      | [], [], _ => exact .nil
  | cons j js ih =>
      match as, bs, h with
      | a :: as, b :: bs, ⟨hitem, hrest⟩ => exact .cons (hR hitem) (ih hrest)

theorem forall₂_of_list (hR : ∀ {a j b}, c.Renders a j b → R a b) {as bs : List α} {j : Json}
    (h : c.list.Renders as j bs) : List.Forall₂ R as bs := by
  obtain ⟨js, rfl, h⟩ := h
  exact forall₂_of_items hR h

theorem rel_of_option (hR : ∀ {a j b}, c.Renders a j b → R a b)
    {hnull : ∀ a, c.encode a ≠ .null} {a b : Option α} {j : Json}
    (h : (c.option hnull).Renders a j b) : Option.Rel R a b := by
  match a, b, h with
  | none, none, _ => exact .none
  | some a, some b, ⟨_, h⟩ => exact .some (hR h)

theorem Exact.items (hc : c.Exact) {as bs : List α} {js : List Json}
    (h : c.RendersItems as js bs) : bs = as := by
  have hsame : List.Forall₂ (fun a b => b = a) as bs := forall₂_of_items (fun h => hc h) h
  exact (List.forall₂_eq_eq_eq ▸ hsame.flip)

theorem Exact.option (hc : c.Exact) {hnull : ∀ a, c.encode a ≠ .null} : (c.option hnull).Exact := by
  intro a j b h
  match a, b, h with
  | none, none, _ => rfl
  | some a, some b, ⟨_, h⟩ => exact congrArg some (hc h)

theorem Exact.list (hc : c.Exact) : c.list.Exact := by
  rintro as j bs ⟨js, rfl, h⟩
  exact hc.items h

theorem Exact.vector (hc : c.Exact) {n : Nat} : (c.vector n).Exact := by
  rintro v j w ⟨js, rfl, h⟩
  exact Vector.toList_inj.mp (hc.items h)

/-- A map is read as the same map. -/
theorem Exact.map (hc : c.Exact) {m m' : Std.TreeMap String α} {j : Json}
    (h : c.map.Renders m j m') : m'.Equiv m := by
  obtain ⟨entries, values, rfl, hkeys, hitems, rfl⟩ := h
  rw [hc.items hitems, ← List.zip_of_prod rfl rfl]
  exact (canonical_equiv _).trans (canonical_equiv m)

end

end Codec

end DurableTrivia.Lib

import DurableTrivia.Lib.Json

/-!
# JsonRecords — records as JSON, and how they grow

A `Row` is the fields of a record, and `Codec.struct` the record's codec.
It is read from an object, in any order, with the keys it does not know
passed over; a field may declare a default for objects that were written
before it existed. So a record may grow, and versions that know fewer
fields or more still read each other.
-/

namespace DurableTrivia.Lib

/-! ## Fields -/

/-- One field of a record. `missing` is what an object without it stands
for; `declared` what an array that ends before it stands for, which only
a declared default gives. -/
structure Field (β : Type) where
  name : String
  codec : Codec β
  missing : Option β := none
  declared : Option β := none
  fits_missing : ∀ b ∈ missing, codec.Fits b
  missing_of_declared : ∀ b ∈ declared, missing = some b

namespace Field
variable {β : Type} (name : String) (codec : Codec β)

/-- A field that every document has. -/
def required : Field β where
  name := name
  codec := codec
  fits_missing := by simp
  missing_of_declared := by simp

/-- A field with a declared default. -/
def defaulted (value : β) (h : codec.Fits value) : Field β where
  name := name
  codec := codec
  missing := some value
  declared := some value
  fits_missing := by simpa using h
  missing_of_declared := by simp

/-- An optional value without a declared default. -/
def optional (h : ∀ b, codec.encode b ≠ .null) : Field (Option β) where
  name := name
  codec := codec.option h
  missing := some none
  fits_missing := by simp [Codec.option]
  missing_of_declared := by simp

variable (field : Field β)

/-- The value of a field, from its entry of an object. -/
def ofEntry : Option Json → Except Fault β
  | some j => field.codec.decode j
  | none => match field.missing with
      | some b => .ok b
      | none => .error (.missingField field.name)

/-- The value of a field that an array has no item for. -/
def ofEnd (position : Nat) : Except Fault β :=
  match field.declared with
  | some b => .ok b
  | none => .error (.invalidLength position)

theorem fits_of_entry {entry : Option Json} {b : β} (h : field.ofEntry entry = .ok b) :
    field.codec.Fits b := by
  cases entry with
  | some j => exact field.codec.fits_of_decode h
  | none =>
      cases hmissing : field.missing with
      | none => simp [ofEntry, hmissing] at h
      | some b' =>
          obtain rfl : b' = b := by simpa [ofEntry, hmissing] using h
          exact field.fits_missing _ hmissing

theorem fits_of_end {position : Nat} {b : β} (h : field.ofEnd position = .ok b) :
    field.codec.Fits b := by
  cases hdeclared : field.declared with
  | none => simp [ofEnd, hdeclared] at h
  | some b' =>
      obtain rfl : b' = b := by simpa [ofEnd, hdeclared] using h
      exact field.fits_missing _ (field.missing_of_declared _ hdeclared)

/-- The entry renders a field: it is there and rendered, or not there and
read as the declared default. -/
def Renders (a : β) : Option Json → β → Prop
  | some j, b => field.codec.Renders a j b
  | none, b => field.declared = some b

theorem ofEntry_of_renders {a b : β} {entry : Option Json} (h : field.Renders a entry b) :
    field.ofEntry entry = .ok b := by
  cases entry with
  | some j => exact field.codec.decode_of_renders h
  | none => simp [ofEntry, field.missing_of_declared _ h]

end Field

namespace Codec
variable {β : Type} {c : Codec β} {name : String} {a b : β} {entry : Option Json}

/-- A required field is there. -/
theorem renders_of_required (h : (Field.required name c).Renders a entry b) :
    ∃ j, c.Renders a j b := by
  cases entry with
  | some j => exact ⟨j, h⟩
  | none => cases h

theorem renders_of_optional {hnull : ∀ b, c.encode b ≠ .null} {a b : Option β}
    (h : (Field.optional name c hnull).Renders a entry b) :
    ∃ j, (c.option hnull).Renders a j b := by
  cases entry with
  | some j => exact ⟨j, h⟩
  | none => cases h

theorem renders_of_defaulted {value : β} {hfits : c.Fits value}
    (h : (Field.defaulted name c value hfits).Renders a entry b) :
    (∃ j, c.Renders a j b) ∨ b = value := by
  cases entry with
  | some j => exact .inl ⟨j, h⟩
  | none => exact .inr (Option.some.inj h).symm

theorem Exact.required (hc : c.Exact) (h : (Field.required name c).Renders a entry b) : b = a := by
  obtain ⟨j, h⟩ := renders_of_required h
  exact hc h

theorem Exact.optional (hc : c.Exact) {hnull : ∀ b, c.encode b ≠ .null} {a b : Option β}
    (h : (Field.optional name c hnull).Renders a entry b) : b = a := by
  obtain ⟨j, h⟩ := renders_of_optional h
  exact hc.option h

theorem Exact.defaulted (hc : c.Exact) {value : β} {hfits : c.Fits value}
    (h : (Field.defaulted name c value hfits).Renders a entry b) : b = a ∨ b = value := by
  refine (renders_of_defaulted h).imp_left ?_
  rintro ⟨j, h⟩
  exact hc h

end Codec

/-! ## Rows -/

/-- The fields of a record, in the order of their declaration. -/
inductive Row : Type → Type 1 where
  | nil : Row Unit
  | cons {β γ : Type} (field : Field β) (rest : Row γ) : Row (β × γ)

namespace Row

/-- The names of the fields. -/
def names {γ : Type} : Row γ → List String
  | nil => []
  | cons field rest => field.name :: rest.names

/-- The fields of an object. -/
def write {γ : Type} : Row γ → γ → List (String × Json)
  | nil, () => []
  | cons field rest, (b, c) => (field.name, field.codec.encode b) :: rest.write c

/-- Every field fits its codec. -/
def Fits {γ : Type} : Row γ → γ → Prop
  | nil, () => True
  | cons field rest, (b, c) => field.codec.Fits b ∧ rest.Fits c

/-- The entries render every field, wherever they stand. -/
def Renders {γ : Type} : Row γ → γ → List (String × Json) → γ → Prop
  | nil, _, _, _ => True
  | cons field rest, (a, as), entries, (b, bs) =>
      field.Renders a (entries.lookup field.name) b ∧ rest.Renders as entries bs

/-- Reads the value of one entry for its fault alone. -/
def check {γ : Type} : Row γ → String → Json → Except Fault Unit
  | nil, _, _ => .ok ()
  | cons field rest, name, j =>
      if name = field.name then (field.codec.decode j).map fun _ => () else rest.check name j

/-- The entries of an object in their order: a field that is there twice
and a value that is not read stop it, and other keys are passed over. -/
def visit {γ : Type} (row : Row γ) : List String → List (String × Json) → Except Fault Unit
  | _, [] => .ok ()
  | seen, (name, j) :: entries =>
      if name ∈ row.names then
        if name ∈ seen then .error (.duplicateField name)
        else do
          row.check name j
          row.visit (name :: seen) entries
      else row.visit seen entries

/-- The fields of a visited object. -/
def build {γ : Type} : Row γ → List (String × Json) → Except Fault γ
  | nil, _ => .ok ()
  | cons field rest, entries => do
      let b ← field.ofEntry (entries.lookup field.name)
      let bs ← rest.build entries
      .ok (b, bs)

/-- The fields of an array, by position. -/
def take {γ : Type} : Row γ → Nat → List Json → Except Fault γ
  | nil, _, [] => .ok ()
  | nil, _, _ :: _ => .error .trailing
  | cons field rest, position, j :: js => do
      let b ← field.codec.decode j
      let bs ← rest.take (position + 1) js
      .ok (b, bs)
  | cons field rest, position, [] => do
      let b ← field.ofEnd position
      let bs ← rest.take (position + 1) []
      .ok (b, bs)

variable {γ : Type} (row : Row γ)

theorem fits_of_build {entries : List (String × Json)} {c : γ} (h : row.build entries = .ok c) :
    row.Fits c := by
  induction row with
  | nil => trivial
  | cons field rest ih =>
      obtain ⟨b, hb, h⟩ := bind_eq_ok.mp h
      obtain ⟨bs, hbs, h⟩ := bind_eq_ok.mp h
      cases h
      exact ⟨field.fits_of_entry hb, ih hbs⟩

theorem fits_of_take {position : Nat} {js : List Json} {c : γ}
    (h : row.take position js = .ok c) : row.Fits c := by
  induction row generalizing position js with
  | nil => trivial
  | cons field rest ih =>
      cases js with
      | cons j js =>
          obtain ⟨b, hb, h⟩ := bind_eq_ok.mp h
          obtain ⟨bs, hbs, h⟩ := bind_eq_ok.mp h
          cases h
          exact ⟨field.codec.fits_of_decode hb, ih hbs⟩
      | nil =>
          obtain ⟨b, hb, h⟩ := bind_eq_ok.mp h
          obtain ⟨bs, hbs, h⟩ := bind_eq_ok.mp h
          cases h
          exact ⟨field.fits_of_end hb, ih hbs⟩

/-! ### What a row writes -/

theorem map_fst_write (c : γ) : (row.write c).map Prod.fst = row.names := by
  induction row with
  | nil => rfl
  | cons field rest ih => simp [write, names, ih]

/-- A row looks at nothing but its own fields. -/
theorem renders_congr {c d : γ} {entries entries' : List (String × Json)}
    (h : ∀ name ∈ row.names, entries.lookup name = entries'.lookup name)
    (hrenders : row.Renders c entries d) : row.Renders c entries' d := by
  induction row with
  | nil => trivial
  | cons field rest ih =>
      obtain ⟨hfield, hrest⟩ := hrenders
      simp only [names, List.mem_cons, forall_eq_or_imp] at h
      refine ⟨?_, ih h.2 hrest⟩
      rw [← h.1]
      exact hfield

/-- Behind its first field a record is written as the rest of it. -/
theorem lookup_write_cons {β : Type} {field : Field β} {rest : Row γ} {b : β} {c : γ}
    {name : String}
    (h : field.name ∉ rest.names) (hname : name ∈ rest.names) :
    ((cons field rest).write (b, c)).lookup name = (rest.write c).lookup name := by
  have hne : (name == field.name) = false := by
    rw [beq_eq_false_iff_ne]
    rintro rfl
    exact h hname
  simp [write, List.lookup_cons, hne]

/-- **A row renders what it writes**, where no two fields share a name. -/
theorem renders_write (hnames : row.names.Nodup) {c : γ} (h : row.Fits c) :
    row.Renders c (row.write c) c := by
  induction row with
  | nil => trivial
  | cons field rest ih =>
      obtain ⟨b, bs⟩ := c
      simp only [names, List.nodup_cons] at hnames
      refine ⟨?_, ?_⟩
      · simp only [write, List.lookup_cons_self]
        exact field.codec.renders_encode h.1
      · exact renders_congr rest (fun name hname => (lookup_write_cons hnames.1 hname).symm)
          (ih hnames.2 h.2)

/-- The fields with a declared default. -/
def declared {γ : Type} : Row γ → List String
  | nil => []
  | cons field rest => (if field.declared.isSome then [field.name] else []) ++ rest.declared

theorem names_of_declared {name : String} (h : name ∈ row.declared) : name ∈ row.names := by
  induction row with
  | nil => cases h
  | cons field rest ih =>
      rcases List.mem_append.mp h with hhead | hrest
      · split at hhead
        · simpa [names] using .inl (List.mem_singleton.mp hhead)
        · cases hhead
      · exact List.mem_cons_of_mem _ (ih hrest)

/-- **A row renders what another version wrote**: every field either as in
a rendering, or left out where it has a declared default. What is there
is kept. -/
theorem exists_renders (hnames : row.names.Nodup) {c : γ} {written entries : List (String × Json)}
    (h : row.Renders c written c)
    (hentries : ∀ name ∈ row.names, entries.lookup name = written.lookup name
      ∨ entries.lookup name = none ∧ name ∈ row.declared) :
    ∃ d, row.Renders c entries d ∧ ∀ name ∈ row.names, entries.lookup name ≠ none →
      (row.write d).lookup name = (row.write c).lookup name := by
  induction row with
  | nil => exact ⟨(), trivial, by simp [names]⟩
  | cons field rest ih =>
      obtain ⟨a, as⟩ := c
      obtain ⟨hfield, hrest⟩ := h
      simp only [names, List.nodup_cons] at hnames
      simp only [names, List.mem_cons, forall_eq_or_imp] at hentries
      have htail : ∃ bs, rest.Renders as entries bs ∧ ∀ name ∈ rest.names,
          entries.lookup name ≠ none →
            (rest.write bs).lookup name = (rest.write as).lookup name := by
        refine ih hnames.2 hrest fun name hname => (hentries.2 name hname).imp_right ?_
        rintro ⟨hnone, hdeclared⟩
        refine ⟨hnone, (List.mem_append.mp hdeclared).resolve_left fun hhead => ?_⟩
        split at hhead
        · obtain rfl := List.mem_singleton.mp hhead
          exact hnames.1 hname
        · cases hhead
      have hhead : ∃ b, field.Renders a (entries.lookup field.name) b
          ∧ (entries.lookup field.name ≠ none → b = a) := by
        rcases hentries.1 with heq | ⟨hnone, hdeclared⟩
        · exact ⟨a, by rwa [heq], fun _ => rfl⟩
        · rw [hnone]
          rcases List.mem_append.mp hdeclared with hmem | hmem
          · cases hdefault : field.declared with
            | none => simp [hdefault] at hmem
            | some b => exact ⟨b, hdefault, fun hsome => absurd rfl hsome⟩
          · exact absurd (rest.names_of_declared hmem) hnames.1
      obtain ⟨b, hb, hkeep⟩ := hhead
      obtain ⟨bs, hbs, hkeeps⟩ := htail
      refine ⟨(b, bs), ⟨hb, hbs⟩, fun name hname hsome => ?_⟩
      rcases List.mem_cons.mp hname with rfl | hname
      · rw [hkeep hsome]
        simp [write]
      · rw [lookup_write_cons hnames.1 hname, lookup_write_cons hnames.1 hname]
        exact hkeeps name hname hsome

/-! ### What a row reads -/

/-- **What is rendered is built.** -/
theorem build_of_renders {c d : γ} {entries : List (String × Json)}
    (h : row.Renders c entries d) : row.build entries = .ok d := by
  induction row with
  | nil => rfl
  | cons field rest ih =>
      obtain ⟨hfield, hrest⟩ := h
      exact bind_eq_ok.mpr ⟨d.1, field.ofEntry_of_renders hfield,
        bind_eq_ok.mpr ⟨d.2, ih hrest, rfl⟩⟩

/-- Every entry that is looked up is read without a fault. -/
theorem check_of_renders {c d : γ} {entries : List (String × Json)}
    (h : row.Renders c entries d) {name : String} {j : Json} (hname : name ∈ row.names)
    (hlookup : entries.lookup name = some j) : row.check name j = .ok () := by
  induction row with
  | nil => cases hname
  | cons field rest ih =>
      obtain ⟨hfield, hrest⟩ := h
      by_cases heq : name = field.name
      · subst heq
        rw [hlookup] at hfield
        rw [check, if_pos rfl]
        exact map_eq_ok.mpr ⟨_, field.codec.decode_of_renders hfield, rfl⟩
      · rw [check, if_neg heq]
        exact ih hrest ((List.mem_cons.mp hname).resolve_left heq)

/-- The keys of an object that a row knows, in order. -/
def known (entries : List (String × Json)) : List String :=
  (entries.map Prod.fst).filter (· ∈ row.names)

/-- An object whose known keys differ, from each other and from the ones
already seen, is visited whole when each of its entries is read. -/
theorem visit_eq_ok {seen : List String} {entries : List (String × Json)}
    (hknown : (row.known entries).Nodup) (hseen : ∀ name ∈ row.known entries, name ∉ seen)
    (hcheck : ∀ name ∈ row.names, ∀ j, entries.lookup name = some j → row.check name j = .ok ()) :
    row.visit seen entries = .ok () := by
  induction entries generalizing seen with
  | nil => rfl
  | cons entry entries ih =>
      obtain ⟨name, j⟩ := entry
      by_cases hname : name ∈ row.names
      · have hcons : row.known ((name, j) :: entries) = name :: row.known entries := by
          simp [known, hname]
        rw [hcons] at hknown hseen
        simp only [List.nodup_cons] at hknown
        simp only [List.mem_cons, forall_eq_or_imp] at hseen
        rw [visit, if_pos hname, if_neg hseen.1]
        refine bind_eq_ok.mpr ⟨(), hcheck name hname j (by simp), ih hknown.2 ?_ ?_⟩
        · intro other hother
          simp only [List.mem_cons, not_or]
          refine ⟨?_, hseen.2 other hother⟩
          rintro rfl
          exact hknown.1 hother
        · intro other hother j' hlookup
          refine hcheck other hother j' ?_
          have hne : (other == name) = false := by
            rw [beq_eq_false_iff_ne]
            rintro rfl
            refine hknown.1 (List.mem_filter.mpr ⟨?_, by simpa using hother⟩)
            obtain ⟨before, after, rfl, _⟩ := List.lookup_eq_some_iff.mp hlookup
            simp
          simp [List.lookup_cons, hne, hlookup]
      · have hskip : row.known ((name, j) :: entries) = row.known entries := by
          simp [known, hname]
        rw [hskip] at hknown hseen
        rw [visit, if_neg hname]
        refine ih hknown hseen fun other hother j' hlookup => hcheck other hother j' ?_
        have hne : (other == name) = false := by
          rw [beq_eq_false_iff_ne]
          rintro rfl
          exact hname hother
        simp [List.lookup_cons, hne, hlookup]

end Row

/-! ## Records -/

namespace Codec
variable {ρ γ : Type}

/-- A record, as the tuple of its fields: read from an object, or by
position from an array. -/
def decodeStruct (ofRow : γ → ρ) (row : Row γ) : Json → Except Fault ρ
  | .object entries => do
      row.visit [] entries
      let fields ← row.build entries
      .ok (ofRow fields)
  | .array js => (row.take 0 js).map ofRow
  | _ => .error .invalidType

/-- **The codec of a record.** Other versions may have written the fields
in any order, left out those with a declared default and added fields that
this version does not know. -/
def struct (fields : ρ ≃ γ) (row : Row γ) (hnames : row.names.Nodup) : Codec ρ where
  encode r := .object (row.write (fields r))
  decode := decodeStruct fields.symm row
  Fits r := row.Fits (fields r)
  Renders r j s := ∃ entries, j = .object entries ∧ (row.known entries).Nodup
    ∧ row.Renders (fields r) entries (fields s)
  fits_of_decode := by
    intro j r h
    cases j with
    | object entries =>
        obtain ⟨_, _, h⟩ := bind_eq_ok.mp h
        obtain ⟨c, hbuild, h⟩ := bind_eq_ok.mp h
        cases h
        simpa using row.fits_of_build hbuild
    | array js =>
        obtain ⟨c, htake, rfl⟩ := map_eq_ok.mp h
        simpa using row.fits_of_take htake
    | _ => cases h
  renders_encode h := ⟨_, rfl, by
      unfold Row.known
      rw [row.map_fst_write]
      exact hnames.filter _, row.renders_write hnames h⟩
  decode_of_renders := by
    rintro r j s ⟨entries, rfl, hknown, h⟩
    have hvisit := row.visit_eq_ok hknown (fun _ _ => List.not_mem_nil)
      (fun name hname j hlookup => row.check_of_renders h hname hlookup)
    refine bind_eq_ok.mpr ⟨(), hvisit, bind_eq_ok.mpr ⟨_, row.build_of_renders h, ?_⟩⟩
    rw [Equiv.symm_apply_apply]

end Codec

namespace Row

/-- Every field is required and exact. -/
def Exact {γ : Type} : Row γ → Prop
  | nil => True
  | cons field rest => field.declared = none ∧ field.codec.Exact ∧ rest.Exact

theorem Exact.eq {γ : Type} {row : Row γ} (hrow : row.Exact) {c d : γ}
    {entries : List (String × Json)} (h : row.Renders c entries d) : d = c := by
  induction row with
  | nil => rfl
  | cons field rest ih =>
      obtain ⟨hdeclared, hfield, hrest⟩ := hrow
      obtain ⟨hhead, htail⟩ := h
      refine Prod.ext ?_ (ih hrest htail)
      cases hentry : entries.lookup field.name with
      | some j =>
          rw [hentry] at hhead
          exact hfield hhead
      | none =>
          rw [hentry] at hhead
          rw [Field.Renders, hdeclared] at hhead
          cases hhead
end Row

/-- **What a version wrote that knew fewer fields is read**, wherever its
entries stand and whatever other keys are among them, and every field
that is there is kept. -/
theorem Codec.exists_renders_struct {ρ γ : Type} {fields : ρ ≃ γ} {row : Row γ}
    {hnames : row.names.Nodup} {r : ρ} (h : row.Fits (fields r)) {entries : List (String × Json)}
    (hknown : (row.known entries).Nodup)
    (hentries : ∀ name ∈ row.names, entries.lookup name = (row.write (fields r)).lookup name
      ∨ entries.lookup name = none ∧ name ∈ row.declared) :
    ∃ s, (Codec.struct fields row hnames).Renders r (.object entries) s
      ∧ ∀ name ∈ row.names, entries.lookup name ≠ none →
        (row.write (fields s)).lookup name = (row.write (fields r)).lookup name := by
  obtain ⟨c, hc, hkept⟩ := row.exists_renders hnames (row.renders_write hnames h) hentries
  refine ⟨fields.symm c, ⟨entries, rfl, hknown, ?_⟩, ?_⟩
  · rwa [Equiv.apply_symm_apply]
  · rwa [Equiv.apply_symm_apply]

/-- A record of exact fields without defaults. -/
theorem Codec.exact_struct {ρ γ : Type} {fields : ρ ≃ γ} {row : Row γ} {hnames : row.names.Nodup}
    (h : row.Exact) : (Codec.struct fields row hnames).Exact := by
  rintro r j s ⟨entries, rfl, -, hrenders⟩
  exact fields.injective (h.eq hrenders)

end DurableTrivia.Lib

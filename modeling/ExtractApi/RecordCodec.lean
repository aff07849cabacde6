import ExtractApi.JsonText
import ExtractApi.LoadedJson

/-!
# Codecs of records

A `Codec` decodes a loaded value, with every error there is, and encodes what it built.  It
is `Lawful` when the encoding of a value decodes to that value, and when whatever it decodes
from a parser's value can be written.  The combinators keep the law, so a decoder that is put
together from them has canonical forms.
-/

namespace ExtractApi.RecordCodec

open PythonText JsonValue LoadedJson JsonText

/-! ## Values of a parser -/

mutual

/-- The strings can be written as UTF-8 and the finite floats are doubles. -/
def Clean : Loaded → Prop
  | .float (.finite q) => IsDouble q
  | .str s => encodable s = true
  | .arr items => CleanItems items
  | .obj fields => CleanFields fields
  | _ => True

def CleanItems : List Loaded → Prop
  | [] => True
  | item :: items => Clean item ∧ CleanItems items

def CleanFields : List (PyStr × Loaded) → Prop
  | [] => True
  | (_, value) :: fields => Clean value ∧ CleanFields fields

end

mutual

theorem clean_ofJson : ∀ {value : Json}, WellFormed value → Clean (ofJson value)
  | .null, _ => trivial
  | .bool _, _ => trivial
  | .int _, _ => trivial
  | .float _, h => h
  | .str _, h => h
  | .arr _, h => by
      rw [WellFormed] at h
      rw [ofJson, Clean]
      exact cleanItems_ofItems h
  | .obj _, h => by
      rw [WellFormed] at h
      rw [ofJson, Clean]
      exact cleanFields_ofFields h.2

theorem cleanItems_ofItems : ∀ {items : List Json}, WellFormedItems items →
    CleanItems (ofItems items)
  | [], _ => trivial
  | _ :: _, h => by
      rw [WellFormedItems] at h
      exact ⟨clean_ofJson h.1, cleanItems_ofItems h.2⟩

theorem cleanFields_ofFields : ∀ {fields : List (PyStr × Json)}, WellFormedFields fields →
    CleanFields (ofFields fields)
  | [], _ => trivial
  | (_, _) :: _, h => by
      rw [WellFormedFields] at h
      exact ⟨clean_ofJson h.2.1, cleanFields_ofFields h.2.2⟩

end

theorem Clean.field? {value found : Loaded} {name : String} (h : Clean value)
    (hfound : value.field? name = some found) : Clean found := by
  rcases value with _ | _ | _ | _ | _ | _ | fields
  case obj =>
    rw [Clean] at h
    rw [Loaded.field?] at hfound
    induction fields with
    | nil => cases hfound
    | cons f fields ih =>
      rw [CleanFields] at h
      by_cases hname : f.1 = py name
      · rw [List.find?_cons_of_pos (by simpa using hname)] at hfound
        cases hfound
        exact h.1
      · rw [List.find?_cons_of_neg (by simpa using hname)] at hfound
        exact ih h.2 hfound
  all_goals cases hfound

theorem map_fst_ofFields (fields : List (PyStr × Json)) :
    (ofFields fields).map Prod.fst = fields.map Prod.fst := by
  induction fields with
  | nil => rfl
  | cons f fields ih =>
    obtain ⟨name, value⟩ := f
    rw [ofFields, List.map_cons, List.map_cons, ih]

theorem field?_cons_self (name : String) (value : Loaded) (fields : List (PyStr × Loaded)) :
    (Loaded.obj ((py name, value) :: fields)).field? name = some value := by
  simp [Loaded.field?]

theorem field?_cons_of_ne {key : PyStr} {name : String} (h : key ≠ py name) (value : Loaded)
    (fields : List (PyStr × Loaded)) :
    (Loaded.obj ((key, value) :: fields)).field? name = (Loaded.obj fields).field? name := by
  simp [Loaded.field?, h]

/-! ## Errors -/

section Errors

variable {E α β : Type}

/-- Both results, or the errors of both. -/
def both (x : Except (List E) α) (y : Except (List E) β) : Except (List E) (α × β) :=
  match x, y with
  | .ok a, .ok b => .ok (a, b)
  | .ok _, .error errors => .error errors
  | .error errors, .ok _ => .error errors
  | .error errors, .error others => .error (errors ++ others)

/-- Nothing, when there are no errors. -/
def failWith : List E → Except (List E) Unit
  | [] => .ok ()
  | errors => .error errors

theorem both_eq_ok_iff {x : Except (List E) α} {y : Except (List E) β} {a : α} {b : β} :
    both x y = .ok (a, b) ↔ x = .ok a ∧ y = .ok b := by
  rcases x with _ | _
  · rcases y with _ | _ <;> simp [both]
  · rcases y with _ | _ <;> simp [both]

/-- The errors of a part, located in the whole. -/
def located (place : E → E) (x : Except (List E) α) : Except (List E) α :=
  x.mapError (List.map place)

theorem located_eq_ok_iff {place : E → E} {x : Except (List E) α} {a : α} :
    located place x = .ok a ↔ x = .ok a := by
  rcases x with _ | _ <;> simp [located, Except.mapError]

end Errors

/-- The errors of a record and of a list, and where an error of a part is. -/
structure Faults (E : Type) where
  inField : PyStr → E → E
  inItem : ℕ → E → E
  /-- a field that the record has not -/
  missing : Loaded → E
  /-- the value of a field that is none of the record's -/
  extra : Loaded → E
  notRecord : Loaded → E
  notList : Loaded → E

/-! ## Codecs -/

structure Codec (E α : Type) where
  decode : Loaded → Except (List E) α
  encode : α → Json

/-- What is encoded decodes to itself and is nested at most `n` deep, and what was decoded can be
    written. -/
structure Codec.Lawful {E α : Type} (c : Codec E α) (n : ℕ) : Prop where
  decode_encode : ∀ a, c.decode (ofJson (c.encode a)) = .ok a
  shallow : ∀ a, depth (c.encode a) ≤ n
  wellFormed : ∀ {value a}, Clean value → c.decode value = .ok a → WellFormed (c.encode a)

/-- The values that a check accepts. -/
abbrev Checked {α : Type} (check : α → Except PyStr Unit) : Type := { a : α // check a = .ok () }

section Codecs

variable {E α β : Type}

/-- The value with the proof that it passes, or the message of the check. -/
def attest (check : α → Except PyStr Unit) (a : α) : Except PyStr (Checked check) :=
  match h : check a with
  | .ok () => .ok ⟨a, h⟩
  | .error message => .error message

theorem attest_val {check : α → Except PyStr Unit} (a : Checked check) :
    attest check a.val = .ok a := by
  unfold attest
  split
  · rfl
  · rename_i message hmessage
    rw [a.property] at hmessage
    cases hmessage

theorem val_of_attest {check : α → Except PyStr Unit} {a : α} {b : Checked check}
    (h : attest check a = .ok b) : b.val = a := by
  unfold attest at h
  split at h
  · cases h
    rfl
  · cases h

/-- A codec whose values pass a check. -/
def checked (c : Codec E α) (check : α → Except PyStr Unit) (refused : PyStr → Loaded → E) :
    Codec E (Checked check) where
  decode value :=
    (c.decode value).bind fun a =>
      (attest check a).mapError fun message => [refused message value]
  encode a := c.encode a.val

/-- A codec of values that can be absent. -/
def nullable (c : Codec E α) : Codec E (Option α) where
  decode
    | .null => .ok none
    | value => (c.decode value).map some
  encode
    | none => .null
    | some a => c.encode a

/-- The items from index `i` on. -/
def decodeItems (faults : Faults E) (c : Codec E α) :
    ℕ → List Loaded → Except (List E) (List α)
  | _, [] => .ok []
  | i, item :: items =>
      (both (located (faults.inItem i) (c.decode item)) (decodeItems faults c (i + 1) items)).map
        fun decoded => decoded.1 :: decoded.2

def list (faults : Faults E) (c : Codec E α) : Codec E (List α) where
  decode
    | .arr items => decodeItems faults c 0 items
    | value => .error [faults.notList value]
  encode items := .arr (items.map c.encode)

theorem Codec.Lawful.checked {c : Codec E α} {n : ℕ} (h : c.Lawful n)
    (check : α → Except PyStr Unit) (refused : PyStr → Loaded → E) :
    (checked c check refused).Lawful n where
  shallow a := h.shallow a.val
  decode_encode a := by
    simp only [RecordCodec.checked, h.decode_encode, Except.bind, attest_val, Except.mapError]
  wellFormed := by
    intro value a hclean hdecode
    simp only [RecordCodec.checked] at hdecode ⊢
    rcases hvalue : c.decode value with errors | b
    · rw [hvalue] at hdecode
      cases hdecode
    · rw [hvalue] at hdecode
      rcases hattest : attest check b with message | b'
      · simp [Except.bind, hattest, Except.mapError] at hdecode
      · simp only [Except.bind, hattest, Except.mapError, Except.ok.injEq] at hdecode
        rw [← hdecode, val_of_attest hattest]
        exact h.wellFormed hclean hvalue

theorem ofJson_eq_null_iff {value : Json} : ofJson value = .null ↔ value = .null := by
  rcases value with _ | _ | _ | _ | _ | _ | _ <;> simp [ofJson]

theorem Codec.Lawful.nullable {c : Codec E α} {n : ℕ} (h : c.Lawful n)
    (hnull : ∀ a, c.encode a ≠ .null) : (nullable c).Lawful n where
  shallow a := by
    rcases a with _ | a
    · exact Nat.zero_le n
    · exact h.shallow a
  decode_encode a := by
    rcases a with _ | a
    · rfl
    · have hne : ofJson (c.encode a) ≠ .null := fun heq => hnull a (ofJson_eq_null_iff.mp heq)
      have hdecode := h.decode_encode a
      simp only [RecordCodec.nullable, hdecode, Except.map]
  wellFormed := by
    intro value a hclean hdecode
    simp only [RecordCodec.nullable] at hdecode ⊢
    split at hdecode
    · cases hdecode
      trivial
    · rcases hvalue : c.decode value with errors | b
      · rw [hvalue] at hdecode
        cases hdecode
      · rw [hvalue] at hdecode
        cases hdecode
        exact h.wellFormed hclean hvalue

section Lists

variable {faults : Faults E} {c : Codec E α} {n : ℕ}

theorem decodeItems_cons_eq_ok_iff {i : ℕ} {item : Loaded} {items : List Loaded} {as : List α} :
    decodeItems faults c i (item :: items) = .ok as ↔
      ∃ b bs, c.decode item = .ok b ∧ decodeItems faults c (i + 1) items = .ok bs ∧
        as = b :: bs := by
  rw [decodeItems]
  constructor
  · intro h
    rcases hboth : both (located (faults.inItem i) (c.decode item))
      (decodeItems faults c (i + 1) items) with errors | ⟨b, bs⟩
    · rw [hboth] at h
      cases h
    · rw [hboth] at h
      cases h
      obtain ⟨hb, hbs⟩ := both_eq_ok_iff.mp hboth
      exact ⟨b, bs, located_eq_ok_iff.mp hb, hbs, rfl⟩
  · rintro ⟨b, bs, hb, hbs, rfl⟩
    rw [both_eq_ok_iff.mpr ⟨located_eq_ok_iff.mpr hb, hbs⟩]
    rfl

theorem decodeItems_encode (h : c.Lawful n) (as : List α) (i : ℕ) :
    decodeItems faults c i (ofItems (as.map c.encode)) = .ok as := by
  induction as generalizing i with
  | nil => rfl
  | cons a as ih =>
    rw [List.map_cons, ofItems]
    exact decodeItems_cons_eq_ok_iff.mpr ⟨a, as, h.decode_encode a, ih (i + 1), rfl⟩

theorem wellFormed_decodeItems (h : c.Lawful n) {items : List Loaded} (hclean : CleanItems items)
    {as : List α} {i : ℕ} (hdecode : decodeItems faults c i items = .ok as) :
    WellFormedItems (as.map c.encode) := by
  induction items generalizing as i with
  | nil =>
    cases hdecode
    trivial
  | cons item items ih =>
    rw [CleanItems] at hclean
    obtain ⟨b, bs, hb, hbs, rfl⟩ := decodeItems_cons_eq_ok_iff.mp hdecode
    rw [List.map_cons, WellFormedItems]
    exact ⟨h.wellFormed hclean.1 hb, ih hclean.2 hbs⟩

theorem Codec.Lawful.list (h : c.Lawful n) : (list faults c).Lawful (n + 1) where
  shallow as := by
    rw [RecordCodec.list, depth, Nat.add_le_add_iff_right, depthItems_le_iff]
    intro item hitem
    obtain ⟨a, -, rfl⟩ := List.mem_map.mp hitem
    exact h.shallow a
  decode_encode as := by
    simp only [RecordCodec.list, ofJson]
    exact decodeItems_encode h as 0
  wellFormed := by
    intro value as hclean hdecode
    simp only [RecordCodec.list] at hdecode ⊢
    split at hdecode
    · rw [Clean] at hclean
      rw [WellFormed]
      exact wellFormed_decodeItems h hclean hdecode
    · cases hdecode

end Lists

end Codecs

/-! ## Records -/

/-- The fields of a record. -/
structure Fields (E α : Type) where
  names : List String
  decode : Loaded → Except (List E) α
  encode : α → List (PyStr × Json)

namespace Fields

variable {E α β : Type}

structure Lawful (fs : Fields E α) (n : ℕ) : Prop where
  names_encode : ∀ a, (fs.encode a).map Prod.fst = fs.names.map py
  /-- only the record's own fields are read -/
  decode_congr : ∀ {value other a}, (∀ name ∈ fs.names, value.field? name = other.field? name) →
    fs.decode value = .ok a → fs.decode other = .ok a
  decode_encode : (fs.names.map py).Nodup → ∀ a,
    fs.decode (.obj (ofFields (fs.encode a))) = .ok a
  shallow : ∀ a, depthFields (fs.encode a) ≤ n
  wellFormed : ∀ {value a}, Clean value → fs.decode value = .ok a → WellFormedFields (fs.encode a)

def nil : Fields E Unit where
  names := []
  decode _ := .ok ()
  encode _ := []

/-- The value of a field that must be there. -/
def decodeField (faults : Faults E) (name : String) (c : Codec E α) (value : Loaded) :
    Except (List E) α :=
  located (faults.inField (py name))
    ((value.field? name).elim (.error [faults.missing value]) c.decode)

def cons (faults : Faults E) (name : String) (c : Codec E α) (fs : Fields E β) :
    Fields E (α × β) where
  names := name :: fs.names
  decode value := both (decodeField faults name c value) (fs.decode value)
  encode ab := (py name, c.encode ab.1) :: fs.encode ab.2

/-- The same fields of another type. -/
def equiv (fs : Fields E α) (e : α ≃ β) : Fields E β where
  names := fs.names
  decode value := (fs.decode value).map e
  encode b := fs.encode (e.symm b)

theorem lawful_nil {n : ℕ} : (nil : Fields E Unit).Lawful n where
  names_encode _ := rfl
  decode_congr _ h := h
  decode_encode _ _ := rfl
  shallow _ := Nat.zero_le n
  wellFormed _ _ := trivial

variable {faults : Faults E} {name : String} {c : Codec E α} {fs : Fields E β} {n : ℕ}

theorem decodeField_eq_ok_iff {value : Loaded} {a : α} :
    decodeField faults name c value = .ok a ↔
      ∃ found, value.field? name = some found ∧ c.decode found = .ok a := by
  rw [decodeField, located_eq_ok_iff]
  rcases value.field? name with _ | found <;> simp

theorem Lawful.cons (hc : c.Lawful n) (hfs : fs.Lawful n) :
    (cons faults name c fs).Lawful n where
  shallow ab := by
    rw [Fields.cons, depthFields]
    exact max_le (hc.shallow ab.1) (hfs.shallow ab.2)
  names_encode ab := by
    simp only [Fields.cons, List.map_cons, hfs.names_encode]
  decode_congr := by
    rintro value other ⟨a, b⟩ hagree hdecode
    simp only [Fields.cons] at hagree hdecode ⊢
    obtain ⟨ha, hb⟩ := both_eq_ok_iff.mp hdecode
    obtain ⟨found, hfound, ha⟩ := decodeField_eq_ok_iff.mp ha
    rw [hagree name (List.mem_cons_self ..)] at hfound
    have hrest := hfs.decode_congr
      (fun name' hname' => hagree name' (List.mem_cons_of_mem name hname')) hb
    exact both_eq_ok_iff.mpr ⟨decodeField_eq_ok_iff.mpr ⟨found, hfound, ha⟩, hrest⟩
  decode_encode := by
    rintro hnodup ⟨a, b⟩
    simp only [Fields.cons, ofFields, List.map_cons, List.nodup_cons] at hnodup ⊢
    have hagree : ∀ name' ∈ fs.names, (Loaded.obj (ofFields (fs.encode b))).field? name' =
        (Loaded.obj ((py name, ofJson (c.encode a)) :: ofFields (fs.encode b))).field? name' := by
      intro name' hname'
      have hne : py name ≠ py name' := by
        intro heq
        exact hnodup.1 (heq ▸ List.mem_map_of_mem hname')
      rw [field?_cons_of_ne hne]
    have hrest := hfs.decode_congr hagree (hfs.decode_encode hnodup.2 b)
    exact both_eq_ok_iff.mpr
      ⟨decodeField_eq_ok_iff.mpr ⟨_, field?_cons_self .., hc.decode_encode a⟩, hrest⟩
  wellFormed := by
    rintro value ⟨a, b⟩ hclean hdecode
    simp only [Fields.cons] at hdecode ⊢
    obtain ⟨ha, hb⟩ := both_eq_ok_iff.mp hdecode
    obtain ⟨found, hfound, ha⟩ := decodeField_eq_ok_iff.mp ha
    rw [WellFormedFields]
    exact ⟨encodable_py name, hc.wellFormed (hclean.field? hfound) ha, hfs.wellFormed hclean hb⟩

theorem Lawful.equiv (hfs : fs.Lawful n) {γ : Type} (e : β ≃ γ) : (fs.equiv e).Lawful n where
  shallow b := hfs.shallow (e.symm b)
  names_encode b := hfs.names_encode (e.symm b)
  decode_congr := by
    intro value other b hagree hdecode
    simp only [Fields.equiv] at hagree hdecode ⊢
    rcases hvalue : fs.decode value with errors | a
    · rw [hvalue] at hdecode
      cases hdecode
    · rw [hvalue] at hdecode
      rw [hfs.decode_congr hagree hvalue]
      exact hdecode
  decode_encode := by
    intro hnodup b
    simp only [Fields.equiv, hfs.decode_encode hnodup, Except.map, Equiv.apply_symm_apply]
  wellFormed := by
    intro value b hclean hdecode
    simp only [Fields.equiv] at hdecode ⊢
    rcases hvalue : fs.decode value with errors | a
    · rw [hvalue] at hdecode
      cases hdecode
    · rw [hvalue] at hdecode
      cases hdecode
      rw [Equiv.symm_apply_apply]
      exact hfs.wellFormed hclean hvalue

end Fields

section Records

variable {E α : Type}

/-- The fields of an object that are none of the record's. -/
def extras (faults : Faults E) (names : List String) (fields : List (PyStr × Loaded)) : List E :=
  (fields.filter fun f => decide (f.1 ∉ names.map py)).map fun f =>
    faults.inField f.1 (faults.extra f.2)

/-- A record with exactly these fields. -/
def record (faults : Faults E) (fs : Fields E α) : Codec E α where
  decode
    | .obj fields =>
        (both (fs.decode (.obj fields)) (failWith (extras faults fs.names fields))).map Prod.fst
    | value => .error [faults.notRecord value]
  encode a := .obj (fs.encode a)

variable {faults : Faults E} {fs : Fields E α}

theorem extras_eq_nil {fields : List (PyStr × Loaded)}
    (h : fields.map Prod.fst = fs.names.map py) : extras faults fs.names fields = [] := by
  rw [extras, List.map_eq_nil_iff, List.filter_eq_nil_iff]
  intro f hf
  have hmem : f.1 ∈ fs.names.map py := h ▸ List.mem_map_of_mem hf
  simpa using hmem

theorem decode_record_eq_ok {value : Loaded} {a : α} (h : (record faults fs).decode value = .ok a) :
    fs.decode value = .ok a := by
  rcases value with _ | _ | _ | _ | _ | _ | fields
  case obj =>
    simp only [record] at h
    rcases hboth : both (fs.decode (.obj fields)) (failWith (extras faults fs.names fields)) with
      errors | ⟨b, u⟩
    · rw [hboth] at h
      cases h
    · rw [hboth] at h
      cases h
      exact (both_eq_ok_iff.mp hboth).1
  all_goals cases h

theorem Fields.Lawful.record {n : ℕ} (h : fs.Lawful n) (hnodup : (fs.names.map py).Nodup) :
    (record faults fs).Lawful (n + 1) where
  shallow a := by
    rw [RecordCodec.record, depth]
    exact Nat.add_le_add_right (h.shallow a) 1
  decode_encode a := by
    have hnames : (ofFields (fs.encode a)).map Prod.fst = fs.names.map py :=
      (map_fst_ofFields _).trans (h.names_encode a)
    simp only [RecordCodec.record, ofJson, extras_eq_nil hnames, h.decode_encode hnodup]
    rfl
  wellFormed := by
    intro value a hclean hdecode
    have hfields := decode_record_eq_ok hdecode
    simp only [RecordCodec.record]
    rw [WellFormed, h.names_encode]
    exact ⟨hnodup, h.wellFormed hclean hfields⟩

end Records

end ExtractApi.RecordCodec

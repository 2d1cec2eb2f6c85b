import Haske.Lib.Serde

/-!
# The value of a text

A value has many texts: with white space between the tokens, and with escapes in strings that
need none.  `IsText` says of bytes that they are a text of a value; what a compact writer makes
of it is one (`isText_toBytes`).

A reader that depends on a document only through its value is `Extensional`: it reads all texts
of a value in the same way (`fromSlice_of_isText`).  The readers of scalars are, and those of
arrays and structures that are made of such readers.
-/

namespace Json

mutual

/-- The value of a document, with all the members of its objects, in their order. -/
def Doc.value : Doc → Option Value
  | .null => some .null
  | .bool b => some (.bool b)
  | .nat n => some (.nat n)
  | .literal text => (Utf8.decode text).map .literal
  | .str raw => (readRaw raw).map .str
  | .arr elems => (valueElems elems).map .arr
  | .obj members => (valueMembers members).map .obj

def valueElems : List Doc → Option (List Value)
  | [] => some []
  | d :: ds => do
      let v ← d.value
      let vs ← valueElems ds
      some (v :: vs)

def valueMembers : List (List UInt8 × Doc) → Option (List (String × Value))
  | [] => some []
  | (k, d) :: ms => do
      let k ← readRaw k
      let v ← d.value
      let ms ← valueMembers ms
      some ((k, v) :: ms)

end

/-- The bytes are a text of the value. -/
def IsText (bs : List UInt8) (v : Value) : Prop := (parse bs).bind Doc.value = some v

instance (bs : List UInt8) (v : Value) : Decidable (IsText bs v) :=
  inferInstanceAs (Decidable (_ = _))

mutual

lemma value_toDoc : ∀ v : Value, v.toDoc.value = some v
  | .null => rfl
  | .bool _ => rfl
  | .nat _ => rfl
  | .literal text => by simp [Value.toDoc, Doc.value]
  | .str s => by simp [Value.toDoc, Doc.value]
  | .arr elems => by rw [Value.toDoc, Doc.value, valueElems_toDocElems elems, Option.map_some]
  | .obj members => by
      rw [Value.toDoc, Doc.value, valueMembers_toDocMembers members, Option.map_some]

lemma valueElems_toDocElems : ∀ vs : List Value, valueElems (toDocElems vs) = some vs
  | [] => rfl
  | v :: vs => by
      simp only [toDocElems, valueElems, value_toDoc v, valueElems_toDocElems vs,
        Option.bind_eq_bind, Option.bind_some]

lemma valueMembers_toDocMembers : ∀ ms : List (String × Value),
    valueMembers (toDocMembers ms) = some ms
  | [] => rfl
  | (k, v) :: ms => by
      simp only [toDocMembers, valueMembers, readRaw_escape, value_toDoc v,
        valueMembers_toDocMembers ms, Option.bind_eq_bind, Option.bind_some]

end

/-- What a compact writer makes of a value is a text of it. -/
theorem isText_toBytes {v : Value} (hv : v.NoLiteral) : IsText v.toBytes v := by
  rw [IsText, parse_toBytes hv, Option.bind_some, value_toDoc]

lemma valueElems_eq_some {ds : List Doc} {vs : List Value} :
    valueElems ds = some vs ↔ List.Forall₂ (fun d v => d.value = some v) ds vs := by
  induction ds generalizing vs with
  | nil =>
      rw [valueElems, List.forall₂_nil_left_iff, Option.some.injEq, eq_comm]
  | cons d ds ih =>
      simp only [valueElems, Option.bind_eq_bind, Option.bind_eq_some_iff,
        List.forall₂_cons_left_iff]
      constructor
      · rintro ⟨v, hv, vs, hvs, heq⟩
        exact ⟨v, vs, hv, ih.1 hvs, (Option.some.inj heq).symm⟩
      · rintro ⟨v, vs, hv, hvs, rfl⟩
        exact ⟨v, hv, vs, ih.2 hvs, rfl⟩

end Json

namespace Serde

open Json

variable {α β : Type*}

/-- The reader looks at the value of a document only. -/
def Extensional (read : Doc → Option α) : Prop :=
  ∀ d v, d.value = some v → read d = read v.toDoc

/-- **All texts of a value are read in the same way.** -/
theorem fromSlice_of_isText {read : Doc → Option α} (hread : Extensional read) {bs : List UInt8}
    {v : Value} (h : IsText bs v) : fromSlice read bs = read v.toDoc := by
  obtain ⟨d, hparse, hvalue⟩ := Option.bind_eq_some_iff.1 h
  rw [fromSlice, hparse, Option.bind_some, hread d v hvalue]

/-! ### Scalars and arrays -/

/-- It is enough to look at the documents that have a value, one for each constructor. -/
lemma extensional_of {read : Doc → Option α}
    (hliteral : ∀ raw text, Utf8.decode raw = some text →
      read (.literal raw) = read (Value.literal text).toDoc)
    (hstr : ∀ raw s, readRaw raw = some s → read (.str raw) = read (Value.str s).toDoc)
    (harr : ∀ ds vs, valueElems ds = some vs → read (.arr ds) = read (Value.arr vs).toDoc)
    (hobj : ∀ ms vs, valueMembers ms = some vs → read (.obj ms) = read (Value.obj vs).toDoc) :
    Extensional read := by
  intro d v hvalue
  cases d with
  | null | bool b | nat n =>
      rw [← Option.some.inj hvalue]
      rfl
  | literal raw =>
      obtain ⟨text, htext, rfl⟩ := Option.map_eq_some_iff.1 hvalue
      exact hliteral raw text htext
  | str raw =>
      obtain ⟨s, hs, rfl⟩ := Option.map_eq_some_iff.1 hvalue
      exact hstr raw s hs
  | arr ds =>
      obtain ⟨vs, hvs, rfl⟩ := Option.map_eq_some_iff.1 hvalue
      exact harr ds vs hvs
  | obj ms =>
      obtain ⟨vs, hvs, rfl⟩ := Option.map_eq_some_iff.1 hvalue
      exact hobj ms vs hvs

lemma asStr_extensional : Extensional asStr := by
  refine extensional_of (fun _ _ _ => rfl) (fun raw s hs => ?_) (fun _ _ _ => rfl)
    fun _ _ _ => rfl
  rw [asStr_toDoc, asStr, hs]

lemma asBool_extensional : Extensional asBool :=
  extensional_of (fun _ _ _ => rfl) (fun _ _ _ => rfl) (fun _ _ _ => rfl) fun _ _ _ => rfl

lemma asUInt_extensional (bound : ℕ) : Extensional (asUInt bound) :=
  extensional_of (fun _ _ _ => rfl) (fun _ _ _ => rfl) (fun _ _ _ => rfl) fun _ _ _ => rfl

lemma Extensional.map {read : Doc → Option α} (hread : Extensional read) (f : α → β) :
    Extensional fun d => (read d).map f := by
  intro d v hvalue
  exact congrArg (Option.map f) (hread d v hvalue)

lemma asU32_extensional : Extensional asU32 := (asUInt_extensional _).map _

lemma Extensional.asOption {read : Doc → Option α} (hread : Extensional read) :
    Extensional (asOption read) := by
  refine extensional_of (fun raw text htext => ?_) (fun raw s hs => ?_) (fun ds vs hvs => ?_)
    fun ms vs hvs => ?_
  · exact hread.map some _ _ (congrArg (Option.map Value.literal) htext)
  · exact hread.map some _ _ (congrArg (Option.map Value.str) hs)
  · exact hread.map some _ _ (congrArg (Option.map Value.arr) hvs)
  · exact hread.map some _ _ (congrArg (Option.map Value.obj) hvs)

lemma Extensional.mapM {read : Doc → Option α} (hread : Extensional read) {ds : List Doc}
    {vs : List Value} (h : valueElems ds = some vs) : ds.mapM read = (toDocElems vs).mapM read := by
  rw [valueElems_eq_some] at h
  induction h with
  | nil => rfl
  | @cons d v ds vs hvalue _ ih =>
      rw [toDocElems, List.mapM_cons, List.mapM_cons, ih, hread d v hvalue]

lemma Extensional.asVec {read : Doc → Option α} (hread : Extensional read) :
    Extensional (asVec read) :=
  extensional_of (fun _ _ _ => rfl) (fun _ _ _ => rfl) (fun _ _ hvs => hread.mapM hvs)
    fun _ _ _ => rfl

/-! ### The elements of a structure -/

/-- The rest of a reader, after an element. -/
lemma Extensional.next_bind {read : Doc → Option α} (hread : Extensional read) {ds : List Doc}
    {vs : List Value} (h : valueElems ds = some vs) {f : α × List Doc → Option β}
    (hf : ∀ a ds vs, valueElems ds = some vs → f (a, ds) = f (a, toDocElems vs)) :
    (next read ds).bind f = (next read (toDocElems vs)).bind f := by
  rw [valueElems_eq_some] at h
  cases h with
  | nil => rfl
  | @cons d v ds vs hvalue hrest =>
      rw [toDocElems, next, next, hread d v hvalue]
      cases read v.toDoc with
      | none => rfl
      | some a => exact hf a ds vs (valueElems_eq_some.2 hrest)

lemma Extensional.nextOr_bind {read : Doc → Option α} (hread : Extensional read) {dflt : α}
    {ds : List Doc} {vs : List Value} (h : valueElems ds = some vs) {f : α × List Doc → Option β}
    (hf : ∀ a ds vs, valueElems ds = some vs → f (a, ds) = f (a, toDocElems vs)) :
    (nextOr read dflt ds).bind f = (nextOr read dflt (toDocElems vs)).bind f := by
  rw [valueElems_eq_some] at h
  cases h with
  | nil => rfl
  | @cons d v ds vs hvalue hrest =>
      rw [toDocElems, nextOr, nextOr, hread d v hvalue]
      cases read v.toDoc with
      | none => rfl
      | some a => exact hf a ds vs (valueElems_eq_some.2 hrest)

lemma isEmpty_of_valueElems {ds : List Doc} {vs : List Value} (h : valueElems ds = some vs) :
    ds.isEmpty = (toDocElems vs).isEmpty := by
  rw [valueElems_eq_some] at h
  cases h <;> rfl

/-! ### The members of a structure -/

/-- The members have the same keys, and values. -/
def Alike (ms : List (String × Doc)) (vs : List (String × Value)) : Prop :=
  List.Forall₂ (fun m v => m.1 = v.1 ∧ m.2.value = some v.2) ms vs

lemma alike_of_valueMembers {ms : List (List UInt8 × Doc)} {vs : List (String × Value)}
    (h : valueMembers ms = some vs) : ∃ rs, readMembers ms = some rs ∧ Alike rs vs := by
  induction ms generalizing vs with
  | nil =>
      obtain rfl := Option.some.inj h
      exact ⟨[], rfl, .nil⟩
  | cons m ms ih =>
      obtain ⟨raw, d⟩ := m
      simp only [valueMembers, Option.bind_eq_bind, Option.bind_eq_some_iff,
        Option.some.injEq] at h
      obtain ⟨k, hk, v, hv, vs, hvs, rfl⟩ := h
      obtain ⟨rs, hrs, halike⟩ := ih hvs
      refine ⟨(k, d) :: rs, ?_, .cons ⟨rfl, hv⟩ halike⟩
      simp only [readMembers, hk, hrs, Option.bind_eq_bind, Option.bind_some]

/-- The members that are read, of a text and of its value. -/
lemma readMembers_bind {ms : List (List UInt8 × Doc)} {vs : List (String × Value)}
    (h : valueMembers ms = some vs) {f : List (String × Doc) → Option β}
    (hf : ∀ rs, Alike rs vs → f rs = f (vs.map fun v => (v.1, v.2.toDoc))) :
    (readMembers ms).bind f = (readMembers (toDocMembers vs)).bind f := by
  obtain ⟨rs, hrs, halike⟩ := alike_of_valueMembers h
  rw [hrs, readMembers_toDocMembers, Option.bind_some, Option.bind_some, hf rs halike]

section

variable {rs : List (String × Doc)} {vs : List (String × Value)} (h : Alike rs vs)

include h

lemma Alike.filter (name : String) :
    Alike (rs.filter fun m => m.1 = name) (vs.filter fun v => v.1 = name) := by
  refine List.rel_filter ?_ h
  rintro m v ⟨hkey, -⟩
  simp only [hkey]

/-- A field that is missing, given once or given twice is so in both. -/
lemma Alike.field?_bind (name : String) {f : Option Doc → Option β}
    (hf : ∀ d v, d.value = some v → f (some d) = f (some v.toDoc)) :
    (field? name rs).bind f = (field? name (vs.map fun v => (v.1, v.2.toDoc))).bind f := by
  have hsame := h.filter name
  have hmap : ((vs.map fun v => (v.1, v.2.toDoc)).filter fun m => m.1 = name) =
      (vs.filter fun v => v.1 = name).map fun v => (v.1, v.2.toDoc) := List.filter_map ..
  rw [field?, field?, hmap]
  generalize (rs.filter fun m => m.1 = name) = ms at hsame
  generalize (vs.filter fun v => v.1 = name) = ws at hsame
  cases hsame with
  | nil => rfl
  | @cons m v ms ws hmember hrest =>
      cases hrest with
      | nil => exact hf m.2 v.2 hmember.2
      | cons _ _ => rfl

lemma Alike.required {read : Doc → Option α} (hread : Extensional read) (name : String) :
    Serde.required read name rs =
      Serde.required read name (vs.map fun v => (v.1, v.2.toDoc)) :=
  h.field?_bind name hread

lemma Alike.withDefault {read : Doc → Option α} (hread : Extensional read) (dflt : α)
    (name : String) :
    Serde.withDefault read dflt name rs =
      Serde.withDefault read dflt name (vs.map fun v => (v.1, v.2.toDoc)) :=
  h.field?_bind name hread

end

end Serde

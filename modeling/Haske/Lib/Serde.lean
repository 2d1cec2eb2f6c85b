import Mathlib.Data.List.Perm.Basic
import Haske.Lib.Json.RoundTrip

/-!
# Reading structures and untyped values from JSON documents

What a derived reader does with a document: the members of an object are matched by
name, in any order; a member that is not a field is ignored; a field that occurs
twice is an error; a field that is missing is an error or takes its default.  A
structure may also come as the array of its fields.

The untyped reader keeps every member, sorted by key, the last of equal keys
winning, and gives up on documents that are nested too deeply.
-/

namespace Serde

open Json

variable {α : Type*}

/-- Parse bytes and read the document. -/
def fromSlice (read : Doc → Option α) (bs : List UInt8) : Option α := (parse bs).bind read

/-- Parse a string and read the document. -/
def fromStr (read : Doc → Option α) (s : String) : Option α := fromSlice read (Utf8.asBytes s)

lemma fromSlice_toBytes (read : Doc → Option α) {v : Value} (hv : v.NoLiteral) :
    fromSlice read v.toBytes = read v.toDoc := by
  rw [fromSlice, parse_toBytes hv, Option.bind_some]

lemma fromStr_toText (read : Doc → Option α) {v : Value} (hv : v.NoLiteral) :
    fromStr read v.toText = read v.toDoc :=
  fromSlice_toBytes read hv

/-! ### Scalars -/

def asStr : Doc → Option String
  | .str raw => readRaw raw
  | _ => none

/-- An unsigned integer below a bound. -/
def asUInt (bound : ℕ) : Doc → Option ℕ
  | .nat n => if n < bound then some n else none
  | _ => none

def asU8 (d : Doc) : Option UInt8 := (asUInt UInt8.size d).map UInt8.ofNat

def asU32 (d : Doc) : Option UInt32 := (asUInt UInt32.size d).map UInt32.ofNat

def asU64 (d : Doc) : Option UInt64 := (asUInt UInt64.size d).map UInt64.ofNat

def asBool : Doc → Option Bool
  | .bool b => some b
  | _ => none

/-- A field that may be `null`. -/
def asOption (read : Doc → Option α) : Doc → Option (Option α)
  | .null => some none
  | d => (read d).map some

/-- All the elements of an array. -/
def asVec (read : Doc → Option α) : Doc → Option (List α)
  | .arr elems => elems.mapM read
  | _ => none

@[simp] lemma asStr_toDoc (s : String) : asStr (Value.str s).toDoc = some s := by
  simp [Value.toDoc, asStr]

@[simp] lemma asU8_toDoc (n : UInt8) : asU8 (Value.nat n.toNat).toDoc = some n := by
  simp [Value.toDoc, asU8, asUInt, n.toNat_lt_size]

@[simp] lemma asU32_toDoc (n : UInt32) : asU32 (Value.nat n.toNat).toDoc = some n := by
  simp [Value.toDoc, asU32, asUInt, n.toNat_lt_size]

@[simp] lemma asU64_toDoc (n : UInt64) : asU64 (Value.nat n.toNat).toDoc = some n := by
  simp [Value.toDoc, asU64, asUInt, n.toNat_lt_size]

@[simp] lemma asBool_toDoc (b : Bool) : asBool (Value.bool b).toDoc = some b := by
  simp [Value.toDoc, asBool]

lemma asOption_eq_map {read : Doc → Option α} {d : Doc} (hd : d ≠ .null) :
    asOption read d = (read d).map some := by
  cases d with
  | null => exact absurd rfl hd
  | _ => rfl

@[simp] lemma asOption_str (s : String) :
    asOption asStr (Value.str s).toDoc = some (some s) := by
  rw [asOption_eq_map (by simp [Value.toDoc]), asStr_toDoc, Option.map_some]

/-! ### Elements -/

/-- The next element of an array that stands for a structure. -/
def next (read : Doc → Option α) : List Doc → Option (α × List Doc)
  | [] => none
  | d :: ds => (read d).map fun a => (a, ds)

/-- The same for a field with a default, which the array may not have any more. -/
def nextOr (read : Doc → Option α) (dflt : α) : List Doc → Option (α × List Doc)
  | [] => some (dflt, [])
  | d :: ds => (read d).map fun a => (a, ds)

lemma mapM_eq_some {β : Type*} {f : β → Option α} {l : List β} {l' : List α} :
    l.mapM f = some l' ↔ List.Forall₂ (fun b a => f b = some a) l l' := by
  induction l generalizing l' with
  | nil =>
      rw [List.mapM_nil, List.forall₂_nil_left_iff]
      exact ⟨fun h => (Option.some.inj h).symm, fun h => congrArg some h.symm⟩
  | cons b l ih =>
      simp only [List.mapM_cons, Option.bind_eq_bind, Option.bind_eq_some_iff,
        List.forall₂_cons_left_iff]
      constructor
      · rintro ⟨a, ha, as, has, heq⟩
        exact ⟨a, as, ha, ih.1 has, (Option.some.inj heq).symm⟩
      · rintro ⟨a, as, ha, has, rfl⟩
        exact ⟨a, ha, as, ih.2 has, rfl⟩

lemma mem_of_mapM {β : Type*} {f : β → Option α} {l : List β} {l' : List α}
    (h : l.mapM f = some l') {a : α} : a ∈ l' ↔ ∃ b ∈ l, f b = some a := by
  rw [mapM_eq_some] at h
  induction h with
  | nil => simp
  | @cons b a' l l' hb _ ih =>
      rw [List.mem_cons, List.exists_mem_cons_iff, ih, hb, Option.some.injEq, eq_comm]

/-- One element that is not read, and nothing is. -/
lemma mapM_eq_none {β : Type*} {f : β → Option α} {l : List β} :
    l.mapM f = none ↔ ∃ b ∈ l, f b = none := by
  induction l with
  | nil => simp
  | cons b l ih =>
      rw [List.mapM_cons, List.exists_mem_cons_iff, ← ih]
      cases f b with
      | none => simp
      | some a => cases l.mapM f <;> simp

/-! ### Fields -/

/-- The members of an object with their keys read. -/
def readMembers : List (List UInt8 × Doc) → Option (List (String × Doc))
  | [] => some []
  | (k, d) :: ms => do
      let k ← readRaw k
      let ms ← readMembers ms
      some ((k, d) :: ms)

/-- The value of a field: an error if it occurs twice, nothing if it does not occur. -/
def field? (name : String) (ms : List (String × Doc)) : Option (Option Doc) :=
  match ms.filter fun m => m.1 = name with
  | [] => some none
  | [m] => some (some m.2)
  | _ => none

/-- A field that has to be there. -/
def required (read : Doc → Option α) (name : String) (ms : List (String × Doc)) : Option α :=
  (field? name ms).bind fun d => d.bind read

/-- A field with a default. -/
def withDefault (read : Doc → Option α) (dflt : α) (name : String) (ms : List (String × Doc)) :
    Option α :=
  (field? name ms).bind fun
    | none => some dflt
    | some d => read d

lemma readMembers_toDocMembers (ms : List (String × Value)) :
    readMembers (toDocMembers ms) = some (ms.map fun m => (m.1, m.2.toDoc)) := by
  induction ms with
  | nil => rfl
  | cons m ms ih =>
      obtain ⟨k, v⟩ := m
      simp [toDocMembers, readMembers, ih]

lemma filter_key_eq {β : Type*} {ms : List (String × β)} (hms : (ms.map Prod.fst).Nodup)
    {name : String} {b : β} (h : (name, b) ∈ ms) :
    (ms.filter fun m => m.1 = name) = [(name, b)] := by
  induction ms with
  | nil => simp at h
  | cons m ms ih =>
      rw [List.map_cons, List.nodup_cons] at hms
      rcases List.mem_cons.1 h with rfl | hmem
      · have hnone : (ms.filter fun m => m.1 = name) = [] := by
          rw [List.filter_eq_nil_iff]
          intro m hm
          simp only [decide_eq_true_eq]
          rintro rfl
          exact hms.1 (List.mem_map.2 ⟨m, hm, rfl⟩)
        simp [hnone]
      · have hne : m.1 ≠ name := by
          rintro rfl
          exact hms.1 (List.mem_map.2 ⟨_, hmem, rfl⟩)
        simp [hne, ih hms.2 hmem]

/-- A field that occurs once is found, wherever it stands. -/
lemma field?_of_mem {ms : List (String × Doc)} (hms : (ms.map Prod.fst).Nodup) {name : String}
    {d : Doc} (h : (name, d) ∈ ms) : field? name ms = some (some d) := by
  rw [field?, filter_key_eq hms h]

lemma required_of_mem {read : Doc → Option α} {ms : List (String × Doc)}
    (hms : (ms.map Prod.fst).Nodup) {name : String} {d : Doc} (h : (name, d) ∈ ms) :
    required read name ms = read d := by
  rw [required, field?_of_mem hms h]
  rfl

/-- A field that does not occur. -/
lemma field?_of_notMem {ms : List (String × Doc)} {name : String}
    (h : name ∉ ms.map Prod.fst) : field? name ms = some none := by
  have hnone : (ms.filter fun m => m.1 = name) = [] := by
    rw [List.filter_eq_nil_iff]
    intro m hm
    simp only [decide_eq_true_eq]
    rintro rfl
    exact h (List.mem_map_of_mem hm)
  rw [field?, hnone]

lemma required_of_notMem {read : Doc → Option α} {ms : List (String × Doc)} {name : String}
    (h : name ∉ ms.map Prod.fst) : required read name ms = none := by
  rw [required, field?_of_notMem h]
  rfl

lemma withDefault_of_mem {read : Doc → Option α} {dflt : α} {ms : List (String × Doc)}
    (hms : (ms.map Prod.fst).Nodup) {name : String} {d : Doc} (h : (name, d) ∈ ms) :
    withDefault read dflt name ms = read d := by
  rw [withDefault, field?_of_mem hms h]
  rfl

lemma withDefault_of_notMem {read : Doc → Option α} {dflt : α} {ms : List (String × Doc)}
    {name : String} (h : name ∉ ms.map Prod.fst) : withDefault read dflt name ms = some dflt := by
  rw [withDefault, field?_of_notMem h]
  rfl

/-- The members have this value for a field, or nothing if it is the default. -/
def Offers (ms : List (String × Value)) (name : String) (value : Value) (isDefault : Prop) : Prop :=
  (name, value) ∈ ms ∨ name ∉ ms.map Prod.fst ∧ isDefault

lemma required_of_given {read : Doc → Option α} {ms : List (String × Value)} {name : String}
    {value : Value} (hnodup : (ms.map Prod.fst).Nodup) (h : (name, value) ∈ ms) :
    required read name (ms.map fun m => (m.1, m.2.toDoc)) = read value.toDoc := by
  have hkeys : ((ms.map fun m => (m.1, m.2.toDoc)).map Prod.fst).Nodup := by
    rw [List.map_map]
    exact hnodup
  exact required_of_mem hkeys
    (List.mem_map_of_mem (f := fun m : String × Value => (m.1, m.2.toDoc)) h)

/-- A field with a default is read, whether it comes or not. -/
lemma Offers.withDefault {read : Doc → Option α} {ms : List (String × Value)} {name : String}
    {value : Value} {a dflt : α} (h : Offers ms name value (a = dflt))
    (hnodup : (ms.map Prod.fst).Nodup) (hread : read value.toDoc = some a) :
    withDefault read dflt name (ms.map fun m => (m.1, m.2.toDoc)) = some a := by
  have hkeys : (ms.map fun m => (m.1, m.2.toDoc)).map Prod.fst = ms.map Prod.fst := by
    rw [List.map_map]
    rfl
  rcases h with hmem | ⟨hmissing, rfl⟩
  · have hmem' := List.mem_map_of_mem (f := fun m : String × Value => (m.1, m.2.toDoc)) hmem
    rw [withDefault_of_mem (by rwa [hkeys]) hmem', hread]
  · exact withDefault_of_notMem (by rwa [hkeys])

/-! The members of a permuted object, as the reader sees them. -/

lemma nodup_keys_of_perm {ms ms' : List (String × Value)} (h : ms.Perm ms')
    (hnodup : (ms'.map Prod.fst).Nodup) :
    ((ms.map fun m => (m.1, m.2.toDoc)).map Prod.fst).Nodup := by
  rw [List.map_map]
  exact (h.map Prod.fst).nodup_iff.2 hnodup

lemma mem_of_perm {ms ms' : List (String × Value)} (h : ms.Perm ms') {m : String × Value}
    (hm : m ∈ ms') : (m.1, m.2.toDoc) ∈ ms.map fun m => (m.1, m.2.toDoc) :=
  List.mem_map_of_mem (f := fun m => (m.1, m.2.toDoc)) (h.symm.subset hm)

/-! ### Untyped values -/

/-- Insert into a map sorted by key, replacing what the key had. -/
def insertKey (k : String) (v : Value) : List (String × Value) → List (String × Value)
  | [] => [(k, v)]
  | m :: ms =>
      if k < m.1 then (k, v) :: m :: ms
      else if k = m.1 then (k, v) :: ms
      else m :: insertKey k v ms

mutual

/-- Read a document as a value, `depth` being how many containers may still be
entered, plus one.  A number that is no unsigned 64-bit integer is kept as its
literal. -/
def readValue : ℕ → Doc → Option Value
  | _, .null => some .null
  | _, .bool b => some (.bool b)
  | _, .nat n => some (if n < UInt64.size then .nat n else .literal (toString n))
  | _, .literal text => (Utf8.decode text).map .literal
  | _, .str raw => (readRaw raw).map .str
  | depth, .arr elems =>
      if depth ≤ 1 then none else (readElems (depth - 1) elems).map .arr
  | depth, .obj members =>
      if depth ≤ 1 then none else (readObj (depth - 1) members []).map .obj

def readElems : ℕ → List Doc → Option (List Value)
  | _, [] => some []
  | depth, d :: ds => do
      let v ← readValue depth d
      let vs ← readElems depth ds
      some (v :: vs)

/-- Read the members one after the other into a sorted map. -/
def readObj : ℕ → List (List UInt8 × Doc) → List (String × Value) →
    Option (List (String × Value))
  | _, [], acc => some acc
  | depth, (k, d) :: ms, acc => do
      let k ← readRaw k
      let v ← readValue depth d
      readObj depth ms (insertKey k v acc)

end

/-- The nesting limit of the untyped reader. -/
def recursionLimit : ℕ := 128

lemma insertKey_perm {k : String} {v : Value} {ms : List (String × Value)}
    (h : k ∉ ms.map Prod.fst) : (insertKey k v ms).Perm ((k, v) :: ms) := by
  induction ms with
  | nil => rfl
  | cons m ms ih =>
      rw [List.map_cons, List.mem_cons, not_or] at h
      rw [insertKey]
      split
      · rfl
      · rw [if_neg h.1]
        exact ((ih h.2).cons m).trans (List.Perm.swap _ _ _)

/-- Reading an object without repeated keys reorders its members and reads each. -/
lemma readObj_perm {depth : ℕ} {ms acc : List (String × Value)} {g : String × Value → Value}
    (hg : ∀ m ∈ ms, readValue depth m.2.toDoc = some (g m))
    (hk : ((ms ++ acc).map Prod.fst).Nodup) :
    ∃ out, readObj depth (toDocMembers ms) acc = some out ∧
      out.Perm (ms.map (fun m => (m.1, g m)) ++ acc) := by
  induction ms generalizing acc with
  | nil => exact ⟨acc, rfl, by simp⟩
  | cons m ms ih =>
      obtain ⟨k, v⟩ := m
      rw [List.cons_append, List.map_cons, List.nodup_cons, List.map_append, List.mem_append,
        not_or] at hk
      obtain ⟨⟨hk₁, hk₂⟩, hk₃⟩ := hk
      -- the key is new, so nothing is replaced
      have hins := insertKey_perm (v := g (k, v)) hk₂
      have hkeys : ((ms ++ insertKey k (g (k, v)) acc).map Prod.fst).Nodup := by
        have hperm : ((ms ++ insertKey k (g (k, v)) acc).map Prod.fst).Perm
            (k :: (ms.map Prod.fst ++ acc.map Prod.fst)) := by
          rw [List.map_append]
          refine ((List.Perm.refl _).append (hins.map Prod.fst)).trans ?_
          rw [List.map_cons]
          exact List.perm_middle
        rw [hperm.nodup_iff, List.nodup_cons, List.mem_append, not_or]
        exact ⟨⟨hk₁, hk₂⟩, hk₃⟩
      obtain ⟨out, hout, hperm⟩ := ih (fun m hm => hg m (by simp [hm])) hkeys
      refine ⟨out, ?_, ?_⟩
      · have hv := hg (k, v) (by simp)
        simp only [toDocMembers, readObj, readRaw_escape, hv, Option.bind_eq_bind,
          Option.bind_some, hout]
      · refine hperm.trans (((List.Perm.refl _).append hins).trans ?_)
        rw [List.map_cons, List.cons_append]
        exact List.perm_middle

/-- The same value with the members of its objects in another order. -/
inductive Reorder : Value → Value → Prop
  | refl (v : Value) : Reorder v v
  | perm {ms ms' : List (String × Value)} : ms.Perm ms' → Reorder (.obj ms) (.obj ms')
  | member {ms₁ ms₂ : List (String × Value)} {k : String} {v v' : Value} :
      Reorder v v' → Reorder (.obj (ms₁ ++ (k, v) :: ms₂)) (.obj (ms₁ ++ (k, v') :: ms₂))
  | trans {v v' v'' : Value} : Reorder v v' → Reorder v' v'' → Reorder v v''

/-- Strings and the integers that a reader keeps as integers. -/
def Scalar : Value → Prop
  | .nat n => n < UInt64.size
  | .str _ => True
  | _ => False

lemma readValue_scalar {v : Value} (hv : Scalar v) (depth : ℕ) :
    readValue depth v.toDoc = some v := by
  cases v with
  | nat n =>
      have hn : n < UInt64.size := hv
      rw [Value.toDoc, readValue, if_pos hn]
  | str s => simp [Value.toDoc, readValue]
  | _ => exact hv.elim

/-- Reading an object of scalars reorders its members. -/
lemma readValue_obj_scalars {ms : List (String × Value)} (hms : ∀ m ∈ ms, Scalar m.2)
    (hnodup : (ms.map Prod.fst).Nodup) {depth : ℕ} (hdepth : 1 < depth) :
    ∃ out, readValue depth (Value.obj ms).toDoc = some (.obj out) ∧ out.Perm ms := by
  have hread : ∀ m ∈ ms, readValue (depth - 1) m.2.toDoc = some m.2 :=
    fun m hm => readValue_scalar (hms m hm) _
  have hkeys : ((ms ++ []).map Prod.fst).Nodup := by rwa [List.append_nil]
  obtain ⟨out, hout, hperm⟩ := readObj_perm hread hkeys
  refine ⟨out, ?_, by simpa using hperm⟩
  rw [Value.toDoc, readValue, if_neg (Nat.not_le.2 hdepth), hout]
  rfl

lemma Reorder.scalar_inv {v v' : Value} (hv : Scalar v) (h : Reorder v v') : v' = v := by
  induction h with
  | refl v => rfl
  | perm _ => exact hv.elim
  | member _ _ => exact hv.elim
  | trans _ _ ih₁ ih₂ =>
      obtain rfl := ih₁ hv
      exact ih₂ hv

lemma Reorder.obj_scalars_inv {ms : List (String × Value)} {v : Value}
    (hms : ∀ m ∈ ms, Scalar m.2) (h : Reorder (.obj ms) v) :
    ∃ ms', ms'.Perm ms ∧ v = .obj ms' := by
  generalize hw : Value.obj ms = w at h
  -- a member is a scalar, so only the order of the members can differ
  induction h generalizing ms with
  | refl v => exact ⟨ms, List.Perm.refl _, hw.symm⟩
  | @perm ms₁ ms₂ hperm =>
      obtain rfl := Value.obj.inj hw
      exact ⟨ms₂, hperm.symm, rfl⟩
  | @member ms₁ ms₂ k v v' hv _ =>
      obtain rfl := Value.obj.inj hw
      have heq := hv.scalar_inv (hms (k, v) (by simp))
      subst heq
      exact ⟨ms₁ ++ (k, v') :: ms₂, List.Perm.refl _, rfl⟩
  | trans _ _ ih₁ ih₂ =>
      obtain ⟨ms₁, hperm₁, rfl⟩ := ih₁ hms hw
      obtain ⟨ms₂, hperm₂, rfl⟩ := ih₂ (fun m hm => hms m (hperm₁.subset hm)) rfl
      exact ⟨ms₂, hperm₂.trans hperm₁, rfl⟩

end Serde

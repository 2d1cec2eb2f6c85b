import Mathlib.Algebra.Ring.Nat
import Haske.Lib.Serde

/-!
# JSON values in a script

What a script makes of JSON text, and how it looks at the result.  The values are those of
JSON, a number being the double that it was read as; what has no value, such as a property
that an object does not have, is `undefined`, here `none`.

Reading keeps the members of an object in the order in which their keys first occur, and
the last of equal keys wins.  Strings with an unpaired surrogate, which no writer modelled
here makes, keys that are integers, which a script puts first, and the rounding of numbers
that are not natural are left out.

`parse_toText` says what is read from the text of a value: the same value, up to repeated
keys and to the numbers that are no doubles.
-/

namespace Js

open Json Serde

/-- A natural number as a double: the nearest one, the even one of two. -/
def toDouble (n : ℕ) : ℕ :=
  if n < 2 ^ 53 then n
  else
    let unit := 2 ^ (Nat.log2 n - 52)
    let quotient := n / unit
    let rest := n % unit
    if 2 * rest < unit then quotient * unit
    else if unit < 2 * rest then (quotient + 1) * unit
    else (quotient + quotient % 2) * unit

lemma toDouble_of_lt {n : ℕ} (h : n < 2 ^ 53) : toDouble n = n := by
  rw [toDouble, if_pos h]

/-- The first number that is no double is rounded. -/
example : toDouble (2 ^ 53 + 1) = 2 ^ 53 ∧ toDouble (2 ^ 53 + 3) = 2 ^ 53 + 4 := by decide

/-- Set a member of an object: in its place, or at the end. -/
def setMember (k : String) (v : Value) : List (String × Value) → List (String × Value)
  | [] => [(k, v)]
  | m :: ms => if m.1 = k then (k, v) :: ms else m :: setMember k v ms

mutual

/-- The value of a document. -/
def ofDoc : Doc → Option Value
  | .null => some .null
  | .bool b => some (.bool b)
  | .nat n => some (.nat (toDouble n))
  | .literal text => (Utf8.decode text).map .literal
  | .str raw => (readRaw raw).map .str
  | .arr elems => (ofElems elems).map .arr
  | .obj members => (ofMembers members []).map .obj

def ofElems : List Doc → Option (List Value)
  | [] => some []
  | d :: ds => do
      let v ← ofDoc d
      let vs ← ofElems ds
      some (v :: vs)

/-- The members are set one after the other. -/
def ofMembers : List (List UInt8 × Doc) → List (String × Value) → Option (List (String × Value))
  | [], acc => some acc
  | (k, d) :: ms, acc => do
      let k ← readRaw k
      let v ← ofDoc d
      ofMembers ms (setMember k v acc)

end

/-- `JSON.parse`; `none` is the exception. -/
def parse (text : String) : Option Value := fromStr ofDoc text

mutual

/-- What is read from the text of a value. -/
def reread : Value → Value
  | .nat n => .nat (toDouble n)
  | .arr elems => .arr (rereadElems elems)
  | .obj members => .obj (rereadMembers members [])
  | v => v

def rereadElems : List Value → List Value
  | [] => []
  | v :: vs => reread v :: rereadElems vs

def rereadMembers : List (String × Value) → List (String × Value) → List (String × Value)
  | [], acc => acc
  | (k, v) :: ms, acc => rereadMembers ms (setMember k (reread v) acc)

end

mutual

lemma ofDoc_toDoc : ∀ v : Value, ofDoc v.toDoc = some (reread v)
  | .null => rfl
  | .bool _ => rfl
  | .nat _ => rfl
  | .literal text => by simp [Value.toDoc, ofDoc, reread]
  | .str s => by simp [Value.toDoc, ofDoc, reread]
  | .arr elems => by rw [Value.toDoc, ofDoc, ofElems_toDocElems elems, reread]; rfl
  | .obj members => by rw [Value.toDoc, ofDoc, ofMembers_toDocMembers members [], reread]; rfl

lemma ofElems_toDocElems : ∀ vs : List Value, ofElems (toDocElems vs) = some (rereadElems vs)
  | [] => rfl
  | v :: vs => by
      simp only [toDocElems, ofElems, ofDoc_toDoc v, ofElems_toDocElems vs, rereadElems,
        Option.bind_eq_bind, Option.bind_some]

lemma ofMembers_toDocMembers : ∀ (ms acc : List (String × Value)),
    ofMembers (toDocMembers ms) acc = some (rereadMembers ms acc)
  | [], _ => rfl
  | (k, v) :: ms, acc => by
      simp only [toDocMembers, ofMembers, readRaw_escape, ofDoc_toDoc v, Option.bind_eq_bind,
        Option.bind_some, ofMembers_toDocMembers ms, rereadMembers]

end

/-- **What is read from text.** -/
theorem parse_toText {v : Value} (hv : v.NoLiteral) : parse v.toText = some (reread v) := by
  rw [parse, fromStr_toText _ hv, ofDoc_toDoc]

/-! ### Writing values -/

mutual

/-- The value with its numbers as a script prints them: one from 2 ^ 53 on is printed with the
fewest digits that tell it from the other doubles, which is left open. -/
def printed (large : ℕ → String) : Value → Value
  | .nat n => if n < 2 ^ 53 then .nat n else .literal (large n)
  | .arr elems => .arr (printedElems large elems)
  | .obj members => .obj (printedMembers large members)
  | v => v

def printedElems (large : ℕ → String) : List Value → List Value
  | [] => []
  | v :: vs => printed large v :: printedElems large vs

def printedMembers (large : ℕ → String) : List (String × Value) → List (String × Value)
  | [] => []
  | (k, v) :: ms => (k, printed large v) :: printedMembers large ms

end

/-- `JSON.stringify`. -/
def stringify (large : ℕ → String) (v : Value) : String := (printed large v).toText

/-- A string, or a number that every script reads and prints as it is. -/
def Simple : Value → Prop
  | .nat n => n < 2 ^ 53
  | .str _ => True
  | _ => False

lemma reread_simple {v : Value} (hv : Simple v) : reread v = v := by
  cases v with
  | nat n => rw [reread, toDouble_of_lt hv]
  | str s => rfl
  | _ => exact hv.elim

lemma printed_simple {large : ℕ → String} {v : Value} (hv : Simple v) : printed large v = v := by
  cases v with
  | nat n =>
      have hn : n < 2 ^ 53 := hv
      rw [printed, if_pos hn]
  | str s => rfl
  | _ => exact hv.elim

lemma setMember_of_notMem {k : String} {v : Value} {ms : List (String × Value)}
    (h : k ∉ ms.map Prod.fst) : setMember k v ms = ms ++ [(k, v)] := by
  induction ms with
  | nil => rfl
  | cons m ms ih =>
      rw [List.map_cons, List.mem_cons, not_or] at h
      rw [setMember, if_neg (Ne.symm h.1), ih h.2, List.cons_append]

/-- The members of an object without repeated keys stay in their places. -/
lemma rereadMembers_of_nodup {ms acc : List (String × Value)}
    (h : ((acc ++ ms).map Prod.fst).Nodup) :
    rereadMembers ms acc = acc ++ ms.map fun m => (m.1, reread m.2) := by
  induction ms generalizing acc with
  | nil => rw [rereadMembers, List.map_nil, List.append_nil]
  | cons m ms ih =>
      obtain ⟨k, v⟩ := m
      have hnew : k ∉ acc.map Prod.fst := by
        rw [List.map_append, List.map_cons, List.nodup_append] at h
        exact fun hmem => h.2.2 k hmem k List.mem_cons_self rfl
      rw [rereadMembers, setMember_of_notMem hnew, ih, List.map_cons, List.append_assoc,
        List.singleton_append]
      rw [List.append_assoc, List.singleton_append]
      simpa using h

lemma printedMembers_eq_map (large : ℕ → String) (ms : List (String × Value)) :
    printedMembers large ms = ms.map fun m => (m.1, printed large m.2) := by
  induction ms with
  | nil => rfl
  | cons m ms ih =>
      obtain ⟨k, v⟩ := m
      rw [printedMembers, ih, List.map_cons]

/-- An object of members that stay as they are is read as it was written. -/
lemma reread_obj {ms : List (String × Value)} (hnodup : (ms.map Prod.fst).Nodup)
    (h : ∀ m ∈ ms, reread m.2 = m.2) : reread (.obj ms) = .obj ms := by
  have hsame : (ms.map fun m => (m.1, reread m.2)) = ms := by
    refine (List.map_congr_left fun m hm => ?_).trans (List.map_id ms)
    rw [h m hm]
    rfl
  rw [reread, rereadMembers_of_nodup (by simpa using hnodup), List.nil_append, hsame]

lemma printed_obj {large : ℕ → String} {ms : List (String × Value)}
    (h : ∀ m ∈ ms, printed large m.2 = m.2) : printed large (.obj ms) = .obj ms := by
  have hsame : (ms.map fun m => (m.1, printed large m.2)) = ms := by
    refine (List.map_congr_left fun m hm => ?_).trans (List.map_id ms)
    rw [h m hm]
    rfl
  rw [printed, printedMembers_eq_map, hsame]

/-! ### Looking at values -/

/-- `value.name`. -/
def prop : Value → String → Option Value
  | .obj members, name => (members.find? fun m => m.1 = name).map Prod.snd
  | _, _ => none

/-- `typeof`. -/
def typeOf : Option Value → String
  | none => "undefined"
  | some .null => "object"
  | some (.bool _) => "boolean"
  | some (.nat _) => "number"
  | some (.literal _) => "number"
  | some (.str _) => "string"
  | some (.arr _) => "object"
  | some (.obj _) => "object"

/-- `value ?? null`. -/
def orNull (x : Option Value) : Value := x.getD .null

/-- What is left open about values that are not natural numbers. -/
structure Engine where
  /-- Whether a number with this literal is neither zero nor NaN. -/
  truthyLiteral : String → Bool
  /-- `Math.max(0, Math.floor(value - ms / 1000))`, with `none` for NaN and infinity. -/
  secondsLeft : Value → (ms : ℕ) → Option ℕ

/-- The value as a condition. -/
def Engine.truthy (engine : Engine) : Option Value → Bool
  | none => false
  | some .null => false
  | some (.bool b) => b
  | some (.nat n) => n != 0
  | some (.literal text) => engine.truthyLiteral text
  | some (.str s) => s != ""
  | some (.arr _) => true
  | some (.obj _) => true

/-- `value || other`. -/
def Engine.or (engine : Engine) (value other : Option Value) : Option Value :=
  if engine.truthy value then value else other

mutual

/-- The value can be made a string, or a number.  No value is a function, so an object with a
member `toString` cannot be; an array is the text of its elements. -/
def converts : Value → Bool
  | .arr elems => convertsElems elems
  | .obj members => members.all fun m => m.1 != "toString"
  | _ => true

def convertsElems : List Value → Bool
  | [] => true
  | v :: vs => converts v && convertsElems vs

end

/-- The exception for a value that cannot. -/
def notPrimitive : String := "Cannot convert object to primitive value"

/-- A value that is known to be a string. -/
def asString : Option Value → Option String
  | some (.str s) => some s
  | _ => none

end Js

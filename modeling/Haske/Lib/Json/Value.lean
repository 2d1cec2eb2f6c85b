import Haske.Lib.Utf8

/-!
# JSON values and their compact text

A value is what a program holds; its text is what a compact writer makes of it: no
white space, the members of an object in the order they are held, strings with only
the escapes JSON requires, unsigned integers in decimal.  Numbers that are not
unsigned integers are kept as the literal they were read from.
-/

namespace Json

inductive Value where
  | null
  | bool (b : Bool)
  | nat (n : ℕ)
  | literal (text : String)
  | str (s : String)
  | arr (elems : List Value)
  | obj (members : List (String × Value))

/-! ### Equality -/

mutual

def Value.same : Value → Value → Bool
  | .null, .null => true
  | .bool b, .bool c => b == c
  | .nat m, .nat n => m == n
  | .literal s, .literal t => s == t
  | .str s, .str t => s == t
  | .arr vs, .arr ws => sameElems vs ws
  | .obj ms, .obj ns => sameMembers ms ns
  | _, _ => false

def sameElems : List Value → List Value → Bool
  | [], [] => true
  | v :: vs, w :: ws => v.same w && sameElems vs ws
  | _, _ => false

def sameMembers : List (String × Value) → List (String × Value) → Bool
  | [], [] => true
  | (k, v) :: ms, (l, w) :: ns => k == l && v.same w && sameMembers ms ns
  | _, _ => false

end

mutual

lemma Value.same_iff : ∀ v w : Value, v.same w = true ↔ v = w
  | .arr vs, .arr ws => by rw [Value.same, sameElems_iff vs ws, Value.arr.injEq]
  | .obj ms, .obj ns => by rw [Value.same, sameMembers_iff ms ns, Value.obj.injEq]
  | .null, w => by cases w <;> simp [Value.same]
  | .bool b, w => by cases w <;> simp [Value.same]
  | .nat m, w => by cases w <;> simp [Value.same]
  | .literal s, w => by cases w <;> simp [Value.same]
  | .str s, w => by cases w <;> simp [Value.same]
  | .arr _, .null | .arr _, .bool _ | .arr _, .nat _ | .arr _, .literal _ | .arr _, .str _
  | .arr _, .obj _ => by simp [Value.same]
  | .obj _, .null | .obj _, .bool _ | .obj _, .nat _ | .obj _, .literal _ | .obj _, .str _
  | .obj _, .arr _ => by simp [Value.same]

lemma sameElems_iff : ∀ vs ws : List Value, sameElems vs ws = true ↔ vs = ws
  | [], [] => by simp [sameElems]
  | [], _ :: _ => by simp [sameElems]
  | _ :: _, [] => by simp [sameElems]
  | v :: vs, w :: ws => by
      rw [sameElems, Bool.and_eq_true, v.same_iff w, sameElems_iff vs ws, List.cons.injEq]

lemma sameMembers_iff : ∀ ms ns : List (String × Value), sameMembers ms ns = true ↔ ms = ns
  | [], [] => by simp [sameMembers]
  | [], _ :: _ => by simp [sameMembers]
  | _ :: _, [] => by simp [sameMembers]
  | (k, v) :: ms, (l, w) :: ns => by
      rw [sameMembers, Bool.and_eq_true, Bool.and_eq_true, beq_iff_eq, v.same_iff w,
        sameMembers_iff ms ns, List.cons.injEq, Prod.mk.injEq]

end

instance : DecidableEq Value := fun v w => decidable_of_iff _ (v.same_iff w)

/-! ### Strings -/

/-- The text of one character inside a string literal. -/
def escapeChar (c : Char) : List Char :=
  if c = '"' then ['\\', '"']
  else if c = '\\' then ['\\', '\\']
  else if c = '\x08' then ['\\', 'b']
  else if c = '\x0c' then ['\\', 'f']
  else if c = '\n' then ['\\', 'n']
  else if c = '\r' then ['\\', 'r']
  else if c = '\t' then ['\\', 't']
  else if c.toNat < 0x20 then
    ['\\', 'u', '0', '0', Nat.digitChar (c.toNat / 16), Nat.digitChar (c.toNat % 16)]
  else [c]

/-- The inside of a string literal. -/
def escape (s : String) : List Char := s.toList.flatMap escapeChar

/-! ### The writer -/

mutual

/-- The text of a value. -/
def write : Value → List Char
  | .null => ['n', 'u', 'l', 'l']
  | .bool true => ['t', 'r', 'u', 'e']
  | .bool false => ['f', 'a', 'l', 's', 'e']
  | .nat n => Nat.toDigits 10 n
  | .literal text => text.toList
  | .str s => '"' :: (escape s ++ ['"'])
  | .arr elems => '[' :: (writeElems elems ++ [']'])
  | .obj members => '\x7b' :: (writeMembers members ++ ['\x7d'])

/-- The elements of an array, separated by commas. -/
def writeElems : List Value → List Char
  | [] => []
  | v :: vs => write v ++ writeElemsTail vs

/-- The elements after the first, each after a comma. -/
def writeElemsTail : List Value → List Char
  | [] => []
  | v :: vs => ',' :: (write v ++ writeElemsTail vs)

/-- The members of an object, separated by commas. -/
def writeMembers : List (String × Value) → List Char
  | [] => []
  | (k, v) :: ms => '"' :: (escape k ++ '"' :: ':' :: (write v ++ writeMembersTail ms))

/-- The members after the first, each after a comma. -/
def writeMembersTail : List (String × Value) → List Char
  | [] => []
  | (k, v) :: ms => ',' :: '"' :: (escape k ++ '"' :: ':' :: (write v ++ writeMembersTail ms))

end

/-- The text of a value as a string. -/
def Value.toText (v : Value) : String := String.ofList (write v)

/-- The text of a value as bytes. -/
def Value.toBytes (v : Value) : List UInt8 := Utf8.asBytes v.toText

lemma Value.toBytes_eq (v : Value) : v.toBytes = Utf8.encode (write v) := by
  simp [Value.toBytes, Value.toText]

/-- Trimming leaves the text of an object, with white space put around it. -/
lemma trim_obj {ms : List (String × Value)} {pre post : List Char}
    (hpre : ∀ c ∈ pre, Utf8.isWhitespace c = true)
    (hpost : ∀ c ∈ post, Utf8.isWhitespace c = true) :
    Utf8.trim (String.ofList (pre ++ write (.obj ms) ++ post)) = (Value.obj ms).toText := by
  refine Utf8.trim_padded hpre hpost (a := '\x7b') (b := '\x7d') (by decide) (by decide) ?_ ?_
  · simp [write]
  · simp [write, List.getLast?_cons]

example : (Value.obj [("a", .nat 10), ("b", .arr [.str "x\n", .null])]).toText =
    "\x7b\"a\":10,\"b\":[\"x\\n\",null]\x7d" := by
  decide

/-! ### Text without other numbers -/

mutual

/-- No number in the value is kept as a literal. -/
def Value.NoLiteral : Value → Prop
  | .literal _ => False
  | .arr elems => NoLiteralElems elems
  | .obj members => NoLiteralMembers members
  | _ => True

def NoLiteralElems : List Value → Prop
  | [] => True
  | v :: vs => v.NoLiteral ∧ NoLiteralElems vs

def NoLiteralMembers : List (String × Value) → Prop
  | [] => True
  | (_, v) :: ms => v.NoLiteral ∧ NoLiteralMembers ms

end

lemma noLiteralMembers_iff {ms : List (String × Value)} :
    NoLiteralMembers ms ↔ ∀ m ∈ ms, m.2.NoLiteral := by
  induction ms with
  | nil => simp [NoLiteralMembers]
  | cons m ms ih =>
      obtain ⟨k, v⟩ := m
      simp [NoLiteralMembers, ih]

end Json

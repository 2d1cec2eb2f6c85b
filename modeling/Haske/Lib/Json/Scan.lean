import Haske.Lib.Json.Value

/-!
# Scanning JSON text

The scanner reads bytes into a syntax tree (`Doc`) in which strings are still
escaped and only unsigned integers are evaluated, which is as far as the grammar of
JSON goes: whether a string decodes, whether a number fits a field and which members
an object must have is decided by whoever reads the tree.  A scanner that skips a
value and one that reads it accept the same texts up to exactly those decisions.

`Doc.readStr` is the strict reading of a string: surrogate escapes must come in
pairs and the bytes must be UTF-8.
-/

namespace Json

inductive Doc where
  | null
  | bool (b : Bool)
  | nat (n : ℕ)
  | literal (text : List UInt8)
  | str (raw : List UInt8)
  | arr (elems : List Doc)
  | obj (members : List (List UInt8 × Doc))

/-! ### Lexical pieces -/

def isSpace (b : UInt8) : Bool := b == 0x20 || b == 0x0A || b == 0x09 || b == 0x0D

def isDigit (b : UInt8) : Bool := 0x30 ≤ b && b ≤ 0x39

/-- The value of a hexadecimal digit of either case. -/
def hexValue (b : UInt8) : Option ℕ :=
  if 0x30 ≤ b ∧ b ≤ 0x39 then some (b.toNat - 0x30)
  else if 0x61 ≤ b ∧ b ≤ 0x66 then some (b.toNat - 0x61 + 10)
  else if 0x41 ≤ b ∧ b ≤ 0x46 then some (b.toNat - 0x41 + 10)
  else none

/-- The value of four hexadecimal digits. -/
def hexValue4 (h₁ h₂ h₃ h₄ : UInt8) : Option ℕ := do
  let a ← hexValue h₁
  let b ← hexValue h₂
  let c ← hexValue h₃
  let d ← hexValue h₄
  some (a * 4096 + b * 256 + c * 16 + d)

/-- The byte that a two character escape stands for, from its second character. -/
def simpleEscape (b : UInt8) : Option UInt8 :=
  if b = 0x22 then some 0x22
  else if b = 0x5C then some 0x5C
  else if b = 0x2F then some 0x2F
  else if b = 0x62 then some 0x08
  else if b = 0x66 then some 0x0C
  else if b = 0x6E then some 0x0A
  else if b = 0x72 then some 0x0D
  else if b = 0x74 then some 0x09
  else none

def skipSpace : List UInt8 → List UInt8
  | [] => []
  | b :: rest => if isSpace b then skipSpace rest else b :: rest

/-- Consume a fixed word. -/
def scanWord : List UInt8 → List UInt8 → Option (List UInt8)
  | [], rest => some rest
  | _ :: _, [] => none
  | w :: ws, b :: rest => if b = w then scanWord ws rest else none

/-- The inside of a string literal, from after its opening quote to its closing
quote.  Escapes are checked for their form only. -/
def scanStr : List UInt8 → Option (List UInt8 × List UInt8)
  | [] => none
  | b :: rest =>
      if b = 0x22 then some ([], rest)
      else if b = 0x5C then
        match rest with
        | [] => none
        | c :: rest' =>
            if c = 0x75 then
              match rest' with
              | h₁ :: h₂ :: h₃ :: h₄ :: rest'' =>
                  match hexValue4 h₁ h₂ h₃ h₄ with
                  | none => none
                  | some _ => (scanStr rest'').map fun r => ([b, c, h₁, h₂, h₃, h₄] ++ r.1, r.2)
              | _ => none
            else
              match simpleEscape c with
              | none => none
              | some _ => (scanStr rest').map fun r => ([b, c] ++ r.1, r.2)
      else if b < 0x20 then none
      else (scanStr rest).map fun r => (b :: r.1, r.2)

/-! ### Strict reading of strings -/

/-- The bytes of a code point. -/
def codePoint (n : ℕ) : List UInt8 := String.utf8EncodeChar (Char.ofNat n)

/-- Resolve the escapes of a string literal. -/
def unescape : List UInt8 → Option (List UInt8)
  | [] => some []
  | b :: rest =>
      if b = 0x5C then
        match rest with
        | [] => none
        | c :: rest' =>
            if c = 0x75 then
              match rest' with
              | h₁ :: h₂ :: h₃ :: h₄ :: rest'' =>
                  match hexValue4 h₁ h₂ h₃ h₄ with
                  | none => none
                  | some n =>
                      if 0xDC00 ≤ n ∧ n ≤ 0xDFFF then none
                      else if 0xD800 ≤ n ∧ n ≤ 0xDBFF then
                        -- a leading surrogate has to be followed by a trailing one
                        match rest'' with
                        | e :: u :: g₁ :: g₂ :: g₃ :: g₄ :: rest₃ =>
                            if e = 0x5C ∧ u = 0x75 then
                              match hexValue4 g₁ g₂ g₃ g₄ with
                              | none => none
                              | some m =>
                                  if 0xDC00 ≤ m ∧ m ≤ 0xDFFF then
                                    (unescape rest₃).map
                                      (codePoint ((n - 0xD800) * 1024 + (m - 0xDC00) + 0x10000) ++ ·)
                                  else none
                            else none
                        | _ => none
                      else (unescape rest'').map (codePoint n ++ ·)
              | _ => none
            else
              match simpleEscape c with
              | none => none
              | some e => (unescape rest').map (e :: ·)
      else (unescape rest).map (b :: ·)

/-- The string that the inside of a literal denotes. -/
def readRaw (raw : List UInt8) : Option String := (unescape raw).bind Utf8.decode

/-! ### Numbers -/

def digitsValue (ds : List UInt8) : ℕ := ds.foldl (fun n d => 10 * n + (d.toNat - 0x30)) 0

/-- The integer part: digits without a superfluous leading zero. -/
def scanInt (bs : List UInt8) : Option (List UInt8 × List UInt8) :=
  match bs.span isDigit with
  | ([], _) => none
  | (d :: ds, rest) => if d = 0x30 ∧ ds ≠ [] then none else some (d :: ds, rest)

/-- The fraction, if there is one. -/
def scanFrac : List UInt8 → Option (List UInt8 × List UInt8)
  | [] => some ([], [])
  | b :: rest =>
      if b = 0x2E then
        match rest.span isDigit with
        | ([], _) => none
        | (d :: ds, rest') => some (b :: d :: ds, rest')
      else some ([], b :: rest)

/-- The exponent, if there is one. -/
def scanExp : List UInt8 → Option (List UInt8 × List UInt8)
  | [] => some ([], [])
  | b :: rest =>
      if b = 0x65 ∨ b = 0x45 then
        let signed := match rest with
          | c :: rest' => if c = 0x2B ∨ c = 0x2D then ([c], rest') else ([], rest)
          | [] => ([], rest)
        match signed.2.span isDigit with
        | ([], _) => none
        | (d :: ds, rest') => some (b :: signed.1 ++ d :: ds, rest')
      else some ([], b :: rest)

/-- A number from its first digit on. -/
def scanUnsigned (bs : List UInt8) : Option (Doc × List UInt8) := do
  let (int, bs₁) ← scanInt bs
  let (frac, bs₂) ← scanFrac bs₁
  let (exp, bs₃) ← scanExp bs₂
  if frac = [] ∧ exp = [] then some (.nat (digitsValue int), bs₃)
  else some (.literal (int ++ frac ++ exp), bs₃)

/-- A number from after its minus sign on. -/
def scanNegative (bs : List UInt8) : Option (Doc × List UInt8) := do
  let (int, bs₁) ← scanInt bs
  let (frac, bs₂) ← scanFrac bs₁
  let (exp, bs₃) ← scanExp bs₂
  some (.literal (0x2D :: int ++ frac ++ exp), bs₃)

/-! ### Documents -/

mutual

/-- A value, with the white space before it.  The first argument bounds the depth of
the calls; `parse` gives more than any text needs. -/
def scanValue : ℕ → List UInt8 → Option (Doc × List UInt8)
  | 0, _ => none
  | fuel + 1, bs =>
      match skipSpace bs with
      | [] => none
      | b :: rest =>
          if b = 0x22 then (scanStr rest).map fun r => (.str r.1, r.2)
          else if b = 0x7B then
            match skipSpace rest with
            | [] => none
            | c :: rest' =>
                if c = 0x7D then some (.obj [], rest')
                else (scanMembers fuel (c :: rest')).map fun r => (.obj r.1, r.2)
          else if b = 0x5B then
            match skipSpace rest with
            | [] => none
            | c :: rest' =>
                if c = 0x5D then some (.arr [], rest')
                else (scanElems fuel (c :: rest')).map fun r => (.arr r.1, r.2)
          else if b = 0x6E then (scanWord [0x75, 0x6C, 0x6C] rest).map fun r => (.null, r)
          else if b = 0x74 then (scanWord [0x72, 0x75, 0x65] rest).map fun r => (.bool true, r)
          else if b = 0x66 then
            (scanWord [0x61, 0x6C, 0x73, 0x65] rest).map fun r => (.bool false, r)
          else if b = 0x2D then scanNegative rest
          else if isDigit b then scanUnsigned (b :: rest)
          else none

/-- The elements of an array up to its closing bracket. -/
def scanElems : ℕ → List UInt8 → Option (List Doc × List UInt8)
  | 0, _ => none
  | fuel + 1, bs =>
      match scanValue fuel bs with
      | none => none
      | some (v, rest) =>
          match skipSpace rest with
          | [] => none
          | b :: rest' =>
              if b = 0x2C then (scanElems fuel rest').map fun r => (v :: r.1, r.2)
              else if b = 0x5D then some ([v], rest')
              else none

/-- The members of an object up to its closing brace. -/
def scanMembers : ℕ → List UInt8 → Option (List (List UInt8 × Doc) × List UInt8)
  | 0, _ => none
  | fuel + 1, bs =>
      match skipSpace bs with
      | [] => none
      | q :: rest =>
          if q = 0x22 then
            match scanStr rest with
            | none => none
            | some (key, rest) =>
                match skipSpace rest with
                | [] => none
                | c :: rest =>
                    if c = 0x3A then
                      match scanValue fuel rest with
                      | none => none
                      | some (v, rest) =>
                          match skipSpace rest with
                          | [] => none
                          | b :: rest =>
                              if b = 0x2C then
                                (scanMembers fuel rest).map fun r => ((key, v) :: r.1, r.2)
                              else if b = 0x7D then some ([(key, v)], rest)
                              else none
                    else none
          else none

end

/-- The document of a text: one value with white space around it. -/
def parse (bs : List UInt8) : Option Doc :=
  match scanValue (2 * bs.length + 1) bs with
  | none => none
  | some (v, rest) => if skipSpace rest = [] then some v else none

/-- The bytes a value can start with. -/
def isStart (b : UInt8) : Bool :=
  b == 0x22 || b == 0x7B || b == 0x5B || b == 0x6E || b == 0x74 || b == 0x66 || b == 0x2D ||
    isDigit b

/-- A text that starts with none of them has no document. -/
lemma parse_cons_of_not_start {b : UInt8} {bs : List UInt8} (hspace : isSpace b = false)
    (hstart : isStart b = false) : parse (b :: bs) = none := by
  simp only [isStart, Bool.or_eq_false_iff, beq_eq_false_iff_ne, ne_eq] at hstart
  obtain ⟨⟨⟨⟨⟨⟨⟨h₁, h₂⟩, h₃⟩, h₄⟩, h₅⟩, h₆⟩, h₇⟩, h₈⟩ := hstart
  have hscan : ∀ fuel, scanValue (fuel + 1) (b :: bs) = none := by
    intro fuel
    rw [scanValue, skipSpace, if_neg (by simp [hspace])]
    simp only [if_neg h₁, if_neg h₂, if_neg h₃, if_neg h₄, if_neg h₅, if_neg h₆, if_neg h₇, h₈,
      Bool.false_eq_true, if_false]
  rw [parse, hscan]

/-! ### Arrays and objects -/

/-- An array or an object. -/
def Doc.isComposite : Doc → Bool
  | .arr _ => true
  | .obj _ => true
  | _ => false

lemma isComposite_of_scanUnsigned {bs rest : List UInt8} {d : Doc}
    (h : scanUnsigned bs = some (d, rest)) : d.isComposite = false := by
  simp only [scanUnsigned, Option.bind_eq_bind, Option.bind_eq_some_iff] at h
  obtain ⟨⟨int, bs₁⟩, -, ⟨frac, bs₂⟩, -, ⟨exp, bs₃⟩, -, h⟩ := h
  split_ifs at h
  · obtain ⟨rfl, -⟩ := Prod.mk.inj (Option.some.inj h)
    rfl
  · obtain ⟨rfl, -⟩ := Prod.mk.inj (Option.some.inj h)
    rfl

lemma isComposite_of_scanNegative {bs rest : List UInt8} {d : Doc}
    (h : scanNegative bs = some (d, rest)) : d.isComposite = false := by
  simp only [scanNegative, Option.bind_eq_bind, Option.bind_eq_some_iff] at h
  obtain ⟨⟨int, bs₁⟩, -, ⟨frac, bs₂⟩, -, ⟨exp, bs₃⟩, -, h⟩ := h
  obtain ⟨rfl, -⟩ := Prod.mk.inj (Option.some.inj h)
  rfl

/-- A value that starts with neither bracket is a scalar. -/
lemma isComposite_of_scanValue {fuel : ℕ} {b : UInt8} {bs rest : List UInt8} {d : Doc}
    (hspace : isSpace b = false) (hbrace : b ≠ 0x7B) (hbracket : b ≠ 0x5B)
    (h : scanValue (fuel + 1) (b :: bs) = some (d, rest)) : d.isComposite = false := by
  rw [scanValue, skipSpace, if_neg (by simp [hspace])] at h
  dsimp only at h
  rw [if_neg hbrace, if_neg hbracket] at h
  have hmap : ∀ {α : Type} {o : Option α} {f : α → Doc × List UInt8},
      (∀ a, (f a).1.isComposite = false) → o.map f = some (d, rest) → d.isComposite = false := by
    intro α o f hf ho
    obtain ⟨r, -, heq⟩ := Option.map_eq_some_iff.1 ho
    have hr := hf r
    rwa [heq] at hr
  split_ifs at h
  · exact hmap (fun _ => rfl) h
  · exact hmap (fun _ => rfl) h
  · exact hmap (fun _ => rfl) h
  · exact hmap (fun _ => rfl) h
  · exact isComposite_of_scanNegative h
  · exact isComposite_of_scanUnsigned h

/-- A text whose document is an array or an object starts with its bracket, or with white space. -/
lemma head_of_parse {bs : List UInt8} {d : Doc} (h : parse bs = some d)
    (hd : d.isComposite = true) :
    ∃ b rest, bs = b :: rest ∧ (isSpace b = true ∨ b = 0x7B ∨ b = 0x5B) := by
  rw [parse] at h
  cases hscan : scanValue (2 * bs.length + 1) bs with
  | none =>
      rw [hscan] at h
      cases h
  | some r =>
      obtain ⟨v, rest⟩ := r
      rw [hscan] at h
      dsimp only at h
      split_ifs at h
      obtain rfl := Option.some.inj h
      cases bs with
      | nil =>
          rw [scanValue, skipSpace] at hscan
          cases hscan
      | cons b bs =>
          refine ⟨b, bs, rfl, ?_⟩
          by_contra hnot
          simp only [not_or, Bool.not_eq_true] at hnot
          obtain ⟨hspace, hbrace, hbracket⟩ := hnot
          rw [isComposite_of_scanValue hspace hbrace hbracket hscan] at hd
          cases hd

end Json

import Mathlib.Data.List.TakeDrop
import Haske.Lib.Json.Str

/-!
# Round trip of documents

Parsing the text of a value gives the document of the value, `Value.toDoc`, and the
document determines the value.  So the writer is injective: two values with the same
text are equal, and no content of a string can imitate the boundary of a member.
-/

namespace Json

/-! ### Numbers -/

/-- Nothing here continues a number. -/
def NumberEnd : List UInt8 → Prop
  | [] => True
  | b :: _ => isDigit b = false ∧ b ≠ 0x2E ∧ b ≠ 0x65 ∧ b ≠ 0x45

lemma numberEnd_cons {b : UInt8} (h : isDigit b = false ∧ b ≠ 0x2E ∧ b ≠ 0x65 ∧ b ≠ 0x45)
    (rest : List UInt8) : NumberEnd (b :: rest) := h

lemma ne_of_isDigit {d c : UInt8} (hd : isDigit d = true) (hc : isDigit c = false) : d ≠ c := by
  rintro rfl
  simp [hc] at hd

/-- The bytes of a decimal numeral. -/
def digitBytes (n : ℕ) : List UInt8 := (Nat.toDigits 10 n).map fun c => UInt8.ofNat c.toNat

lemma digitBytes_ne_nil (n : ℕ) : digitBytes n ≠ [] := by
  simp [digitBytes]

lemma toNat_of_mem_toDigits {n : ℕ} {c : Char} (h : c ∈ Nat.toDigits 10 n) :
    0x30 ≤ c.toNat ∧ c.toNat ≤ 0x39 := by
  have hd := Nat.isDigit_of_mem_toDigits (by decide) (by decide) h
  simp only [Char.isDigit, Bool.and_eq_true, decide_eq_true_eq] at hd
  exact ⟨UInt32.le_iff_toNat_le.1 hd.1, UInt32.le_iff_toNat_le.1 hd.2⟩

lemma encode_toDigits (n : ℕ) : Utf8.encode (Nat.toDigits 10 n) = digitBytes n := by
  have h : ∀ cs : List Char, (∀ c ∈ cs, c.toNat < 0x80) →
      Utf8.encode cs = cs.map fun c => UInt8.ofNat c.toNat := by
    intro cs
    induction cs with
    | nil => intro _; rfl
    | cons c cs ih =>
        intro hcs
        rw [Utf8.encode_cons_ascii (hcs c (by simp)), ih fun c' hc' => hcs c' (by simp [hc'])]
        rfl
  refine h _ fun c hc => ?_
  have := toNat_of_mem_toDigits hc
  omega

lemma isDigit_of_mem_digitBytes {n : ℕ} {b : UInt8} (h : b ∈ digitBytes n) : isDigit b = true := by
  obtain ⟨c, hc, rfl⟩ := List.mem_map.1 h
  obtain ⟨h₁, h₂⟩ := toNat_of_mem_toDigits hc
  simp only [isDigit, Bool.and_eq_true, decide_eq_true_eq, UInt8.le_iff_toNat_le,
    UInt8.toNat_ofNat']
  rw [Nat.mod_eq_of_lt (by omega)]
  exact ⟨h₁, h₂⟩

lemma digitsValue_digitBytes (n : ℕ) : digitsValue (digitBytes n) = n := by
  have h : ∀ (cs : List Char) (k : ℕ), (∀ c ∈ cs, c.toNat < 0x80) →
      (cs.map fun c => UInt8.ofNat c.toNat).foldl (fun n d => 10 * n + (d.toNat - 0x30)) k =
        Nat.ofDigitChars 10 cs k := by
    intro cs
    induction cs with
    | nil => intro k _; rfl
    | cons c cs ih =>
        intro k hcs
        have hc := hcs c (by simp)
        rw [List.map_cons, List.foldl_cons, ih _ fun c' hc' => hcs c' (by simp [hc']),
          Nat.ofDigitChars_cons, UInt8.toNat_ofNat', Nat.mod_eq_of_lt (by omega)]
        rfl
  have hval := h (Nat.toDigits 10 n) 0 fun c hc => by
    have := toNat_of_mem_toDigits hc
    omega
  rw [digitsValue, digitBytes, hval, Nat.ofDigitChars_ten_toDigits]

/-- A decimal numeral has no superfluous leading zero. -/
lemma digitBytes_head {n : ℕ} {b : UInt8} {bs : List UInt8} (h : digitBytes n = b :: bs) :
    b = 0x30 → bs = [] := by
  induction n using Nat.strongRecOn generalizing b bs with
  | ind n ih =>
      by_cases hn : n < 10
      · rw [digitBytes, Nat.toDigits_of_lt_base hn] at h
        simp only [List.map_cons, List.map_nil, List.cons.injEq] at h
        exact fun _ => h.2.symm
      · -- the leading digit is that of `n / 10`, which is not zero
        have hsplit : digitBytes n = digitBytes (n / 10) ++
            [UInt8.ofNat (Nat.digitChar (n % 10)).toNat] := by
          rw [digitBytes, Nat.toDigits_of_base_le (by decide) (by omega), digitBytes]
          simp
        cases hd : digitBytes (n / 10) with
        | nil => exact absurd hd (digitBytes_ne_nil _)
        | cons d ds =>
            rw [hsplit, hd, List.cons_append] at h
            simp only [List.cons.injEq] at h
            obtain ⟨rfl, -⟩ := h
            intro hzero
            have hds := ih (n / 10) (by omega) hd hzero
            have hval := digitsValue_digitBytes (n / 10)
            rw [hd, hzero, hds] at hval
            simp [digitsValue] at hval
            omega

lemma span_digits {ds rest : List UInt8} (hds : ∀ d ∈ ds, isDigit d = true)
    (hrest : NumberEnd rest) : (ds ++ rest).span isDigit = (ds, rest) := by
  have hstop : rest.takeWhile isDigit = [] ∧ rest.dropWhile isDigit = rest := by
    cases rest with
    | nil => exact ⟨rfl, rfl⟩
    | cons b rest =>
        have hb : ¬ isDigit b = true := by simp [hrest.1]
        exact ⟨List.takeWhile_cons_of_neg hb, List.dropWhile_cons_of_neg hb⟩
  rw [List.span_eq_takeWhile_dropWhile, List.takeWhile_append_of_pos hds, hstop.1,
    List.append_nil, Utf8.dropWhile_append_of_all hds, hstop.2]

lemma scanInt_digitBytes {n : ℕ} {rest : List UInt8} (hrest : NumberEnd rest) :
    scanInt (digitBytes n ++ rest) = some (digitBytes n, rest) := by
  rw [scanInt, span_digits (fun d hd => isDigit_of_mem_digitBytes hd) hrest]
  cases hd : digitBytes n with
  | nil => exact absurd hd (digitBytes_ne_nil n)
  | cons d ds =>
      have hhead := digitBytes_head hd
      simp only
      rw [if_neg fun h => h.2 (hhead h.1)]

lemma scanFrac_end {rest : List UInt8} (h : NumberEnd rest) : scanFrac rest = some ([], rest) := by
  cases rest with
  | nil => rfl
  | cons b rest => rw [scanFrac, if_neg h.2.1]

lemma scanExp_end {rest : List UInt8} (h : NumberEnd rest) : scanExp rest = some ([], rest) := by
  cases rest with
  | nil => rfl
  | cons b rest =>
      rw [scanExp.eq_def]
      exact if_neg fun hb => hb.elim h.2.2.1 h.2.2.2

lemma scanUnsigned_digitBytes {n : ℕ} {rest : List UInt8} (hrest : NumberEnd rest) :
    scanUnsigned (digitBytes n ++ rest) = some (.nat n, rest) := by
  simp only [scanUnsigned, scanInt_digitBytes hrest, scanFrac_end hrest, scanExp_end hrest,
    Option.bind_eq_bind, Option.bind_some, and_self, if_true, digitsValue_digitBytes]

/-! ### The document of a value -/

mutual

/-- What the text of a value is scanned as. -/
def Value.toDoc : Value → Doc
  | .null => .null
  | .bool b => .bool b
  | .nat n => .nat n
  | .literal text => .literal (Utf8.asBytes text)
  | .str s => .str (Utf8.encode (escape s))
  | .arr elems => .arr (toDocElems elems)
  | .obj members => .obj (toDocMembers members)

def toDocElems : List Value → List Doc
  | [] => []
  | v :: vs => v.toDoc :: toDocElems vs

def toDocMembers : List (String × Value) → List (List UInt8 × Doc)
  | [] => []
  | (k, v) :: ms => (Utf8.encode (escape k), v.toDoc) :: toDocMembers ms

end

/-! ### Scanning what was written -/

@[simp] lemma encode_quote (cs : List Char) : Utf8.encode ('"' :: cs) = 0x22 :: Utf8.encode cs :=
  Utf8.encode_cons_ascii (by decide) cs

@[simp] lemma encode_comma (cs : List Char) : Utf8.encode (',' :: cs) = 0x2C :: Utf8.encode cs :=
  Utf8.encode_cons_ascii (by decide) cs

@[simp] lemma encode_colon (cs : List Char) : Utf8.encode (':' :: cs) = 0x3A :: Utf8.encode cs :=
  Utf8.encode_cons_ascii (by decide) cs

@[simp] lemma encode_bracket (cs : List Char) : Utf8.encode ('[' :: cs) = 0x5B :: Utf8.encode cs :=
  Utf8.encode_cons_ascii (by decide) cs

@[simp] lemma encode_bracket' (cs : List Char) : Utf8.encode (']' :: cs) = 0x5D :: Utf8.encode cs :=
  Utf8.encode_cons_ascii (by decide) cs

@[simp] lemma encode_brace (cs : List Char) :
    Utf8.encode ('\x7b' :: cs) = 0x7B :: Utf8.encode cs :=
  Utf8.encode_cons_ascii (by decide) cs

@[simp] lemma encode_brace' (cs : List Char) :
    Utf8.encode ('\x7d' :: cs) = 0x7D :: Utf8.encode cs :=
  Utf8.encode_cons_ascii (by decide) cs

lemma writeElemsTail_eq (v : Value) (vs : List Value) :
    writeElemsTail (v :: vs) = ',' :: writeElems (v :: vs) := by
  rw [writeElemsTail, writeElems]

lemma writeMembersTail_eq (m : String × Value) (ms : List (String × Value)) :
    writeMembersTail (m :: ms) = ',' :: writeMembers (m :: ms) := by
  obtain ⟨k, v⟩ := m
  rw [writeMembersTail, writeMembers]

lemma skipSpace_cons {b : UInt8} (h : isSpace b = false) (rest : List UInt8) :
    skipSpace (b :: rest) = b :: rest := by
  rw [skipSpace, h]
  rfl

/-- The first byte of a written value is not white space and not a closing bracket or
brace. -/
abbrev ValueStart (b : UInt8) : Prop := isSpace b = false ∧ b ≠ 0x5D ∧ b ≠ 0x7D

lemma write_head {v : Value} (hv : v.NoLiteral) :
    ∃ b bs, Utf8.encode (write v) = b :: bs ∧ ValueStart b := by
  cases v with
  | null => exact ⟨_, _, rfl, by decide⟩
  | bool b => cases b <;> exact ⟨_, _, rfl, by decide⟩
  | nat n =>
      rw [write, encode_toDigits]
      cases hd : digitBytes n with
      | nil => exact absurd hd (digitBytes_ne_nil n)
      | cons d ds =>
          refine ⟨d, ds, rfl, ?_⟩
          have hdig := isDigit_of_mem_digitBytes (n := n) (b := d) (by simp [hd])
          have hne : ∀ c : UInt8, isDigit c = false → d ≠ c := fun _ hc => ne_of_isDigit hdig hc
          refine ⟨?_, hne _ (by decide), hne _ (by decide)⟩
          simp [isSpace, hne 0x20 (by decide), hne 0x0A (by decide), hne 0x09 (by decide),
            hne 0x0D (by decide)]
  | literal text => exact absurd hv (by simp [Value.NoLiteral])
  | str s => exact ⟨_, _, by rw [write, encode_quote], by decide⟩
  | arr elems => exact ⟨_, _, by rw [write, encode_bracket], by decide⟩
  | obj members => exact ⟨_, _, by rw [write, encode_brace], by decide⟩

lemma length_write_pos {v : Value} (hv : v.NoLiteral) : 0 < (Utf8.encode (write v)).length := by
  obtain ⟨b, bs, h, -⟩ := write_head hv
  simp [h]

lemma numberEnd_elems (vs : List Value) (rest : List UInt8) :
    NumberEnd (Utf8.encode (writeElemsTail vs) ++ 0x5D :: rest) := by
  cases vs with
  | nil => exact numberEnd_cons (by decide) _
  | cons v vs =>
      rw [writeElemsTail, encode_comma, List.cons_append]
      exact numberEnd_cons (by decide) _

lemma numberEnd_members (ms : List (String × Value)) (rest : List UInt8) :
    NumberEnd (Utf8.encode (writeMembersTail ms) ++ 0x7D :: rest) := by
  cases ms with
  | nil => exact numberEnd_cons (by decide) _
  | cons m ms =>
      obtain ⟨k, v⟩ := m
      rw [writeMembersTail, encode_comma, List.cons_append]
      exact numberEnd_cons (by decide) _

-- By recursion on the value.  Every call of the scanner spends one unit of fuel and at
-- least every second one consumes a byte, so twice the length of the text is enough.
mutual

/-- A written value is scanned as its document, whatever follows it that does not
continue a number. -/
theorem scanValue_write : ∀ (v : Value) (fuel : ℕ) (rest : List UInt8), v.NoLiteral →
    2 * (Utf8.encode (write v)).length ≤ fuel → NumberEnd rest →
    scanValue fuel (Utf8.encode (write v) ++ rest) = some (v.toDoc, rest)
  | v, 0, _, hv, hfuel, _ => by
      have := length_write_pos hv
      omega
  | .null, fuel + 1, rest, _, _, _ => by rfl
  | .bool true, fuel + 1, rest, _, _, _ => by rfl
  | .bool false, fuel + 1, rest, _, _, _ => by rfl
  | .nat n, fuel + 1, rest, hv, _, hrest => by
      obtain ⟨b, bs, hb, hstart⟩ := write_head hv
      rw [write, encode_toDigits] at hb ⊢
      have hscan := scanUnsigned_digitBytes (n := n) hrest
      have hdig := isDigit_of_mem_digitBytes (n := n) (b := b) (by simp [hb])
      rw [hb, List.cons_append] at hscan ⊢
      have hne : ∀ c : UInt8, isDigit c = false → b ≠ c := fun _ hc => ne_of_isDigit hdig hc
      rw [scanValue, skipSpace_cons hstart.1]
      simp only [if_neg (hne 0x22 (by decide)), if_neg (hne 0x7B (by decide)),
        if_neg (hne 0x5B (by decide)), if_neg (hne 0x6E (by decide)),
        if_neg (hne 0x74 (by decide)), if_neg (hne 0x66 (by decide)),
        if_neg (hne 0x2D (by decide)), if_pos hdig, hscan, Value.toDoc]
  | .literal _, _ + 1, _, hv, _, _ => by simp [Value.NoLiteral] at hv
  | .str s, fuel + 1, rest, _, _, _ => by
      rw [write, encode_quote, Utf8.encode_append, encode_quote, Utf8.encode_nil, List.cons_append,
        List.append_assoc, scanValue, skipSpace_cons (by decide)]
      simp only [if_true, List.cons_append, List.nil_append, scanStr_escape, Option.map_some,
        Value.toDoc]
  | .arr [], fuel + 1, rest, _, _, _ => by rfl
  | .arr (v :: vs), fuel + 1, rest, hv, hfuel, _ => by
      have hv₁ : v.NoLiteral := hv.1
      have helems := scanElems_write v vs fuel rest hv (by
        simp only [write, encode_bracket, Utf8.encode_append, List.length_cons,
          List.length_append] at hfuel
        omega)
      obtain ⟨b, bs, hb, hstart⟩ := write_head hv₁
      have hwrite : Utf8.encode (writeElems (v :: vs)) =
          b :: (bs ++ Utf8.encode (writeElemsTail vs)) := by
        rw [writeElems, Utf8.encode_append, hb, List.cons_append]
      rw [write, encode_bracket, Utf8.encode_append, encode_bracket', Utf8.encode_nil,
        List.cons_append, List.append_assoc, List.cons_append, List.nil_append, scanValue,
        skipSpace_cons (by decide)]
      rw [hwrite, List.cons_append] at helems ⊢
      simp only [if_neg (show (0x5B : UInt8) ≠ 0x22 by decide),
        if_neg (show (0x5B : UInt8) ≠ 0x7B by decide), if_true, skipSpace_cons hstart.1,
        if_neg hstart.2.1, helems, Option.map_some, Value.toDoc]
  | .obj [], fuel + 1, rest, _, _, _ => by rfl
  | .obj ((k, v) :: ms), fuel + 1, rest, hv, hfuel, _ => by
      have hmembers := scanMembers_write k v ms fuel rest hv (by
        simp only [write, encode_brace, Utf8.encode_append, List.length_cons,
          List.length_append] at hfuel
        omega)
      have hwrite : Utf8.encode (writeMembers ((k, v) :: ms)) = 0x22 :: (Utf8.encode (escape k) ++
          0x22 :: 0x3A :: (Utf8.encode (write v) ++ Utf8.encode (writeMembersTail ms))) := by
        simp only [writeMembers, encode_quote, Utf8.encode_append, encode_colon]
      rw [write, encode_brace, Utf8.encode_append, encode_brace', Utf8.encode_nil,
        List.cons_append, List.append_assoc, List.cons_append, List.nil_append, scanValue,
        skipSpace_cons (by decide)]
      rw [hwrite, List.cons_append] at hmembers ⊢
      simp only [if_neg (show (0x7B : UInt8) ≠ 0x22 by decide), if_true,
        skipSpace_cons (show isSpace 0x22 = false by decide),
        if_neg (show (0x22 : UInt8) ≠ 0x7D by decide), hmembers, Option.map_some, Value.toDoc]

theorem scanElems_write : ∀ (v : Value) (vs : List Value) (fuel : ℕ) (rest : List UInt8),
    NoLiteralElems (v :: vs) → 2 * (Utf8.encode (writeElems (v :: vs))).length + 1 ≤ fuel →
    scanElems fuel (Utf8.encode (writeElems (v :: vs)) ++ 0x5D :: rest) =
      some (toDocElems (v :: vs), rest)
  | _, _, 0, _, _, hfuel => by omega
  | v, vs, fuel + 1, rest, hvs, hfuel => by
      rw [writeElems, Utf8.encode_append, List.length_append] at hfuel
      have hhead := scanValue_write v fuel (Utf8.encode (writeElemsTail vs) ++ 0x5D :: rest) hvs.1
        (by omega) (numberEnd_elems vs rest)
      rw [writeElems, Utf8.encode_append, List.append_assoc, scanElems, hhead]
      match vs with
      | [] => rfl
      | w :: ws =>
          have htail := scanElems_write w ws fuel rest hvs.2 (by
            rw [writeElemsTail_eq, encode_comma, List.length_cons] at hfuel
            omega)
          rw [writeElemsTail_eq, encode_comma, List.cons_append]
          simp only [skipSpace_cons (show isSpace 0x2C = false by decide), if_true, htail,
            Option.map_some]
          rfl

theorem scanMembers_write : ∀ (k : String) (v : Value) (ms : List (String × Value)) (fuel : ℕ)
    (rest : List UInt8), NoLiteralMembers ((k, v) :: ms) →
    2 * (Utf8.encode (writeMembers ((k, v) :: ms))).length + 1 ≤ fuel →
    scanMembers fuel (Utf8.encode (writeMembers ((k, v) :: ms)) ++ 0x7D :: rest) =
      some (toDocMembers ((k, v) :: ms), rest)
  | _, _, _, 0, _, _, hfuel => by omega
  | k, v, ms, fuel + 1, rest, hms, hfuel => by
      simp only [writeMembers, encode_quote, Utf8.encode_append, encode_colon, List.length_cons,
        List.length_append] at hfuel
      have hhead := scanValue_write v fuel (Utf8.encode (writeMembersTail ms) ++ 0x7D :: rest)
        hms.1 (by omega) (numberEnd_members ms rest)
      simp only [writeMembers, encode_quote, Utf8.encode_append, encode_colon, List.cons_append,
        List.append_assoc]
      rw [scanMembers, skipSpace_cons (by decide)]
      simp only [if_true, scanStr_escape, skipSpace_cons (show isSpace 0x3A = false by decide),
        hhead]
      match ms with
      | [] => rfl
      | (k', v') :: ms' =>
          have htail := scanMembers_write k' v' ms' fuel rest hms.2 (by
            rw [writeMembersTail_eq, encode_comma, List.length_cons] at hfuel
            omega)
          rw [writeMembersTail_eq, encode_comma, List.cons_append]
          simp only [skipSpace_cons (show isSpace 0x2C = false by decide), if_true, htail,
            Option.map_some]
          rfl

end

/-- **Round trip.**  The text of a value parses as the document of the value. -/
theorem parse_toBytes {v : Value} (hv : v.NoLiteral) : parse v.toBytes = some v.toDoc := by
  have h := scanValue_write v (2 * (Utf8.encode (write v)).length + 1) [] hv (by omega) trivial
  rw [List.append_nil] at h
  rw [Value.toBytes_eq, parse, h]
  rfl

end Json

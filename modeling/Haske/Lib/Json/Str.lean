import Haske.Lib.Json.Scan

/-!
# Round trip of string literals

Writing a string as a literal and scanning it back gives the literal, and reading the
literal strictly gives the string, whatever characters it has.
-/

namespace Json

/-- A byte that stands for itself inside a string literal. -/
def Plain (b : UInt8) : Prop := b ≠ 0x22 ∧ b ≠ 0x5C ∧ ¬ b < 0x20

lemma scanStr_cons_plain {b : UInt8} (hb : Plain b) (rest : List UInt8) :
    scanStr (b :: rest) = (scanStr rest).map fun r => (b :: r.1, r.2) := by
  obtain ⟨h₁, h₂, h₃⟩ := hb
  rw [scanStr.eq_def]
  simp only [if_neg h₁, if_neg h₂, if_neg h₃]

lemma unescape_cons_plain {b : UInt8} (hb : Plain b) (rest : List UInt8) :
    unescape (b :: rest) = (unescape rest).map (b :: ·) := by
  rw [unescape.eq_def]
  simp only [if_neg hb.2.1]

lemma scanStr_append_plain {bs : List UInt8} (h : ∀ b ∈ bs, Plain b) (rest : List UInt8) :
    scanStr (bs ++ rest) = (scanStr rest).map fun r => (bs ++ r.1, r.2) := by
  induction bs with
  | nil => simp
  | cons b bs ih =>
      rw [List.cons_append, scanStr_cons_plain (h b (by simp)),
        ih fun b' hb' => h b' (by simp [hb'])]
      simp [Function.comp_def]

lemma unescape_append_plain {bs : List UInt8} (h : ∀ b ∈ bs, Plain b) (rest : List UInt8) :
    unescape (bs ++ rest) = (unescape rest).map (bs ++ ·) := by
  induction bs with
  | nil => simp
  | cons b bs ih =>
      rw [List.cons_append, unescape_cons_plain (h b (by simp)),
        ih fun b' hb' => h b' (by simp [hb'])]
      simp [Function.comp_def]

/-! ### The escape of one character -/

/-- What a character is written as: itself, if all its bytes are plain, a two
character escape, or four hexadecimal digits. -/
lemma escapeChar_cases (c : Char) :
    (escapeChar c = [c] ∧ ∀ b ∈ String.utf8EncodeChar c, Plain b) ∨
    (∃ e b, b ≠ 0x75 ∧ simpleEscape b = some e ∧ Utf8.encode (escapeChar c) = [0x5C, b] ∧
      String.utf8EncodeChar c = [e]) ∨
    (∃ h₃ h₄, hexValue4 0x30 0x30 h₃ h₄ = some c.toNat ∧ c.toNat < 0x20 ∧
      Utf8.encode (escapeChar c) = [0x5C, 0x75, 0x30, 0x30, h₃, h₄]) := by
  by_cases h₁ : c = '"'
  · subst h₁
    exact Or.inr (Or.inl ⟨0x22, 0x22, by decide⟩)
  by_cases h₂ : c = '\\'
  · subst h₂
    exact Or.inr (Or.inl ⟨0x5C, 0x5C, by decide⟩)
  by_cases h₃ : c = '\x08'
  · subst h₃
    exact Or.inr (Or.inl ⟨0x08, 0x62, by decide⟩)
  by_cases h₄ : c = '\x0c'
  · subst h₄
    exact Or.inr (Or.inl ⟨0x0C, 0x66, by decide⟩)
  by_cases h₅ : c = '\n'
  · subst h₅
    exact Or.inr (Or.inl ⟨0x0A, 0x6E, by decide⟩)
  by_cases h₆ : c = '\r'
  · subst h₆
    exact Or.inr (Or.inl ⟨0x0D, 0x72, by decide⟩)
  by_cases h₇ : c = '\t'
  · subst h₇
    exact Or.inr (Or.inl ⟨0x09, 0x74, by decide⟩)
  -- every other character is itself, unless it is a control character
  have hrest : escapeChar c = if c.toNat < 0x20 then
      ['\\', 'u', '0', '0', Nat.digitChar (c.toNat / 16), Nat.digitChar (c.toNat % 16)]
      else [c] := by
    simp only [escapeChar, if_neg h₁, if_neg h₂, if_neg h₃, if_neg h₄, if_neg h₅, if_neg h₆,
      if_neg h₇]
  by_cases hlow : c.toNat < 0x20
  · -- a control character without an escape of its own
    have hex : ∀ n < 0x20, hexValue4 0x30 0x30 (UInt8.ofNat (Nat.digitChar (n / 16)).toNat)
        (UInt8.ofNat (Nat.digitChar (n % 16)).toNat) = some n := by decide
    have hdigit : ∀ n < 16, (Nat.digitChar n).toNat < 0x80 := by decide
    refine Or.inr (Or.inr ⟨_, _, hex _ hlow, hlow, ?_⟩)
    rw [hrest, if_pos hlow]
    rw [Utf8.encode_cons_ascii (by decide), Utf8.encode_cons_ascii (by decide),
      Utf8.encode_cons_ascii (by decide), Utf8.encode_cons_ascii (by decide),
      Utf8.encode_cons_ascii (hdigit _ (by omega)), Utf8.encode_cons_ascii (hdigit _ (by omega))]
    rfl
  · refine Or.inl ⟨by rw [hrest, if_neg hlow], ?_⟩
    intro b hb
    -- its bytes are the code point itself, or all at least 0x80
    by_cases hascii : c.toNat < 0x80
    · rw [Utf8.utf8EncodeChar_ascii hascii, List.mem_singleton] at hb
      have hq : c.toNat ≠ 0x22 := fun h => h₁ (Char.toNat_inj.1 h)
      have hbs : c.toNat ≠ 0x5C := fun h => h₂ (Char.toNat_inj.1 h)
      have hbn : b.toNat = c.toNat := by
        rw [hb, UInt8.toNat_ofNat', Nat.mod_eq_of_lt (by omega)]
      refine ⟨?_, ?_, ?_⟩
      · rintro rfl
        exact hq hbn.symm
      · rintro rfl
        exact hbs hbn.symm
      · rw [UInt8.lt_iff_toNat_lt, hbn]
        exact hlow
    · have hge := Utf8.le_of_mem_utf8EncodeChar (Nat.le_of_not_lt hascii) hb
      rw [UInt8.le_iff_toNat_le] at hge
      refine ⟨?_, ?_, ?_⟩
      · rintro rfl
        exact absurd hge (by decide)
      · rintro rfl
        exact absurd hge (by decide)
      · rw [UInt8.lt_iff_toNat_lt]
        exact Nat.not_lt.2 (Nat.le_trans (by decide) hge)

lemma scanStr_escapeChar (c : Char) (rest : List UInt8) :
    scanStr (Utf8.encode (escapeChar c) ++ rest) =
      (scanStr rest).map fun r => (Utf8.encode (escapeChar c) ++ r.1, r.2) := by
  rcases escapeChar_cases c with ⟨hc, hplain⟩ | ⟨e, b, hb, he, hc, -⟩ | ⟨h₃, h₄, hv, -, hc⟩
  · have henc : Utf8.encode (escapeChar c) = String.utf8EncodeChar c := by simp [hc, Utf8.encode]
    rw [henc, scanStr_append_plain hplain]
  · rw [hc, List.cons_append, List.cons_append, List.nil_append, scanStr.eq_def]
    simp [hb, he]
  · rw [hc]
    simp only [List.cons_append, List.nil_append]
    rw [scanStr.eq_def]
    simp [hv]

lemma unescape_escapeChar (c : Char) (rest : List UInt8) :
    unescape (Utf8.encode (escapeChar c) ++ rest) =
      (unescape rest).map (String.utf8EncodeChar c ++ ·) := by
  rcases escapeChar_cases c with ⟨hc, hplain⟩ | ⟨e, b, hb, he, hc, hc'⟩ | ⟨h₃, h₄, hv, hlow, hc⟩
  · have henc : Utf8.encode (escapeChar c) = String.utf8EncodeChar c := by simp [hc, Utf8.encode]
    rw [henc, unescape_append_plain hplain]
  · rw [hc, hc', List.cons_append, List.cons_append, List.nil_append, unescape.eq_def]
    simp [hb, he]
  · rw [hc]
    simp only [List.cons_append, List.nil_append]
    rw [unescape.eq_def]
    have h₁ : ¬ (0xDC00 ≤ c.toNat ∧ c.toNat ≤ 0xDFFF) := by omega
    have h₂ : ¬ (0xD800 ≤ c.toNat ∧ c.toNat ≤ 0xDBFF) := by omega
    simp only [if_true, hv, if_neg h₁, if_neg h₂, codePoint, Char.ofNat_toNat]

/-! ### The literal -/

lemma scanStr_encode_flatMap (cs : List Char) (rest : List UInt8) :
    scanStr (Utf8.encode (cs.flatMap escapeChar) ++ 0x22 :: rest) =
      some (Utf8.encode (cs.flatMap escapeChar), rest) := by
  induction cs with
  | nil =>
      rw [List.flatMap_nil, Utf8.encode_nil, List.nil_append, scanStr.eq_def]
      rfl
  | cons c cs ih =>
      rw [List.flatMap_cons, Utf8.encode_append, List.append_assoc, scanStr_escapeChar, ih]
      rfl

/-- A written literal is scanned up to its closing quote. -/
theorem scanStr_escape (s : String) (rest : List UInt8) :
    scanStr (Utf8.encode (escape s) ++ 0x22 :: rest) = some (Utf8.encode (escape s), rest) :=
  scanStr_encode_flatMap s.toList rest

lemma unescape_encode_flatMap (cs : List Char) :
    unescape (Utf8.encode (cs.flatMap escapeChar)) = some (Utf8.encode cs) := by
  induction cs with
  | nil => rfl
  | cons c cs ih =>
      rw [List.flatMap_cons, Utf8.encode_append, unescape_escapeChar, ih, Utf8.encode_cons]
      rfl

/-- A written literal reads as the string it was written from. -/
@[simp] theorem readRaw_escape (s : String) : readRaw (Utf8.encode (escape s)) = some s := by
  rw [readRaw, escape, unescape_encode_flatMap]
  exact Utf8.decode_asBytes s

end Json

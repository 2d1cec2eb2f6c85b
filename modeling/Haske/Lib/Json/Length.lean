import Haske.Lib.Base64
import Haske.Lib.Json.RoundTrip

/-!
# The length of JSON text

How many bytes a writer needs for a value: for a string its characters and escapes and the
two quotes, for an object its members with their keys, colons and commas.  Strings without
quotes, backslashes and control characters, as base64 text is, need as many bytes as they
have characters, and no string needs less.
-/

namespace Json

/-- The bytes of a string inside a literal. -/
def jsonLength (s : String) : ℕ := (Utf8.encode (escape s)).length

/-- The digits of a number. -/
def digitCount (n : ℕ) : ℕ := (Nat.toDigits 10 n).length

namespace Value

/-- The bytes of the text of a value. -/
def size (v : Value) : ℕ := v.toBytes.length

lemma size_nat (n : ℕ) : (nat n).size = digitCount n := by
  rw [size, toBytes_eq, write, encode_toDigits, digitBytes, List.length_map, digitCount]

lemma size_str (s : String) : (str s).size = jsonLength s + 2 := by
  rw [size, toBytes_eq, write, encode_quote, Utf8.encode_append, List.length_cons,
    List.length_append, jsonLength]
  rfl

end Value

/-- The bytes of a member, without the comma. -/
def memberSize (m : String × Value) : ℕ := jsonLength m.1 + 3 + m.2.size

/-- The bytes of the members, without the commas. -/
def membersSize : List (String × Value) → ℕ
  | [] => 0
  | m :: ms => memberSize m + membersSize ms

lemma length_writeMembersTail (ms : List (String × Value)) :
    (Utf8.encode (writeMembersTail ms)).length = membersSize ms + ms.length := by
  induction ms with
  | nil => rfl
  | cons m ms ih =>
      obtain ⟨k, v⟩ := m
      simp only [writeMembersTail, encode_comma, encode_quote, encode_colon, Utf8.encode_append,
        List.length_cons, List.length_append, ih, membersSize, memberSize, jsonLength, Value.size,
        Value.toBytes_eq]
      omega

/-- An object has two braces, its members, and a comma between any two of them. -/
lemma Value.size_obj (m : String × Value) (ms : List (String × Value)) :
    (obj (m :: ms)).size = 2 + membersSize (m :: ms) + ms.length := by
  obtain ⟨k, v⟩ := m
  simp only [size, toBytes_eq, write, writeMembers, encode_brace, encode_brace', encode_quote,
    encode_colon, Utf8.encode_append, Utf8.encode_nil, List.length_cons, List.length_append,
    List.length_nil, length_writeMembersTail, membersSize, memberSize, jsonLength]
  omega

/-! ### Strings -/

lemma length_escapeChar_pos (c : Char) : 1 ≤ (escapeChar c).length := by
  rw [escapeChar]
  repeat' split
  all_goals simp

/-- Every character needs at least one byte. -/
lemma length_le_jsonLength (s : String) : s.toList.length ≤ jsonLength s := by
  have hescape : ∀ cs : List Char, cs.length ≤ (cs.flatMap escapeChar).length := by
    intro cs
    induction cs with
    | nil => rfl
    | cons c cs ih =>
        have hc := length_escapeChar_pos c
        rw [List.flatMap_cons, List.length_append, List.length_cons]
        omega
  exact (hescape s.toList).trans (Utf8.length_le_length_encode _)

/-- The character stands for itself and is one byte. -/
def isPlain (c : Char) : Bool := c.toNat < 0x80 && escapeChar c == [c]

lemma isPlain_of_range {c : Char} (h₁ : 0x20 ≤ c.toNat) (h₂ : c.toNat < 0x80) (hquote : c ≠ '"')
    (hslash : c ≠ '\\') : isPlain c = true := by
  -- no escape applies: the short ones are for the quotes, the backslash and controls
  have hcontrol : ∀ d : Char, d.toNat < 0x20 → c ≠ d := by
    rintro d hd rfl
    omega
  rw [isPlain, Bool.and_eq_true, decide_eq_true_eq, beq_iff_eq, escapeChar, if_neg hquote,
    if_neg hslash, if_neg (hcontrol '\x08' (by decide)), if_neg (hcontrol '\x0c' (by decide)),
    if_neg (hcontrol '\n' (by decide)), if_neg (hcontrol '\r' (by decide)),
    if_neg (hcontrol '\t' (by decide)), if_neg (Nat.not_lt.2 h₁)]
  exact ⟨h₂, rfl⟩

/-- Letters and digits are plain. -/
lemma isPlain_of_isAlphanum {c : Char} (h : c.isAlphanum = true) : isPlain c = true := by
  have hrange : 0x30 ≤ c.toNat ∧ c.toNat ≤ 0x7A := by
    rcases Bool.or_eq_true_iff.1 h with halpha | hdigit
    · rcases Bool.or_eq_true_iff.1 halpha with hupper | hlower
      · obtain ⟨hlow, hhigh⟩ := of_decide_eq_true hupper
        have hlow' : 0x41 ≤ c.toNat := UInt32.le_iff_toNat_le.1 hlow
        have hhigh' : c.toNat ≤ 0x5A := UInt32.le_iff_toNat_le.1 hhigh
        omega
      · obtain ⟨hlow, hhigh⟩ := Bool.and_eq_true_iff.1 hlower
        have hlow' : 0x61 ≤ c.toNat := UInt32.le_iff_toNat_le.1 (of_decide_eq_true hlow)
        have hhigh' : c.toNat ≤ 0x7A := UInt32.le_iff_toNat_le.1 (of_decide_eq_true hhigh)
        omega
    · obtain ⟨hlow, hhigh⟩ := Bool.and_eq_true_iff.1 hdigit
      have hlow' : 0x30 ≤ c.toNat := UInt32.le_iff_toNat_le.1 (of_decide_eq_true hlow)
      have hhigh' : c.toNat ≤ 0x39 := UInt32.le_iff_toNat_le.1 (of_decide_eq_true hhigh)
      omega
  refine isPlain_of_range (by omega) (by omega) ?_ ?_
  · rintro rfl
    exact absurd h (by decide)
  · rintro rfl
    exact absurd h (by decide)

/-- A capital letter and its small letter are plain. -/
lemma isPlain_toLower {c : Char} (h : c.toLower ≠ c) :
    isPlain c.toLower = true ∧ isPlain c = true := by
  have hupper : c.val ≥ 'A'.val ∧ c.val ≤ 'Z'.val := by
    by_contra hnot
    exact h (dif_neg hnot)
  have hlow : 0x41 ≤ c.toNat := UInt32.le_iff_toNat_le.1 hupper.1
  have hhigh : c.toNat ≤ 0x5A := UInt32.le_iff_toNat_le.1 hupper.2
  have hcode : c.toLower.toNat = c.toNat + 0x20 := by
    have hlower : c.toLower.toNat = (c.toNat + 0x20) % 4294967296 :=
      congrArg Char.toNat (dif_pos hupper)
    omega
  have hrange : ∀ d : Char, 0x41 ≤ d.toNat → d.toNat ≤ 0x7A → d.toNat ≠ 0x5C →
      isPlain d = true := by
    intro d h₁ h₂ h₃
    refine isPlain_of_range (by omega) (by omega) ?_ ?_
    · rintro rfl
      exact absurd h₁ (by decide)
    · rintro rfl
      exact absurd rfl h₃
  exact ⟨hrange _ (by omega) (by omega) (by omega), hrange _ (by omega) (by omega) (by omega)⟩

/-- The bytes of a character inside a literal. -/
def charLength (c : Char) : ℕ := (Utf8.encode (escapeChar c)).length

lemma charLength_of_isPlain {c : Char} (h : isPlain c = true) : charLength c = 1 := by
  rw [isPlain, Bool.and_eq_true, decide_eq_true_eq, beq_iff_eq] at h
  rw [charLength, h.2, Utf8.encode_cons_ascii h.1]
  rfl

lemma length_flatMap_cons (c : Char) (cs : List Char) :
    (Utf8.encode ((c :: cs).flatMap escapeChar)).length =
      charLength c + (Utf8.encode (cs.flatMap escapeChar)).length := by
  rw [List.flatMap_cons, Utf8.encode_append, List.length_append, charLength]

lemma jsonLength_of_plain {s : String} (h : ∀ c ∈ s.toList, isPlain c = true) :
    jsonLength s = s.toList.length := by
  rw [jsonLength, escape]
  generalize s.toList = cs at h
  induction cs with
  | nil => rfl
  | cons c cs ih =>
      rw [length_flatMap_cons, charLength_of_isPlain (h c (by simp)),
        ih fun d hd => h d (by simp [hd]), List.length_cons, Nat.add_comm]

/-- The case of letters does not matter. -/
lemma jsonLength_of_toLower {s t : String}
    (h : s.toList.map Char.toLower = t.toList.map Char.toLower) : jsonLength s = jsonLength t := by
  have hchar : ∀ c : Char, charLength c.toLower = charLength c := by
    intro c
    -- a letter that has another case is plain, so both cases are one byte
    by_cases hc : c.toLower = c
    · rw [hc]
    · obtain ⟨hlower, hplain⟩ := isPlain_toLower hc
      rw [charLength_of_isPlain hlower, charLength_of_isPlain hplain]
  have hlower : ∀ cs : List Char, (Utf8.encode ((cs.map Char.toLower).flatMap escapeChar)).length =
      (Utf8.encode (cs.flatMap escapeChar)).length := by
    intro cs
    induction cs with
    | nil => rfl
    | cons c cs ih => rw [List.map_cons, length_flatMap_cons, length_flatMap_cons, hchar, ih]
  rw [jsonLength, jsonLength, escape, escape, ← hlower s.toList, ← hlower t.toList, h]

end Json

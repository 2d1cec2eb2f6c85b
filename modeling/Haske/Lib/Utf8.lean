import Mathlib.Data.List.Basic
import Mathlib.Data.List.TakeWhile

/-!
# Strings and their UTF-8 bytes

A string of the modelled programs is a sequence of Unicode scalar values, and the
bytes it is stored, sent and signed as are its UTF-8 encoding.  This file relates
the two: decoding undoes encoding, a character below `U+0080` is one byte and no
other character contributes a byte below `0x80`.  The last two facts are what lets
a scanner look for ASCII delimiters in the bytes without decoding them.

It also has the two operations on strings that text formats need at their border,
trimming and splitting at a character.
-/

namespace Utf8

/-- The UTF-8 encoding of a sequence of characters. -/
def encode (cs : List Char) : List UInt8 := cs.flatMap String.utf8EncodeChar

/-- The bytes of a string. -/
def asBytes (s : String) : List UInt8 := encode s.toList

/-- The string with the given bytes, if they are valid UTF-8. -/
def decode (bs : List UInt8) : Option String := String.fromUTF8? bs.toByteArray

@[simp] lemma encode_nil : encode [] = [] := rfl

lemma encode_cons (c : Char) (cs : List Char) :
    encode (c :: cs) = String.utf8EncodeChar c ++ encode cs := by
  simp [encode]

@[simp] lemma encode_append (cs ds : List Char) : encode (cs ++ ds) = encode cs ++ encode ds := by
  simp [encode]

@[simp] lemma asBytes_ofList (cs : List Char) : asBytes (String.ofList cs) = encode cs := by
  simp [asBytes]

lemma toByteArray_asBytes (s : String) : (asBytes s).toByteArray = s.toByteArray :=
  String.utf8Encode_toList

/-- Decoding undoes encoding. -/
@[simp] theorem decode_asBytes (s : String) : decode (asBytes s) = some s := by
  rw [decode, toByteArray_asBytes, String.fromUTF8?, dif_pos s.isValidUTF8]
  rfl

/-- The bytes of what was decoded are those it was decoded from. -/
lemma asBytes_of_decode {bs : List UInt8} {s : String} (h : decode bs = some s) :
    asBytes s = bs := by
  rw [decode, String.fromUTF8?] at h
  split at h
  · rename_i hvalid
    obtain rfl := Option.some.inj h
    have hbytes : (asBytes _).toByteArray = bs.toByteArray :=
      toByteArray_asBytes (String.fromUTF8 bs.toByteArray hvalid)
    simpa using congrArg (fun a => a.data.toList) hbytes
  · cases h

lemma length_le_length_encode (cs : List Char) : cs.length ≤ (encode cs).length := by
  induction cs with
  | nil => exact Nat.le_refl 0
  | cons c cs ih =>
      have hc := String.length_utf8EncodeChar c
      have hpos := Char.utf8Size_pos c
      rw [encode_cons, List.length_append, List.length_cons]
      omega

/-! ### ASCII -/

lemma utf8EncodeChar_ascii {c : Char} (h : c.toNat < 0x80) :
    String.utf8EncodeChar c = [UInt8.ofNat c.toNat] := by
  have h' : c.val.toNat ≤ 0x7f := Nat.le_of_lt_succ h
  simp only [String.utf8EncodeChar, if_pos h']
  rfl

lemma encode_cons_ascii {c : Char} (h : c.toNat < 0x80) (cs : List Char) :
    encode (c :: cs) = UInt8.ofNat c.toNat :: encode cs := by
  rw [encode_cons, utf8EncodeChar_ascii h]
  rfl

/-- The bytes of a character outside ASCII are all outside ASCII. -/
lemma le_of_mem_utf8EncodeChar {c : Char} (h : 0x80 ≤ c.toNat) {b : UInt8}
    (hb : b ∈ String.utf8EncodeChar c) : 0x80 ≤ b := by
  have h' : ¬ c.val.toNat ≤ 0x7f := Nat.not_le.2 (Nat.lt_of_succ_le h)
  rw [UInt8.le_iff_toNat_le]
  simp only [String.utf8EncodeChar, if_neg h'] at hb
  -- two, three or four bytes, each with its highest bit set
  split at hb <;> [skip; split at hb] <;>
    simp only [List.mem_cons, List.not_mem_nil, or_false] at hb
  · rcases hb with rfl | rfl <;> simp only [UInt8.toNat_ofNat'] <;> simp <;> omega
  · rcases hb with rfl | rfl | rfl <;> simp only [UInt8.toNat_ofNat'] <;> simp <;> omega
  · rcases hb with rfl | rfl | rfl | rfl <;> simp only [UInt8.toNat_ofNat'] <;> simp <;> omega

/-- A string whose first byte is ASCII starts with this character. -/
lemma toList_of_asBytes_cons {s : String} {b : UInt8} {bs : List UInt8} (h : asBytes s = b :: bs)
    (hb : b < 0x80) : ∃ c cs, s.toList = c :: cs ∧ c.toNat = b.toNat := by
  rw [asBytes] at h
  cases hs : s.toList with
  | nil =>
      rw [hs] at h
      cases h
  | cons c cs =>
      refine ⟨c, cs, rfl, ?_⟩
      rw [hs] at h
      by_cases hc : c.toNat < 0x80
      · rw [encode_cons_ascii hc] at h
        obtain ⟨rfl, -⟩ := List.cons.inj h
        rw [UInt8.toNat_ofNat']
        omega
      · rw [encode_cons] at h
        have hne : String.utf8EncodeChar c ≠ [] := by
          rw [← List.length_pos_iff, String.length_utf8EncodeChar]
          exact Char.utf8Size_pos c
        obtain ⟨b', bs', hbytes⟩ := List.exists_cons_of_ne_nil hne
        rw [hbytes, List.cons_append] at h
        obtain ⟨rfl, -⟩ := List.cons.inj h
        have hle := le_of_mem_utf8EncodeChar (Nat.le_of_not_lt hc)
          (hbytes ▸ List.mem_cons_self : b' ∈ String.utf8EncodeChar c)
        exact absurd hb (UInt8.not_lt.2 hle)

/-- The string whose characters are the given ASCII codes. -/
def ofAscii (bs : List UInt8) : String := String.ofList (bs.map fun b => Char.ofNat b.toNat)

@[simp] lemma toList_ofAscii (bs : List UInt8) :
    (ofAscii bs).toList = bs.map fun b => Char.ofNat b.toNat := by
  simp [ofAscii]

lemma toNat_ofNat_byte (b : UInt8) : (Char.ofNat b.toNat).toNat = b.toNat := by
  have hlt := b.toNat_lt
  have hvalid : b.toNat.isValidChar := Or.inl (by omega)
  rw [Char.ofNat, dif_pos hvalid]
  rfl

lemma asBytes_ofAscii {bs : List UInt8} (h : ∀ b ∈ bs, b < 0x80) : asBytes (ofAscii bs) = bs := by
  induction bs with
  | nil => rfl
  | cons b bs ih =>
      have hb : (Char.ofNat b.toNat).toNat < 0x80 := by
        rw [toNat_ofNat_byte]
        exact UInt8.lt_iff_toNat_lt.1 (h b (by simp))
      have hbs := ih fun b' hb' => h b' (by simp [hb'])
      simp only [asBytes, toList_ofAscii, List.map_cons] at hbs ⊢
      rw [encode_cons_ascii hb, hbs, toNat_ofNat_byte, UInt8.ofNat_toNat]

/-! ### Trimming and splitting -/

/-- Unicode `White_Space`. -/
def isWhitespace (c : Char) : Bool :=
  (0x09 ≤ c.toNat && c.toNat ≤ 0x0D) || c.toNat == 0x20 || c.toNat == 0x85 || c.toNat == 0xA0 ||
    c.toNat == 0x1680 || (0x2000 ≤ c.toNat && c.toNat ≤ 0x200A) || c.toNat == 0x2028 ||
    c.toNat == 0x2029 || c.toNat == 0x202F || c.toNat == 0x205F || c.toNat == 0x3000

/-- Remove white space at both ends. -/
def trim (s : String) : String :=
  String.ofList ((s.toList.dropWhile isWhitespace).reverse.dropWhile isWhitespace).reverse

lemma dropWhile_append_of_all {α : Type*} {p : α → Bool} {l₁ l₂ : List α}
    (h : ∀ a ∈ l₁, p a = true) : (l₁ ++ l₂).dropWhile p = l₂.dropWhile p := by
  induction l₁ with
  | nil => rfl
  | cons a l₁ ih =>
      rw [List.cons_append, List.dropWhile_cons_of_pos (h a (by simp))]
      exact ih fun b hb => h b (by simp [hb])

/-- Trimming a text that neither starts nor ends with white space, with white
space put around it, gives the text back. -/
theorem trim_padded {pre post text : List Char} {a b : Char}
    (hpre : ∀ c ∈ pre, isWhitespace c = true)
    (hpost : ∀ c ∈ post, isWhitespace c = true) (ha : isWhitespace a = false)
    (hb : isWhitespace b = false) (hhead : text.head? = some a) (hlast : text.getLast? = some b) :
    trim (String.ofList (pre ++ text ++ post)) = String.ofList text := by
  have hfront : (pre ++ text ++ post).dropWhile isWhitespace = text ++ post := by
    rw [List.append_assoc, dropWhile_append_of_all hpre]
    cases text with
    | nil => simp at hhead
    | cons c text =>
        obtain rfl : c = a := by simpa using hhead
        rw [List.cons_append, List.dropWhile_cons_of_neg (by simp [ha])]
  have hback : (text ++ post).reverse.dropWhile isWhitespace = text.reverse := by
    rw [List.reverse_append, dropWhile_append_of_all (by simpa using hpost)]
    rw [← List.head?_reverse] at hlast
    cases hrev : text.reverse with
    | nil => simp [hrev] at hlast
    | cons c rest =>
        obtain rfl : c = b := by simpa [hrev] using hlast
        rw [List.dropWhile_cons_of_neg (by simp [hb])]
  rw [trim, String.toList_ofList, hfront, hback, List.reverse_reverse]

lemma dropWhile_of_forall {α : Type*} {p : α → Bool} {l : List α} (h : ∀ a ∈ l, p a = false) :
    l.dropWhile p = l := by
  cases l with
  | nil => rfl
  | cons a l => rw [List.dropWhile_cons_of_neg (by simp [h a])]

/-- A text without white space is left as it is. -/
lemma trim_of_forall {s : String} (h : ∀ c ∈ s.toList, isWhitespace c = false) : trim s = s := by
  have hback : ∀ c ∈ s.toList.reverse, isWhitespace c = false :=
    fun c hc => h c (List.mem_reverse.1 hc)
  rw [trim, dropWhile_of_forall h, dropWhile_of_forall hback, List.reverse_reverse,
    String.ofList_toList]

/-- White space around a text without any is removed. -/
lemma trim_padded_of_forall {pre post text : List Char} (hpre : ∀ c ∈ pre, isWhitespace c = true)
    (hpost : ∀ c ∈ post, isWhitespace c = true) (hne : text ≠ [])
    (htext : ∀ c ∈ text, isWhitespace c = false) :
    trim (String.ofList (pre ++ text ++ post)) = String.ofList text := by
  refine trim_padded (a := text.head hne) (b := text.getLast hne) hpre hpost ?_ ?_ ?_ ?_
  · exact htext _ (List.head_mem hne)
  · exact htext _ (List.getLast_mem hne)
  · exact List.head?_eq_some_head hne
  · exact List.getLast?_eq_some_getLast hne

/-- The parts of `splitn(2, sep)`: the text before the first separator and the
rest after it, or the whole text if there is none. -/
def splitn2 (s : String) (sep : Char) : String × Option String :=
  match s.toList.dropWhile (· != sep) with
  | [] => (s, none)
  | _ :: rest => (String.ofList (s.toList.takeWhile (· != sep)), some (String.ofList rest))

lemma splitn2_append {pre rest : List Char} {sep : Char} (h : sep ∉ pre) :
    splitn2 (String.ofList (pre ++ sep :: rest)) sep =
      (String.ofList pre, some (String.ofList rest)) := by
  -- both scans stop at this separator, since there is none before it
  have hpre : ∀ c ∈ pre, (c != sep) = true := by
    intro c hc
    simp only [bne_iff_ne, ne_eq]
    rintro rfl
    exact h hc
  have hdrop : (pre ++ sep :: rest).dropWhile (· != sep) = sep :: rest := by
    rw [dropWhile_append_of_all hpre, List.dropWhile_cons_of_neg (by simp)]
  have htake : (pre ++ sep :: rest).takeWhile (· != sep) = pre := by
    rw [List.takeWhile_append_of_pos hpre, List.takeWhile_cons_of_neg (by simp), List.append_nil]
  simp only [splitn2, String.toList_ofList, hdrop, htake]

/-- A text without the separator is not split. -/
lemma splitn2_of_notMem {s : String} {sep : Char} (h : sep ∉ s.toList) :
    splitn2 s sep = (s, none) := by
  have hdrop : s.toList.dropWhile (· != sep) = [] := by
    rw [List.dropWhile_eq_nil_iff]
    intro c hc
    rw [bne_iff_ne]
    rintro rfl
    exact h hc
  rw [splitn2, hdrop]

/-- The first part of a split starts as the text does. -/
lemma splitn2_fst_cons {s : String} {sep c : Char} {cs : List Char} (hs : s.toList = c :: cs)
    (hc : c ≠ sep) : ∃ ds, (splitn2 s sep).1.toList = c :: ds := by
  rw [splitn2]
  split
  · exact ⟨cs, hs⟩
  · refine ⟨cs.takeWhile (· != sep), ?_⟩
    rw [String.toList_ofList, hs, List.takeWhile_cons_of_pos (by simpa using hc)]

end Utf8

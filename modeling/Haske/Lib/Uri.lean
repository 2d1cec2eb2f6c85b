import Mathlib.Data.List.TakeWhile
import Haske.Lib.Json.Scan

/-!
# The query of a URI

How the receiver of a URI reads its parameters: the query is what follows the first `?` up
to a `#`, the parameters are separated by `&`, and a parameter is split at its first `=`.
Names and values are then percent-decoded.  A parameter that occurs twice makes the whole
query unreadable.

A percent sign that is not followed by two hexadecimal digits is malformed.  Receivers
differ in what they do about it: a `strict` one reads nothing, the others take the percent
sign as it stands.

A text is *literal* for a receiver if it has no percent sign that would be decoded or
refused.  Exactly the literal texts are read as they stand (`readPart_eq_self`).
-/

namespace Uri

/-! ### Percent-decoding -/

/-- The byte that is written as these three. -/
def escaped (a b c : UInt8) : Option UInt8 :=
  if a = 0x25 then do
    let m ← Json.hexValue b
    let n ← Json.hexValue c
    some (UInt8.ofNat (16 * m + n))
  else none

section

variable (strict : Bool)

def percentDecode : List UInt8 → Option (List UInt8)
  | [] => some []
  | [a] => if strict && a == 0x25 then none else some [a]
  | [a, b] => if strict && (a == 0x25 || b == 0x25) then none else some [a, b]
  | a :: b :: c :: rest =>
      match escaped a b c with
      | some byte => (percentDecode rest).map (byte :: ·)
      | none =>
          if strict && a == 0x25 then none
          else (percentDecode (b :: c :: rest)).map (a :: ·)

/-- Nothing in the text is decoded or refused. -/
def isLiteral : List UInt8 → Bool
  | [] => true
  | [a] => !(strict && a == 0x25)
  | [a, b] => !(strict && (a == 0x25 || b == 0x25))
  | a :: b :: c :: rest =>
      (escaped a b c).isNone && !(strict && a == 0x25) && isLiteral (b :: c :: rest)

/-- An escape, and a percent sign that begins none. -/
example : percentDecode false [0x25, 0x34, 0x31, 0x25] = some [0x41, 0x25] ∧
    percentDecode true [0x25, 0x34, 0x31, 0x25] = none := by
  decide

variable {strict}

lemma percentDecode_of_isLiteral {bs : List UInt8} (h : isLiteral strict bs = true) :
    percentDecode strict bs = some bs := by
  induction bs using percentDecode.induct strict with
  | case1 => rfl
  | case2 a hbad =>
      rw [isLiteral, hbad] at h
      exact absurd h (by decide)
  | case3 a hok => rw [percentDecode, if_neg hok]
  | case4 a b hbad =>
      rw [isLiteral, hbad] at h
      exact absurd h (by decide)
  | case5 a b hok => rw [percentDecode, if_neg hok]
  | case6 a b c rest byte hbyte ih =>
      rw [isLiteral, hbyte] at h
      exact absurd h (by simp)
  | case7 a b c rest hnone hbad =>
      rw [isLiteral, hnone, hbad] at h
      exact absurd h (by simp)
  | case8 a b c rest hnone hok ih =>
      rw [isLiteral, Bool.and_eq_true] at h
      simp only [percentDecode, hnone, if_neg hok, ih h.2, Option.map_some]

/-- Decoding never makes a text longer, and a text that is not literal becomes shorter. -/
lemma length_percentDecode {bs out : List UInt8} (h : percentDecode strict bs = some out) :
    out.length ≤ bs.length ∧ (out.length = bs.length → isLiteral strict bs = true) := by
  induction bs using percentDecode.induct strict generalizing out with
  | case1 =>
      obtain rfl := Option.some.inj h
      exact ⟨Nat.le_refl _, fun _ => rfl⟩
  | case2 a hbad =>
      rw [percentDecode, if_pos hbad] at h
      cases h
  | case3 a hok =>
      rw [percentDecode, if_neg hok] at h
      obtain rfl := Option.some.inj h
      refine ⟨Nat.le_refl _, fun _ => ?_⟩
      rw [isLiteral, eq_false_of_ne_true hok, Bool.not_false]
  | case4 a b hbad =>
      rw [percentDecode, if_pos hbad] at h
      cases h
  | case5 a b hok =>
      rw [percentDecode, if_neg hok] at h
      obtain rfl := Option.some.inj h
      refine ⟨Nat.le_refl _, fun _ => ?_⟩
      rw [isLiteral, eq_false_of_ne_true hok, Bool.not_false]
  | case6 a b c rest byte hbyte ih =>
      -- an escape: three bytes become one
      rw [percentDecode, hbyte, Option.map_eq_some_iff] at h
      obtain ⟨tail, htail, rfl⟩ := h
      have hle := (ih htail).1
      simp only [List.length_cons]
      exact ⟨by omega, by omega⟩
  | case7 a b c rest hnone hbad =>
      simp only [percentDecode, hnone, if_pos hbad] at h
      cases h
  | case8 a b c rest hnone hok ih =>
      simp only [percentDecode, hnone, if_neg hok, Option.map_eq_some_iff] at h
      obtain ⟨tail, htail, rfl⟩ := h
      obtain ⟨hle, hliteral⟩ := ih htail
      simp only [List.length_cons] at hle hliteral ⊢
      refine ⟨by omega, fun heq => ?_⟩
      rw [isLiteral, hliteral (by omega), hnone, eq_false_of_ne_true hok]
      rfl

/-- A text without percent signs is literal. -/
lemma isLiteral_of_notMem {bs : List UInt8} (h : 0x25 ∉ bs) : isLiteral strict bs = true := by
  induction bs using percentDecode.induct strict with
  | case1 => rfl
  | case2 a hbad => grind
  | case3 a hok => rw [isLiteral, eq_false_of_ne_true hok, Bool.not_false]
  | case4 a b hbad => grind
  | case5 a b hok => rw [isLiteral, eq_false_of_ne_true hok, Bool.not_false]
  | case6 a b c rest byte hbyte ih =>
      have hne : a ≠ 0x25 := fun heq => h (by simp [heq])
      rw [escaped, if_neg hne] at hbyte
      cases hbyte
  | case7 a b c rest hnone hbad => grind
  | case8 a b c rest hnone hok ih =>
      rw [List.mem_cons, not_or] at h
      rw [isLiteral, ih h.2, hnone, eq_false_of_ne_true hok]
      rfl

end

/-! ### Parameters -/

/-- The query part of a URI. -/
def query (uri : String) : List Char :=
  ((uri.toList.dropWhile (· != '?')).drop 1).takeWhile (· != '#')

section

variable (strict : Bool)

def readPart (cs : List Char) : Option String :=
  (percentDecode strict (Utf8.encode cs)).bind Utf8.decode

/-- The name and the value of a parameter. -/
def readParam (cs : List Char) : Option (String × String) := do
  let name ← readPart strict (cs.takeWhile (· != '='))
  let value ← readPart strict ((cs.dropWhile (· != '=')).drop 1)
  some (name, value)

/-- The parameters of a URI, if none of them occurs twice. -/
def params (uri : String) : Option (List (String × String)) := do
  let ps ← ((query uri).splitOn '&').mapM (readParam strict)
  if (ps.map Prod.fst).Nodup then some ps else none

variable {strict}

lemma readPart_of_isLiteral {s : String} (h : isLiteral strict (Utf8.asBytes s) = true) :
    readPart strict s.toList = some s := by
  have hdecode : percentDecode strict (Utf8.encode s.toList) = some (Utf8.asBytes s) :=
    percentDecode_of_isLiteral h
  rw [readPart, hdecode, Option.bind_some, Utf8.decode_asBytes]

/-- **Reading never adds to a text.**  If a part of a text reads as the whole text, then it
is the whole text, and literal. -/
theorem readPart_eq_self {cs : List Char} {s : String} (hcs : cs <+: s.toList)
    (h : readPart strict cs = some s) :
    cs = s.toList ∧ isLiteral strict (Utf8.asBytes s) = true := by
  rw [readPart, Option.bind_eq_some_iff] at h
  obtain ⟨out, hout, hs⟩ := h
  obtain ⟨rest, hrest⟩ := hcs
  obtain ⟨hle, hliteral⟩ := length_percentDecode hout
  have hbytes : Utf8.asBytes s = Utf8.encode cs ++ Utf8.encode rest := by
    rw [Utf8.asBytes, ← hrest, Utf8.encode_append]
  rw [← Utf8.asBytes_of_decode hs, hbytes, List.length_append] at hle hliteral
  have hnil : rest = [] := by
    rw [← List.length_eq_zero_iff]
    have hrest_le := Utf8.length_le_length_encode rest
    omega
  subst hnil
  rw [List.append_nil] at hrest
  refine ⟨hrest, ?_⟩
  rw [Utf8.asBytes, ← hrest]
  exact hliteral (by simp)

/-- A text without percent signs is read as it stands. -/
lemma readPart_of_notMem {s : String} (h : '%' ∉ s.toList) : readPart strict s.toList = some s := by
  refine readPart_of_isLiteral (isLiteral_of_notMem fun hmem => ?_)
  obtain ⟨c, hc, hb⟩ := List.mem_flatMap.1 hmem
  by_cases hascii : c.toNat < 0x80
  · rw [Utf8.utf8EncodeChar_ascii hascii, List.mem_singleton] at hb
    have hcode : c.toNat = 0x25 := by
      have hnat := congrArg UInt8.toNat hb
      rw [UInt8.toNat_ofNat', Nat.mod_eq_of_lt (by omega)] at hnat
      exact hnat.symm
    rw [show c = '%' from Char.toNat_inj.1 hcode] at hc
    exact h hc
  · -- the other characters have no byte of this size
    exact absurd (Utf8.le_of_mem_utf8EncodeChar (Nat.le_of_not_lt hascii) hb) (by decide)

lemma readParam_append {name value : List Char} (h : '=' ∉ name) :
    readParam strict (name ++ '=' :: value) =
      (readPart strict name).bind fun n => (readPart strict value).bind fun v => some (n, v) := by
  have hname : ∀ c ∈ name, (c != '=') = true := by
    intro c hc
    rw [bne_iff_ne]
    rintro rfl
    exact h hc
  rw [readParam, List.takeWhile_append_of_pos hname, List.takeWhile_cons_of_neg (by simp),
    List.append_nil, Utf8.dropWhile_append_of_all hname, List.dropWhile_cons_of_neg (by simp),
    List.drop_one, List.tail_cons]
  rfl

lemma query_append {pre rest : List Char} (h : '?' ∉ pre) :
    query (String.ofList (pre ++ '?' :: rest)) = rest.takeWhile (· != '#') := by
  have hpre : ∀ c ∈ pre, (c != '?') = true := by
    intro c hc
    rw [bne_iff_ne]
    rintro rfl
    exact h hc
  rw [query, String.toList_ofList, Utf8.dropWhile_append_of_all hpre,
    List.dropWhile_cons_of_neg (by simp), List.drop_one, List.tail_cons]

/-- The first part of a text that is split is what comes before the first separator. -/
lemma exists_splitOn {α : Type*} [BEq α] (a : α) (l : List α) :
    ∃ tail, l.splitOn a = l.takeWhile (fun b => !(b == a)) :: tail := by
  induction l with
  | nil => exact ⟨[], by simp [List.splitOn_eq_splitOnP]⟩
  | cons b l ih =>
      obtain ⟨tail, htail⟩ := ih
      rw [List.splitOn_cons_eq_if_modifyHead, htail, List.takeWhile_cons]
      by_cases hb : (b == a) = true
      · exact ⟨_, by rw [if_pos hb, hb]; rfl⟩
      · rw [if_neg hb, eq_false_of_ne_true hb]
        exact ⟨tail, rfl⟩

end

end Uri

import Mathlib.Data.Fintype.Basic
import Haske.Lib.Utf8

/-!
# Base64

Bytes are encoded three at a time as four symbols of a 64 letter alphabet; a last
group of one or two bytes becomes two or three symbols, padded to four with `=` in
the padded variant.  Decoding is strict: it takes the padding only where the
encoder puts it (and none at all in the unpadded variant), no symbol outside the
alphabet and no group whose unused low bits are not zero.

An alphabet carries what decoding needs of it: its letters are distinct, ASCII, and
none of them is the padding.
-/

namespace Base64

/-- The padding symbol `=`. -/
def padding : UInt8 := 0x3D

structure Alphabet where
  symbol : Fin 64 → UInt8
  injective : Function.Injective symbol
  ascii : ∀ v, symbol v < 0x80
  ne_padding : ∀ v, symbol v ≠ padding

namespace Alphabet

/-- The value of a symbol. -/
def value (A : Alphabet) (b : UInt8) : Option (Fin 64) :=
  (List.finRange 64).find? fun v => A.symbol v = b

@[simp] lemma value_symbol (A : Alphabet) (v : Fin 64) : A.value (A.symbol v) = some v := by
  -- the search finds some letter, and distinct letters have distinct values
  have hsome : (A.value (A.symbol v)).isSome := by
    rw [value, List.find?_isSome]
    exact ⟨v, List.mem_finRange v, by simp⟩
  obtain ⟨w, hw⟩ := Option.isSome_iff_exists.1 hsome
  have hsym : A.symbol w = A.symbol v := by simpa using List.find?_some hw
  rw [hw, A.injective hsym]

end Alphabet

/-- The letters and digits shared by both alphabets, and the two letters in which
they differ. -/
def letters (c62 c63 : UInt8) : List UInt8 :=
  (List.range 26).map (fun i => UInt8.ofNat (0x41 + i)) ++
    (List.range 26).map (fun i => UInt8.ofNat (0x61 + i)) ++
    (List.range 10).map (fun i => UInt8.ofNat (0x30 + i)) ++ [c62, c63]

lemma letters_injective {c62 c63 : UInt8} (h : (letters c62 c63).Nodup) :
    Function.Injective fun v : Fin 64 => (letters c62 c63).getD v 0 := by
  have hlength : (letters c62 c63).length = 64 := by simp [letters]
  intro v w hvw
  have hv : v.1 < (letters c62 c63).length := by omega
  have hw : w.1 < (letters c62 c63).length := by omega
  simp only [List.getD_eq_getElem?_getD, List.getElem?_eq_getElem hv,
    List.getElem?_eq_getElem hw, Option.getD_some] at hvw
  exact Fin.ext (h.getElem_inj_iff.1 hvw)

/-- The standard alphabet, ending in `+` and `/`. -/
def standard : Alphabet where
  symbol v := (letters 0x2B 0x2F).getD v 0
  injective := letters_injective (by decide +kernel)
  ascii := by decide
  ne_padding := by decide

/-- The URL-safe alphabet, ending in `-` and `_`. -/
def urlSafe : Alphabet where
  symbol v := (letters 0x2D 0x5F).getD v 0
  injective := letters_injective (by decide +kernel)
  ascii := by decide
  ne_padding := by decide

/-- The low six bits of a number. -/
def sextet (n : ℕ) : Fin 64 := Fin.ofNat 64 n

/-- The low eight bits of a number. -/
def octet (n : ℕ) : UInt8 := UInt8.ofNat n

section Codec

variable (A : Alphabet) (pad : Bool)

/-- Encode bytes as symbols, with padding if `pad`. -/
def encodeBytes : List UInt8 → List UInt8
  | [] => []
  | [a] =>
      let n := a.toNat * 16
      [A.symbol (sextet (n / 64)), A.symbol (sextet n)] ++ if pad then [padding, padding] else []
  | [a, b] =>
      let n := (a.toNat * 256 + b.toNat) * 4
      [A.symbol (sextet (n / 4096)), A.symbol (sextet (n / 64)), A.symbol (sextet n)] ++
        if pad then [padding] else []
  | a :: b :: c :: rest =>
      let n := a.toNat * 65536 + b.toNat * 256 + c.toNat
      [A.symbol (sextet (n / 262144)), A.symbol (sextet (n / 4096)), A.symbol (sextet (n / 64)),
        A.symbol (sextet n)] ++ encodeBytes rest

/-- A last group of two symbols: one byte, the four unused bits zero. -/
def decodeTwo (w x : UInt8) : Option (List UInt8) := do
  let w ← A.value w
  let x ← A.value x
  let n := w.val * 64 + x.val
  if n % 16 = 0 then some [octet (n / 16)] else none

/-- A last group of three symbols: two bytes, the two unused bits zero. -/
def decodeThree (w x y : UInt8) : Option (List UInt8) := do
  let w ← A.value w
  let x ← A.value x
  let y ← A.value y
  let n := w.val * 4096 + x.val * 64 + y.val
  if n % 4 = 0 then some [octet (n / 1024), octet (n / 4)] else none

/-- A full group of four symbols. -/
def decodeFour (w x y z : UInt8) : Option (List UInt8) := do
  let w ← A.value w
  let x ← A.value x
  let y ← A.value y
  let z ← A.value z
  let n := w.val * 262144 + x.val * 4096 + y.val * 64 + z.val
  some [octet (n / 65536), octet (n / 256), octet n]

/-- Decode symbols to bytes. -/
def decode : List UInt8 → Option (List UInt8)
  | [] => some []
  | [_] => none
  | [w, x] => if pad then none else decodeTwo A w x
  | [w, x, y] => if pad then none else decodeThree A w x y
  | w :: x :: y :: z :: rest =>
      -- padding is looked for in the last group only
      if pad ∧ rest = [] ∧ z = padding then
        if y = padding then decodeTwo A w x else decodeThree A w x y
      else do
        let group ← decodeFour A w x y z
        let tail ← decode rest
        some (group ++ tail)

/-- The encoded text. -/
def encode (bs : List UInt8) : String := Utf8.ofAscii (encodeBytes A pad bs)

/-! ### Round trip -/

variable {A pad}

lemma val_sextet (n : ℕ) : (sextet n).val = n % 64 := rfl

lemma sum_sextets {n : ℕ} (h : n < 16777216) :
    n / 262144 % 64 * 262144 + n / 4096 % 64 * 4096 + n / 64 % 64 * 64 + n % 64 = n := by
  omega

lemma octet_eq {n : ℕ} {b : UInt8} (h : n % 256 = b.toNat) : octet n = b := by
  apply UInt8.toNat_inj.1
  rw [octet, UInt8.toNat_ofNat', h]

lemma decodeTwo_symbols {a : UInt8} {n : ℕ} (hn : a.toNat * 16 = n) :
    decodeTwo A (A.symbol (sextet (n / 64))) (A.symbol (sextet n)) = some [a] := by
  have ha := a.toNat_lt
  have hsum : (sextet (n / 64)).val * 64 + (sextet n).val = n := by
    rw [val_sextet, val_sextet]
    omega
  simp only [decodeTwo, Alphabet.value_symbol, Option.bind_eq_bind, Option.bind_some]
  rw [hsum, if_pos (by omega), octet_eq (b := a) (by omega)]

lemma decodeThree_symbols {a b : UInt8} {n : ℕ} (hn : (a.toNat * 256 + b.toNat) * 4 = n) :
    decodeThree A (A.symbol (sextet (n / 4096))) (A.symbol (sextet (n / 64)))
      (A.symbol (sextet n)) = some [a, b] := by
  have ha := a.toNat_lt
  have hb := b.toNat_lt
  have hsum : (sextet (n / 4096)).val * 4096 + (sextet (n / 64)).val * 64 + (sextet n).val = n := by
    rw [val_sextet, val_sextet, val_sextet]
    omega
  simp only [decodeThree, Alphabet.value_symbol, Option.bind_eq_bind, Option.bind_some]
  rw [hsum, if_pos (by omega), octet_eq (b := a) (by omega), octet_eq (b := b) (by omega)]

lemma decodeFour_symbols {a b c : UInt8} {n : ℕ}
    (hn : a.toNat * 65536 + b.toNat * 256 + c.toNat = n) :
    decodeFour A (A.symbol (sextet (n / 262144))) (A.symbol (sextet (n / 4096)))
      (A.symbol (sextet (n / 64))) (A.symbol (sextet n)) = some [a, b, c] := by
  have ha := a.toNat_lt
  have hb := b.toNat_lt
  have hc := c.toNat_lt
  have hsum : (sextet (n / 262144)).val * 262144 + (sextet (n / 4096)).val * 4096 +
      (sextet (n / 64)).val * 64 + (sextet n).val = n := by
    rw [val_sextet, val_sextet, val_sextet, val_sextet]
    exact sum_sextets (by omega)
  simp only [decodeFour, Alphabet.value_symbol, Option.bind_eq_bind, Option.bind_some]
  rw [hsum, octet_eq (b := a) (by omega), octet_eq (b := b) (by omega),
    octet_eq (b := c) (by omega)]

/-- Decoding undoes encoding. -/
theorem decode_encodeBytes (bs : List UInt8) : decode A pad (encodeBytes A pad bs) = some bs := by
  induction bs using encodeBytes.induct with
  | case1 => rfl
  | case2 a =>
      have htwo := decodeTwo_symbols (A := A) (a := a) rfl
      cases pad with
      | false => simpa [encodeBytes, decode] using htwo
      | true => simpa [encodeBytes, decode] using htwo
  | case3 a b =>
      have hthree := decodeThree_symbols (A := A) (a := a) (b := b) rfl
      cases pad with
      | false => simpa [encodeBytes, decode] using hthree
      | true => simpa [encodeBytes, decode, A.ne_padding] using hthree
  | case4 a b c rest ih =>
      have hfour := decodeFour_symbols (A := A) (a := a) (b := b) (c := c) rfl
      simp only [encodeBytes, List.cons_append, List.nil_append, decode]
      rw [if_neg (by simp [A.ne_padding]), hfour, ih]
      rfl

/-- The symbols of an encoding are letters of the alphabet or, in the padded
variant, the padding. -/
lemma mem_encodeBytes {bs : List UInt8} {b : UInt8} (h : b ∈ encodeBytes A pad bs) :
    (∃ v, b = A.symbol v) ∨ (pad = true ∧ b = padding) := by
  induction bs using encodeBytes.induct with
  | case1 => simp [encodeBytes] at h
  | case2 a => cases pad <;> simp [encodeBytes] at h <;> grind
  | case3 a b => cases pad <;> simp [encodeBytes] at h <;> grind
  | case4 a b c rest ih => simp [encodeBytes] at h; grind

lemma encodeBytes_ascii {bs : List UInt8} : ∀ b ∈ encodeBytes A pad bs, b < 0x80 := by
  intro b hb
  rcases mem_encodeBytes hb with ⟨v, rfl⟩ | ⟨-, rfl⟩
  · exact A.ascii v
  · decide

@[simp] lemma asBytes_encode (bs : List UInt8) :
    Utf8.asBytes (encode A pad bs) = encodeBytes A pad bs :=
  Utf8.asBytes_ofAscii encodeBytes_ascii

/-- Decoding undoes encoding, on the text. -/
theorem decode_encode (bs : List UInt8) :
    decode A pad (Utf8.asBytes (encode A pad bs)) = some bs := by
  rw [asBytes_encode, decode_encodeBytes]

/-- The first symbol of an encoding carries the high six bits of the first byte. -/
lemma head?_encodeBytes (a : UInt8) (bs : List UInt8) :
    (encodeBytes A pad (a :: bs)).head? = some (A.symbol (sextet (a.toNat / 4))) := by
  have ha := a.toNat_lt
  -- whatever is shifted in from the right, the first symbol drops it again
  have hhead : ∀ n, n % 64 = a.toNat / 4 → sextet n = sextet (a.toNat / 4) := by
    intro n hn
    apply Fin.ext
    rw [val_sextet, val_sextet]
    omega
  match bs with
  | [] =>
      rw [encodeBytes, hhead (a.toNat * 16 / 64) (by omega)]
      rfl
  | [b] =>
      have hb := b.toNat_lt
      rw [encodeBytes, hhead ((a.toNat * 256 + b.toNat) * 4 / 4096) (by omega)]
      rfl
  | b :: c :: rest =>
      have hb := b.toNat_lt
      have hc := c.toNat_lt
      rw [encodeBytes, hhead ((a.toNat * 65536 + b.toNat * 256 + c.toNat) / 262144) (by omega)]
      rfl

/-- With padding, every three bytes become four symbols, and so does what is left. -/
lemma length_encodeBytes (bs : List UInt8) :
    (encodeBytes A true bs).length = 4 * ((bs.length + 2) / 3) := by
  induction bs using encodeBytes.induct with
  | case1 => rfl
  | case2 a => simp [encodeBytes]
  | case3 a b => simp [encodeBytes]
  | case4 a b c rest ih =>
      rw [encodeBytes, List.length_append, ih]
      simp only [List.length_cons, List.length_nil]
      omega

/-! ### Symbols outside the alphabet -/

lemma decodeTwo_eq_some {w x : UInt8} {out : List UInt8} (h : decodeTwo A w x = some out) :
    (A.value w).isSome ∧ (A.value x).isSome := by
  simp only [decodeTwo, Option.bind_eq_bind, Option.bind_eq_some_iff] at h
  obtain ⟨v, hv, u, hu, -⟩ := h
  simp [hv, hu]

lemma decodeThree_eq_some {w x y : UInt8} {out : List UInt8} (h : decodeThree A w x y = some out) :
    (A.value w).isSome ∧ (A.value x).isSome ∧ (A.value y).isSome := by
  simp only [decodeThree, Option.bind_eq_bind, Option.bind_eq_some_iff] at h
  obtain ⟨v, hv, u, hu, t, ht, -⟩ := h
  simp [hv, hu, ht]

lemma decodeFour_eq_some {w x y z : UInt8} {out : List UInt8}
    (h : decodeFour A w x y z = some out) :
    (A.value w).isSome ∧ (A.value x).isSome ∧ (A.value y).isSome ∧ (A.value z).isSome := by
  simp only [decodeFour, Option.bind_eq_bind, Option.bind_eq_some_iff] at h
  obtain ⟨v, hv, u, hu, t, ht, r, hr, -⟩ := h
  simp [hv, hu, ht, hr]

/-- The first symbol of a text that decodes is a letter of the alphabet. -/
theorem head_of_decode_eq_some {w : UInt8} {rest out : List UInt8}
    (h : decode A pad (w :: rest) = some out) : (A.value w).isSome := by
  match rest, h with
  | [], h => simp [decode] at h
  | [x], h =>
      rw [decode] at h
      split at h
      · exact absurd h (by simp)
      · exact (decodeTwo_eq_some h).1
  | [x, y], h =>
      rw [decode] at h
      split at h
      · exact absurd h (by simp)
      · exact (decodeThree_eq_some h).1
  | x :: y :: z :: rest, h =>
      rw [decode] at h
      split at h
      · split at h
        · exact (decodeTwo_eq_some h).1
        · exact (decodeThree_eq_some h).1
      · simp only [Option.bind_eq_bind, Option.bind_eq_some_iff] at h
        obtain ⟨group, hgroup, -⟩ := h
        exact (decodeFour_eq_some hgroup).1

end Codec

/-- Two bytes, one group, in both variants. -/
example : encode standard true [0x4D, 0x61] = "TWE=" ∧
    encode urlSafe false [0xFB, 0xFF] = "-_8" := by
  decide

end Base64

import Mathlib.Algebra.Group.Nat.Defs
import Haske.Lib.Utf8

/-!
# Decimal numerals with a bounded fraction

Numerals of amounts that are whole multiples of `10^-k`: digits, and possibly a point
with at most `k` digits after it.  One amount has many numerals (`10`, `010`, `10.0`);
its canonical one, `render k n`, has no superfluous leading zero and exactly `k`
fractional digits.  Reading the canonical numeral gives the amount back
(`value?_render`).
-/

namespace Decimal

/-- The number written by a nonempty list of digits. -/
def digits? (cs : List Char) : Option ℕ :=
  if cs ≠ [] ∧ cs.all Char.isDigit = true then some (Nat.ofDigitChars 10 cs 0) else none

variable (k : ℕ)

/-- The amount written by a numeral with at most `k` fractional digits, in units of
`10^-k`. -/
def value? (s : String) : Option ℕ :=
  match Utf8.splitn2 s '.' with
  | (whole, none) => (digits? whole.toList).map fun w => w * 10 ^ k
  | (whole, some frac) =>
      if frac.toList.length ≤ k then do
        let w ← digits? whole.toList
        let f ← digits? frac.toList
        some (w * 10 ^ k + f * 10 ^ (k - frac.toList.length))
      else none

/-- A number below `10^k` with leading zeros up to `k` digits. -/
def padded (n : ℕ) : List Char :=
  List.replicate (k - (Nat.toDigits 10 n).length) '0' ++ Nat.toDigits 10 n

/-- The canonical numeral. -/
def render (n : ℕ) : String :=
  String.ofList (Nat.toDigits 10 (n / 10 ^ k) ++ '.' :: padded k (n % 10 ^ k))

/-- Ten and a hundredth, in three spellings. -/
example : render 7 100100000 = "10.0100000" ∧ value? 7 "010.01" = some 100100000 ∧
    value? 7 "10.01000" = some 100100000 := by
  decide +kernel

lemma isDigit_toDigits {n : ℕ} {c : Char} (h : c ∈ Nat.toDigits 10 n) : c.isDigit = true :=
  Nat.isDigit_of_mem_toDigits (by decide) (by decide) h

lemma digits?_toDigits (n : ℕ) : digits? (Nat.toDigits 10 n) = some n := by
  have hdigits : (Nat.toDigits 10 n).all Char.isDigit = true :=
    List.all_eq_true.2 fun _ h => isDigit_toDigits h
  rw [digits?, if_pos ⟨Nat.toDigits_ne_nil, hdigits⟩, Nat.ofDigitChars_ten_toDigits]

variable {k}

lemma length_padded (hk : 0 < k) {n : ℕ} (hn : n < 10 ^ k) : (padded k n).length = k := by
  have hlen := (Nat.length_toDigits_le_iff (b := 10) (by decide) hk).2 hn
  rw [padded, List.length_append, List.length_replicate]
  omega

lemma digits?_padded (n : ℕ) : digits? (padded k n) = some n := by
  have hne : padded k n ≠ [] := by simp [padded]
  have hdigits : (padded k n).all Char.isDigit = true := by
    rw [List.all_eq_true]
    intro c hc
    rcases List.mem_append.1 hc with hzero | hdigit
    · rw [List.eq_of_mem_replicate hzero]
      decide
    · exact isDigit_toDigits hdigit
  rw [digits?, if_pos ⟨hne, hdigits⟩, padded, Nat.ofDigitChars_append,
    Nat.ofDigitChars_replicate_zero, Nat.mul_zero, Nat.ofDigitChars_ten_toDigits]

/-- Reading the canonical numeral of an amount gives the amount. -/
theorem value?_render (hk : 0 < k) (n : ℕ) : value? k (render k n) = some n := by
  have hpoint : '.' ∉ Nat.toDigits 10 (n / 10 ^ k) := by
    intro h
    exact absurd (isDigit_toDigits h) (by decide)
  have hlen := length_padded hk (Nat.mod_lt n (Nat.pow_pos (by decide : 0 < 10)))
  rw [value?, render, Utf8.splitn2_append hpoint]
  simp only [String.toList_ofList, hlen, Nat.le_refl, if_true, digits?_toDigits, digits?_padded,
    Option.bind_eq_bind, Option.bind_some, Nat.sub_self, Nat.pow_zero, Nat.mul_one]
  rw [Nat.div_add_mod']

end Decimal

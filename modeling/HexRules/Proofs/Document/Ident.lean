import HexRules.Ident
import Mathlib.Tactic

/-!
# The text of an identifier

The text that is written of an identifier is read as this identifier. It has hyphens in it, so it is
not taken for bare digits; and it begins with a digit, and so neither with a brace nor with a
prefix.

Results:
* `readDigits_hexDigits`: digits of a number are read as the number.
* `unhyphenate_hyphenate`: hyphens are taken out where they were put in.
* `parse?_text`: the text of an identifier is read as the identifier.
-/

namespace HexRules

namespace Text

theorem hexDigit?_hexDigit {n : ℕ} (h : n < 16) : hexDigit? (hexDigit n) = some n := by
  interval_cases n <;> rfl

theorem length_hexDigits (width n : ℕ) : (hexDigits width n).length = width := by
  induction width generalizing n with
  | zero => rfl
  | succ width ih => rw [hexDigits, List.length_append, ih, List.length_singleton]

end Text

namespace Ident

theorem readDigits_append (value : ℕ) (cs cs' : List Char) :
    readDigits value (cs ++ cs') = (readDigits value cs).bind fun v => readDigits v cs' := by
  induction cs generalizing value with
  | nil => rfl
  | cons c rest ih =>
    rw [List.cons_append, readDigits, readDigits]
    cases Text.hexDigit? c with
    | none => rfl
    | some d => exact ih (16 * value + d)

theorem readDigits_hexDigits (value width n : ℕ) (h : n < 16 ^ width) :
    readDigits value (Text.hexDigits width n) = some (value * 16 ^ width + n) := by
  induction width generalizing n with
  | zero =>
    have hn : n = 0 := by simpa using h
    simp [Text.hexDigits, readDigits, hn]
  | succ width ih =>
    have hdiv : n / 16 < 16 ^ width := by
      rw [pow_succ] at h
      omega
    rw [Text.hexDigits, readDigits_append, ih _ hdiv, Option.bind_some, readDigits,
      Text.hexDigit?_hexDigit (Nat.mod_lt n (by decide))]
    have hvalue : 16 * (value * 16 ^ width + n / 16) + n % 16 = value * 16 ^ (width + 1) + n := by
      rw [pow_succ, ← mul_assoc, mul_add, ← mul_comm (value * 16 ^ width) 16, add_assoc,
        Nat.div_add_mod]
    exact congrArg some hvalue

theorem unhyphenate_hyphenate {sizes : List ℕ} (hsizes : sizes ≠ []) {cs : List Char}
    (h : cs.length = sizes.sum) : unhyphenate sizes (hyphenate sizes cs) = some cs := by
  induction sizes generalizing cs with
  | nil => exact absurd rfl hsizes
  | cons size rest ih =>
    cases rest with
    | nil =>
      have hlength : cs.length = size := by simpa using h
      simp [hyphenate, unhyphenate, ← hlength]
    | cons next more =>
      have hsum : size ≤ cs.length := by
        rw [h, List.sum_cons]
        omega
      have hrest : (cs.drop size).length = (next :: more).sum := by
        rw [List.length_drop, h, List.sum_cons]
        omega
      have htake : (cs.take size).length = size := by
        rw [List.length_take]
        omega
      have hdrop : (cs.take size ++ '-' :: hyphenate (next :: more) (cs.drop size)).drop size =
          '-' :: hyphenate (next :: more) (cs.drop size) := by
        rw [List.drop_append_of_le_length htake.ge, List.drop_of_length_le htake.le,
          List.nil_append]
      have hfirst : (cs.take size ++ '-' :: hyphenate (next :: more) (cs.drop size)).take size =
          cs.take size := by
        rw [List.take_append_of_le_length htake.ge, List.take_of_length_le htake.le]
      rw [hyphenate, unhyphenate, hdrop, hfirst]
      · show (unhyphenate (next :: more) (hyphenate (next :: more) (cs.drop size))).map _ = _
        rw [ih (List.cons_ne_nil _ _) hrest, Option.map_some, List.take_append_drop]
      all_goals exact List.cons_ne_nil _ _

theorem exists_hexDigits_eq_cons (width n : ℕ) :
    ∃ d < 16, ∃ rest, Text.hexDigits (width + 1) n = Text.hexDigit d :: rest := by
  induction width generalizing n with
  | zero => exact ⟨n % 16, Nat.mod_lt n (by decide), [], rfl⟩
  | succ width ih =>
    obtain ⟨d, hd, rest, hrest⟩ := ih (n / 16)
    exact ⟨d, hd, rest ++ [Text.hexDigit (n % 16)], by rw [Text.hexDigits, hrest]; rfl⟩

/-- Nothing stands before the digits of what is written. -/
theorem unwrap_write (id : Ident) : unwrap id.write = id.write := by
  obtain ⟨d, hd, rest, hdigits⟩ := exists_hexDigits_eq_cons 31 id.value.toNat
  rw [write, hdigits]
  interval_cases d <;> rfl

theorem length_write (id : Ident) : id.write.length = 36 := by
  simp [write, groups, hyphenate, Text.length_hexDigits]

/-- The text of an identifier is read as the identifier. -/
theorem parse?_text (id : Ident) : parse? id.text = some id := by
  have hdigits : (Text.hexDigits 32 id.value.toNat).length = groups.sum := Text.length_hexDigits _ _
  have hsmall : id.value.toNat < 16 ^ 32 := id.value.isLt
  rw [parse?, text, String.toList_ofList, read?, length_write, if_neg (by decide), unwrap_write,
    write, unhyphenate_hyphenate (by decide) hdigits, Option.bind_some,
    readDigits_hexDigits 0 32 _ hsmall]
  simp

end Ident

end HexRules

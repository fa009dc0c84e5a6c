import HexRules.Proofs.Grid.Distance
import HexRules.Proofs.Text.Numeral

/-!
# Keys of hexes

A key is made of two integers. There is one spelling for each integer, made of digits and, in front,
a minus; so the first comma of a key is where the first coordinate ends, and no two hexes have one
key.

A key is read if it has just one comma, with a literal on either side. Many keys are read as one
hex, therefore, but the one that is printed of this hex is among them. Only a literal of more than
`maxDigits` digits is refused, even if all but the last of them are zeros; and a number that needs
that many is not printed.

Results:
* `takeWhile_writeKey`, `dropWhile_writeKey`: the parts of a key.
* `key_injective`: no two hexes have one key.
* `readKey_of_notMem`, `readKey_of_one`, `readKey_of_many`: how a key is read by its commas.
* `key?_eq_some_iff`: which hexes have a key to print.
* `Grid.forall_hasKey_iff`: on which maps all hexes have a key.
* `ofKey_exact`: which keys are read as a hex, the one that is printed of it among them.
-/

namespace HexRules.Hex

open Text.Numeral

variable {p : Hex} {cs q r : List Char} {n : ℤ}

/-! ## Printed keys -/

theorem comma_notMem_write (n : ℤ) : ',' ∉ write n := fun h => by
  rcases mem_write h with hminus | hdigit
  · exact absurd hminus (by decide)
  · exact absurd hdigit (by decide)

theorem ne_comma_of_mem_write {n : ℤ} {c : Char} (h : c ∈ write n) : (c != ',') = true := by
  rw [bne_iff_ne]
  rintro rfl
  exact comma_notMem_write n h

theorem takeWhile_writeKey (p : Hex) : p.writeKey.takeWhile (· != ',') = write p.q := by
  rw [writeKey, List.takeWhile_append_of_pos fun c => ne_comma_of_mem_write,
    List.takeWhile_cons_of_neg (by decide), List.append_nil]

theorem dropWhile_writeKey (p : Hex) : p.writeKey.dropWhile (· != ',') = ',' :: write p.r := by
  rw [writeKey, List.dropWhile_append_of_pos fun c => ne_comma_of_mem_write,
    List.dropWhile_cons_of_neg (by decide)]

theorem writeKey_injective : Function.Injective writeKey := by
  intro a b h
  have hq : write a.q = write b.q := by rw [← takeWhile_writeKey, h, takeWhile_writeKey]
  have hr : ',' :: write a.r = ',' :: write b.r := by
    rw [← dropWhile_writeKey, h, dropWhile_writeKey]
  exact (Hex.mk.injEq ..).mpr ⟨write_injective hq, write_injective (List.cons.inj hr).2⟩

theorem key_injective : Function.Injective key := fun _ _ h =>
  writeKey_injective (String.ofList_injective h)

/-! ## Parts of a key -/

theorem splitCommas_of_notMem (h : ',' ∉ cs) : splitCommas cs = [cs] := by
  induction cs with
  | nil => rfl
  | cons c cs ih =>
    rw [List.mem_cons, not_or] at h
    rw [splitCommas, if_neg (Ne.symm h.1), ih h.2]

theorem splitCommas_append (h : ',' ∉ q) (r : List Char) :
    splitCommas (q ++ ',' :: r) = q :: splitCommas r := by
  induction q with
  | nil => rfl
  | cons c q ih =>
    rw [List.mem_cons, not_or] at h
    rw [List.cons_append, splitCommas, if_neg (Ne.symm h.1), ih h.2]

theorem splitCommas_ne_nil (cs : List Char) : splitCommas cs ≠ [] := by
  by_cases h : ',' ∈ cs
  · obtain ⟨q, r, rfl, hq⟩ := List.eq_append_cons_of_mem h
    rw [splitCommas_append hq]
    exact List.cons_ne_nil _ _
  · rw [splitCommas_of_notMem h]
    exact List.cons_ne_nil _ _

theorem readKey_of_notMem (h : ',' ∉ cs) : readKey cs = .error .noComma := by
  rw [readKey, splitCommas_of_notMem h]

/-- With one comma, the first coordinate is read first. -/
theorem readKey_of_one (hq : ',' ∉ q) (hr : ',' ∉ r) :
    readKey (q ++ ',' :: r) =
      (readCoordinate q >>= fun q => readCoordinate r >>= fun r => .ok ⟨q, r⟩) := by
  rw [readKey, splitCommas_append hq, splitCommas_of_notMem hr]
  rfl

theorem readKey_of_many (hq : ',' ∉ q) (hr : ',' ∈ r) :
    readKey (q ++ ',' :: r) = .error .manyCommas := by
  obtain ⟨mid, rest, rfl, hmid⟩ := List.eq_append_cons_of_mem hr
  obtain ⟨part, parts, hparts⟩ := List.exists_cons_of_ne_nil (splitCommas_ne_nil rest)
  rw [readKey, splitCommas_append hq, splitCommas_append hmid, hparts]

theorem readCoordinate_eq_ok_iff : readCoordinate cs = .ok n ↔ read cs = .ok n := by
  unfold readCoordinate
  split <;> simp_all

/-- A key is read if it has just one comma, and an integer on either side. -/
theorem readKey_eq_ok_iff :
    readKey cs = .ok p ↔
      ∃ q r, cs = q ++ ',' :: r ∧ ',' ∉ q ∧ ',' ∉ r ∧ read q = .ok p.q ∧ read r = .ok p.r := by
  constructor
  · intro h
    by_cases hcomma : ',' ∈ cs
    · obtain ⟨q, r, rfl, hq⟩ := List.eq_append_cons_of_mem hcomma
      by_cases hr : ',' ∈ r
      · rw [readKey_of_many hq hr] at h
        cases h
      · rw [readKey_of_one hq hr] at h
        obtain ⟨m, hm, h⟩ := Outcome.bind_eq_ok_iff.1 h
        obtain ⟨n, hn, h⟩ := Outcome.bind_eq_ok_iff.1 h
        obtain rfl := Except.ok.inj h
        exact ⟨q, r, rfl, hq, hr, readCoordinate_eq_ok_iff.1 hm, readCoordinate_eq_ok_iff.1 hn⟩
    · rw [readKey_of_notMem hcomma] at h
      cases h
  · rintro ⟨q, r, rfl, hq, hr, hm, hn⟩
    rw [readKey_of_one hq hr, readCoordinate_eq_ok_iff.2 hm, readCoordinate_eq_ok_iff.2 hn]
    rfl

/-! ## Reading what was printed -/

theorem key?_eq_some_iff {k : String} :
    key? p = some k ↔ (isShort p.q = true ∧ isShort p.r = true) ∧ p.key = k := by
  rw [key?, Option.ite_none_right_eq_some, Option.some_inj]

theorem ofKey_key (hq : isShort p.q = true) (hr : isShort p.r = true) : ofKey p.key = .ok p := by
  rw [ofKey, key, String.toList_ofList, readKey_eq_ok_iff]
  refine ⟨write p.q, write p.r, rfl, comma_notMem_write _, comma_notMem_write _, ?_, ?_⟩
  · rw [read_write, if_pos hq]
  · rw [read_write, if_pos hr]

theorem isShort_of_ofKey {k : String} (h : ofKey k = .ok p) :
    isShort p.q = true ∧ isShort p.r = true := by
  obtain ⟨_, _, -, -, -, hq, hr⟩ := readKey_eq_ok_iff.1 h
  exact ⟨isShort_of_read hq, isShort_of_read hr⟩

/-- A hex has a key to print exactly if both coordinates are short. This key is read as the hex, and
    no other hex has it. A text is read as a hex if it has just one comma, with literals of its
    coordinates on either side, neither of too many digits; and then the hex has a key to print. -/
theorem ofKey_exact (p : Hex) (k : String) :
    ((key? p).isSome = true ↔ isShort p.q = true ∧ isShort p.r = true) ∧
      (key? p = some k → ofKey k = .ok p ∧ ∀ other, key? other = some k → other = p) ∧
      Function.Injective key ∧
      (ofKey k = .ok p ↔
        ∃ q r, k.toList = q ++ ',' :: r ∧ ',' ∉ q ∧ ',' ∉ r ∧
          (∃ ds, Literal q ds p.q ∧ ds.length ≤ maxDigits) ∧
            ∃ ds, Literal r ds p.r ∧ ds.length ≤ maxDigits) ∧
      (ofKey k = .ok p → ∃ printed, key? p = some printed ∧ ofKey printed = .ok p) := by
  refine ⟨?_, ?_, key_injective, ?_, ?_⟩
  · rw [Option.isSome_iff_exists]
    simp only [key?_eq_some_iff, exists_and_left, exists_eq', and_true]
  · intro h
    obtain ⟨⟨hq, hr⟩, rfl⟩ := key?_eq_some_iff.1 h
    exact ⟨ofKey_key hq hr, fun other hother => key_injective (key?_eq_some_iff.1 hother).2⟩
  · rw [ofKey, readKey_eq_ok_iff]
    simp only [read_eq_ok_iff]
  · intro h
    obtain ⟨hq, hr⟩ := isShort_of_ofKey h
    exact ⟨p.key, key?_eq_some_iff.2 ⟨⟨hq, hr⟩, rfl⟩, ofKey_key hq hr⟩

/-- A key in digits of two scripts, with spaces, a sign and an underscore, and the one that is
    printed of the same hex. -/
theorem ofKey_exact_arabic :
    ofKey "٣,\t+1_0 " = .ok ⟨3, 10⟩ ∧ key? ⟨3, 10⟩ = some "3,10" ∧ ofKey "3,10" = .ok ⟨3, 10⟩ ∧
      ∃ printed, key? ⟨3, 10⟩ = some printed ∧ ofKey printed = .ok ⟨3, 10⟩ := by
  have hread : ofKey "٣,\t+1_0 " = .ok ⟨3, 10⟩ := by decide
  have hprinted : key? ⟨3, 10⟩ = some "3,10" := by decide
  obtain ⟨-, hback, -⟩ := ofKey_exact ⟨3, 10⟩ "3,10"
  obtain ⟨-, -, -, -, hagain⟩ := ofKey_exact ⟨3, 10⟩ "٣,\t+1_0 "
  exact ⟨hread, hprinted, (hback hprinted).1, hagain hread⟩

/-! ## Too many digits -/

/-- The number one, with so many zeros in front that it has one digit too many. -/
def overlong : List Char := List.replicate maxDigits '0' ++ ['1']

theorem literal_overlong : Literal overlong (List.replicate maxDigits 0 ++ [1]) 1 := by
  have hall : ∀ c ∈ overlong, c.isDigit = true := by
    intro c hc
    rcases List.mem_append.1 hc with hzero | hone
    · rw [List.eq_of_mem_replicate hzero]
      decide
    · rw [List.mem_singleton.1 hone]
      decide
  have hne : overlong ≠ [] := List.append_ne_nil_of_right_ne_nil _ (List.cons_ne_nil _ _)
  have hliteral := Literal.of_sign .none (spells_of_isDigit hne hall)
  have hdigits :
      overlong.map (fun c => c.toNat - '0'.toNat) = List.replicate maxDigits 0 ++ [1] := by
    rw [overlong, List.map_append, List.map_replicate]
    rfl
  have hzero : valueOf (List.replicate maxDigits 0) = 0 := by
    rw [valueOf_eq_ofDigits, List.reverse_replicate, Nat.ofDigits_replicate_zero]
  rwa [List.nil_append, hdigits, valueOf_append_singleton, hzero] at hliteral

theorem read_overlong : read overlong = .error (.tooLong (maxDigits + 1)) := by
  have hlength : (List.replicate maxDigits 0 ++ [1]).length = maxDigits + 1 := by
    rw [List.length_append, List.length_replicate, List.length_singleton]
  rw [read_of_literal literal_overlong, hlength, if_pos (Nat.lt_succ_self _)]

theorem comma_notMem_overlong : ',' ∉ overlong := by
  intro h
  rcases List.mem_append.1 h with hzero | hone
  · exact absurd (List.eq_of_mem_replicate hzero) (by decide)
  · exact absurd (List.mem_singleton.1 hone) (by decide)

theorem key?_pow : key? ⟨10 ^ maxDigits, 0⟩ = none := by
  have hlong : ¬isShort (10 ^ maxDigits) = true := by
    rw [isShort_iff, Int.natAbs_pow, show (10 : ℤ).natAbs = 10 from rfl]
    exact lt_irrefl _
  exact if_neg fun hshort => hlong hshort.1

/-- Two literals with a comma between them may be refused, and a hex may have no key to print. -/
theorem exists_literal_refused :
    Literal overlong (List.replicate maxDigits 0 ++ [1]) 1 ∧ Literal ['0'] [0] 0 ∧
      ofKey (String.ofList (overlong ++ ',' :: ['0'])) = .error (.tooLong (maxDigits + 1)) ∧
      key? ⟨10 ^ maxDigits, 0⟩ = none := by
  have hzero : Literal ['0'] [0] 0 := Literal.of_sign .none (.intro (by decide) .nil)
  refine ⟨literal_overlong, hzero, ?_, key?_pow⟩
  rw [ofKey, String.toList_ofList, readKey_of_one comma_notMem_overlong (by decide),
    readCoordinate, read_overlong]
  rfl

end HexRules.Hex

namespace HexRules.Grid

open Text.Numeral

variable {p : Hex} {radius : ℤ}

/-! ## Keys on a map -/

theorem hasKey_of_inBounds (hr : isShort radius = true) (hp : inBounds p radius = true) :
    p.hasKey = true := by
  obtain ⟨hq, hr', -⟩ := inBounds_iff.1 hp
  exact Hex.hasKey_iff.2
    ⟨isShort_of_abs_le (abs_le.2 hq) hr, isShort_of_abs_le (abs_le.2 hr') hr⟩

/-- On a map with hexes, the one farthest to the east has a key only if all have. -/
theorem forall_hasKey_iff :
    (∀ p, inBounds p radius = true → p.hasKey = true) ↔ radius < 0 ∨ isShort radius = true := by
  constructor
  · intro h
    by_cases hr : radius < 0
    · exact .inl hr
    · have heast : inBounds ⟨radius, 0⟩ radius = true := by
        rw [inBounds_iff]
        dsimp only
        omega
      exact .inr (Hex.hasKey_iff.1 (h _ heast)).1
  · rintro (hr | hr) p hp
    · have := inBounds_iff.1 hp
      omega
    · exact hasKey_of_inBounds hr hp

end HexRules.Grid

import HexRules.Text.Numeral
import HexRules.Proofs.Outcome
import Mathlib.Data.List.TakeWhile
import Mathlib.Tactic

/-!
# Numerals

There is one spelling that is printed of each integer. Many more are read: a literal has digits of
any script, single underscores between them, a sign or none in front, and spaces around. `Literal`
says so without the reader, and tells which digits a literal has and which integer it stands for.

The reader takes exactly the literals of no more than `maxDigits` digits, leading zeros included,
and refuses a longer one for its length. What it takes stands for an integer that has no more digits
than the literal, so that the printed spelling of this integer is taken too.

Results:
* `write_injective`: no two integers are printed alike.
* `read_of_literal`: how the reader answers to a literal.
* `read_eq_ok_iff`: the reader takes the short literals and nothing else.
* `literal_write`: what is printed of an integer is a literal that stands for it.
* `read_write`: what is printed of an integer is read as the integer, if it is short.
* `isShort_of_read`: what is read is short.
-/

namespace HexRules.Text

variable {c : Char} {d : ℕ}

/-! ## Digits of any script -/

theorem digit?_lt (h : digit? c = some d) : d < 10 := by
  obtain ⟨start, -, hstart⟩ := List.exists_of_findSome?_eq_some h
  split_ifs at hstart with hrange
  rw [Option.some.injEq] at hstart
  omega

theorem digit?_of_isDigit (h : c.isDigit = true) : digit? c = some (c.toNat - '0'.toNat) := by
  have hrange : 0x30 ≤ c.toNat ∧ c.toNat < 0x30 + 10 := by
    obtain ⟨hlo, hhi⟩ := Char.isDigit_iff_toNat.1 h
    exact ⟨hlo, Nat.lt_succ_of_le hhi⟩
  rw [digit?, zeros, List.findSome?_cons, if_pos hrange]
  rfl

theorem digit?_of_isSpace (h : isSpace c = true) : digit? c = none := by
  simp only [isSpace, Bool.or_eq_true, Bool.and_eq_true, decide_eq_true_eq, beq_iff_eq] at h
  unfold digit?
  generalize c.toNat = n at h ⊢
  have hcode : n ∈ [0x09, 0x0a, 0x0b, 0x0c, 0x0d, 0x20, 0x85, 0xa0, 0x1680, 0x2000, 0x2001, 0x2002,
      0x2003, 0x2004, 0x2005, 0x2006, 0x2007, 0x2008, 0x2009, 0x200a, 0x2028, 0x2029, 0x202f,
      0x205f, 0x3000] := by
    simp only [List.mem_cons, List.not_mem_nil, or_false]
    omega
  clear h
  revert n
  decide

theorem isSpace_eq_false_of_digit? (h : digit? c = some d) : isSpace c = false := by
  rw [Bool.eq_false_iff]
  intro hspace
  rw [digit?_of_isSpace hspace] at h
  cases h

theorem ne_of_digit? {other : Char} (h : digit? c = some d) (hother : digit? other = none) :
    c ≠ other := by
  rintro rfl
  rw [hother] at h
  cases h

theorem ne_underscore_of_digit? (h : digit? c = some d) : c ≠ '_' := ne_of_digit? h (by decide)

/-! ## Ends of a text -/

section Trim

variable {drop : Char → Bool} {before mid after : List Char}

theorem exists_trim (drop : Char → Bool) (cs : List Char) :
    ∃ before after, cs = before ++ trim drop cs ++ after ∧
      ∀ c ∈ before ++ after, drop c = true := by
  have hsplit := List.takeWhile_append_dropWhile (p := drop) (l := cs)
  have hends := List.takeWhile_append_dropWhile (p := drop) (l := (cs.dropWhile drop).reverse)
  refine ⟨cs.takeWhile drop, ((cs.dropWhile drop).reverse.takeWhile drop).reverse, ?_, ?_⟩
  · rw [trim, List.append_assoc, ← List.reverse_append, hends, List.reverse_reverse, hsplit]
  · intro c hc
    rw [List.mem_append, List.mem_reverse] at hc
    exact hc.elim List.mem_takeWhile_imp List.mem_takeWhile_imp

theorem dropWhile_eq_self_of_head? {cs : List Char} (hfirst : cs.head? = some c)
    (h : drop c = false) : cs.dropWhile drop = cs := by
  obtain ⟨rest, rfl⟩ := List.head?_eq_some_iff.1 hfirst
  exact List.dropWhile_cons_of_neg (by rw [h]; exact Bool.false_ne_true)

theorem trim_append {last : Char} (hdrop : ∀ c ∈ before ++ after, drop c = true)
    (hfirst : mid.head? = some c) (hc : drop c = false) (hlast : mid.getLast? = some last)
    (hl : drop last = false) : trim drop (before ++ mid ++ after) = mid := by
  have hfront : (before ++ mid ++ after).dropWhile drop = mid ++ after := by
    rw [List.append_assoc,
      List.dropWhile_append_of_pos fun c hc => hdrop c (List.mem_append_left _ hc)]
    exact dropWhile_eq_self_of_head? (by rw [List.head?_append, hfirst]; rfl) hc
  have hback : (mid ++ after).reverse.dropWhile drop = mid.reverse := by
    rw [List.reverse_append, List.dropWhile_append_of_pos fun c hc =>
      hdrop c (List.mem_append_right _ (List.mem_reverse.1 hc))]
    exact dropWhile_eq_self_of_head? (by rw [List.head?_reverse, hlast]) hl
  rw [trim, hfront, hback, List.reverse_reverse]

end Trim

namespace Numeral

variable {cs body sign : List Char} {ds : List ℕ} {n : ℤ} {negative : Bool}

/-! ## Literals -/

/-- The number that digits stand for, the most significant one first. -/
def valueOf (ds : List ℕ) : ℕ := ds.foldl (fun value d => 10 * value + d) 0

/-- What may follow a digit: further digits, each of them after an underscore or not. -/
inductive Further : List Char → List ℕ → Prop
  | nil : Further [] []
  | digit {c : Char} {d : ℕ} {cs : List Char} {ds : List ℕ} (first : digit? c = some d)
      (rest : Further cs ds) : Further (c :: cs) (d :: ds)
  | underscore {c : Char} {d : ℕ} {cs : List Char} {ds : List ℕ} (first : digit? c = some d)
      (rest : Further cs ds) : Further ('_' :: c :: cs) (d :: ds)

/-- Digits of any script, at least one, with single underscores between them or not. -/
inductive Spells : List Char → List ℕ → Prop
  | intro {c : Char} {d : ℕ} {cs : List Char} {ds : List ℕ} (first : digit? c = some d)
      (rest : Further cs ds) : Spells (c :: cs) (d :: ds)

/-- A sign or none, and whether it is a minus. -/
inductive Sign : List Char → Bool → Prop
  | none : Sign [] false
  | plus : Sign ['+'] false
  | minus : Sign ['-'] true

/-- An integer literal, with its digits and the integer that it stands for. -/
inductive Literal : List Char → List ℕ → ℤ → Prop
  | intro {before sign body after : List Char} {ds : List ℕ} {negative : Bool}
      (spaces : ∀ c ∈ before ++ after, isSpace c = true) (signed : Sign sign negative)
      (digits : Spells body ds) :
      Literal (before ++ (sign ++ body) ++ after) ds (Numeral.signed negative (valueOf ds))

theorem Literal.of_sign (hsign : Sign sign negative) (h : Spells body ds) :
    Literal (sign ++ body) ds (signed negative (valueOf ds)) := by
  have hbare := @Literal.intro [] sign body [] ds negative (by simp) hsign h
  rwa [List.nil_append, List.append_nil] at hbare

theorem Further.isNumeralChar (h : Further cs ds) : ∀ c ∈ cs, isNumeralChar c = true := by
  induction h with
  | nil => simp
  | digit first rest ih => simpa [Numeral.isNumeralChar, first] using ih
  | underscore first rest ih => simpa [Numeral.isNumeralChar, first] using ih

theorem Further.countDigits (h : Further cs ds) : countDigits cs = ds.length := by
  induction h with
  | nil => rfl
  | digit first rest ih =>
    have hne := ne_underscore_of_digit? first
    simpa [Numeral.countDigits, hne] using ih
  | underscore first rest ih =>
    have hne := ne_underscore_of_digit? first
    simpa [Numeral.countDigits, hne] using ih

theorem Further.lt (h : Further cs ds) : ∀ d ∈ ds, d < 10 := by
  induction h with
  | nil => simp
  | digit first rest ih => exact List.forall_mem_cons.2 ⟨digit?_lt first, ih⟩
  | underscore first rest ih => exact List.forall_mem_cons.2 ⟨digit?_lt first, ih⟩

theorem Further.getLast? (h : Further cs ds) :
    cs = [] ∨ ∃ c d, cs.getLast? = some c ∧ digit? c = some d := by
  induction h with
  | nil => exact .inl rfl
  | @digit c d cs ds first rest ih =>
    rcases ih with rfl | ⟨c', d', hlast, hc'⟩
    · exact .inr ⟨c, d, rfl, first⟩
    · exact .inr ⟨c', d', by rw [List.getLast?_cons, hlast]; rfl, hc'⟩
  | @underscore c d cs ds first rest ih =>
    rcases ih with rfl | ⟨c', d', hlast, hc'⟩
    · exact .inr ⟨c, d, rfl, first⟩
    · exact .inr ⟨c', d', by rw [List.getLast?_cons, List.getLast?_cons, hlast]; rfl, hc'⟩

theorem valueOf_append_singleton (ds : List ℕ) (d : ℕ) :
    valueOf (ds ++ [d]) = 10 * valueOf ds + d := by
  rw [valueOf, List.foldl_append]
  rfl

theorem valueOf_eq_ofDigits (ds : List ℕ) : valueOf ds = Nat.ofDigits 10 ds.reverse := by
  induction ds using List.reverseRecOn with
  | nil => rfl
  | append_singleton ds d ih =>
    rw [valueOf_append_singleton, ih, List.reverse_append, List.reverse_singleton,
      List.singleton_append, Nat.ofDigits_cons, add_comm]

theorem Spells.valueOf_lt (h : Spells cs ds) : valueOf ds < 10 ^ ds.length := by
  obtain ⟨first, rest⟩ := h
  rw [valueOf_eq_ofDigits, ← List.length_reverse]
  refine Nat.ofDigits_lt_base_pow_length (by decide) fun d hd => ?_
  rw [List.mem_reverse] at hd
  exact (Further.digit first rest).lt d hd

/-! ## Reading digits -/

theorem readRest_cons {value : ℕ} (h : digit? c = some d) :
    readRest value (c :: cs) = readRest (10 * value + d) cs := by
  have hne := ne_underscore_of_digit? h
  rw [readRest]
  · rw [h]
  · rintro c' rest rfl
    exact absurd rfl hne

theorem readRest_eq_some_iff {value m : ℕ} :
    readRest value cs = some m ↔
      ∃ ds, Further cs ds ∧ m = ds.foldl (fun value d => 10 * value + d) value := by
  constructor
  · intro h
    fun_induction readRest value cs with
    | case1 value => exact ⟨[], .nil, (Option.some.inj h).symm⟩
    | case2 value c cs d hd ih =>
      obtain ⟨ds, hds, rfl⟩ := ih h
      exact ⟨d :: ds, .underscore hd hds, rfl⟩
    | case3 => cases h
    | case4 value c cs hne d hd ih =>
      obtain ⟨ds, hds, rfl⟩ := ih h
      exact ⟨d :: ds, .digit hd hds, rfl⟩
    | case5 => cases h
  · rintro ⟨ds, hds, rfl⟩
    induction hds generalizing value with
    | nil => rfl
    | digit first rest ih => rw [readRest_cons first, ih, List.foldl_cons]
    | underscore first rest ih => rw [readRest, first, List.foldl_cons, ← ih]

theorem readNat_eq_some_iff {m : ℕ} :
    readNat cs = some m ↔ ∃ ds, Spells cs ds ∧ m = valueOf ds := by
  constructor
  · intro h
    unfold readNat at h
    split at h
    · cases h
    · split at h
      · rename_i d hd
        obtain ⟨ds, hds, rfl⟩ := readRest_eq_some_iff.1 h
        refine ⟨d :: ds, .intro hd hds, ?_⟩
        rw [valueOf, List.foldl_cons, mul_zero, zero_add]
      · cases h
  · rintro ⟨ds, ⟨first, rest⟩, rfl⟩
    rw [readNat, first]
    refine readRest_eq_some_iff.2 ⟨_, rest, ?_⟩
    rw [valueOf, List.foldl_cons, mul_zero, zero_add]

/-- Digits are read as the number they stand for, unless there are too many of them. -/
theorem readShort_of_spells (h : Spells cs ds) :
    readShort cs =
      if maxDigits < ds.length then .error (.tooLong ds.length) else .ok (valueOf ds) := by
  have hnat : readNat cs = some (valueOf ds) := readNat_eq_some_iff.2 ⟨ds, h, rfl⟩
  obtain ⟨first, rest⟩ := h
  have hall := (Further.digit first rest).isNumeralChar
  have hcount := (Further.digit first rest).countDigits
  rw [readShort, List.takeWhile_eq_self_iff.2 hall, hnat]
  dsimp only
  rw [hcount, if_neg (lt_irrefl _)]

theorem exists_spells_of_readShort {m : ℕ} (h : readShort cs = .ok m) :
    ∃ ds, Spells cs ds ∧ ds.length ≤ maxDigits ∧ m = valueOf ds := by
  -- what is left behind the digits would be refused
  have hall : cs.takeWhile isNumeralChar = cs := by
    unfold readShort at h
    dsimp only at h
    split at h
    · cases h
    · split_ifs at h with hlong hmore
      exact (List.takeWhile_prefix _).eq_of_length_le (not_lt.1 hmore)
  obtain ⟨ds, hds⟩ : ∃ ds, Spells cs ds := by
    cases hnat : readNat cs with
    | none =>
      rw [readShort, hall, hnat] at h
      cases h
    | some m =>
      obtain ⟨ds, hds, -⟩ := readNat_eq_some_iff.1 hnat
      exact ⟨ds, hds⟩
  rw [readShort_of_spells hds] at h
  split_ifs at h with hlong
  exact ⟨ds, hds, not_lt.1 hlong, (Except.ok.inj h).symm⟩

/-! ## Reading literals -/

theorem splitSign_append (hsign : Sign sign negative) (h : Spells body ds) :
    splitSign (sign ++ body) = (negative, body) := by
  obtain ⟨first, -⟩ := h
  cases hsign with
  | none =>
    rw [List.nil_append]
    unfold splitSign
    split
    · rename_i heq
      exact absurd (List.cons.inj heq).1 (ne_of_digit? first (by decide))
    · rename_i heq
      exact absurd (List.cons.inj heq).1 (ne_of_digit? first (by decide))
    · rfl
  | plus => rfl
  | minus => rfl

theorem exists_sign (cs : List Char) :
    ∃ sign, Sign sign (splitSign cs).1 ∧ cs = sign ++ (splitSign cs).2 := by
  unfold splitSign
  split
  · exact ⟨['-'], .minus, rfl⟩
  · exact ⟨['+'], .plus, rfl⟩
  · exact ⟨[], .none, rfl⟩

theorem trim_of_literal {before after : List Char}
    (hspaces : ∀ c ∈ before ++ after, isSpace c = true) (hsign : Sign sign negative)
    (h : Spells body ds) : trim isSpace (before ++ (sign ++ body) ++ after) = sign ++ body := by
  obtain ⟨c, hfirst, hc⟩ : ∃ c, (sign ++ body).head? = some c ∧ isSpace c = false := by
    obtain ⟨first, -⟩ := h
    cases hsign with
    | none => exact ⟨_, rfl, isSpace_eq_false_of_digit? first⟩
    | plus => exact ⟨'+', rfl, by decide⟩
    | minus => exact ⟨'-', rfl, by decide⟩
  obtain ⟨last, hlast, hl⟩ :
      ∃ last, (sign ++ body).getLast? = some last ∧ isSpace last = false := by
    obtain ⟨first, rest⟩ := h
    rcases (Further.digit first rest).getLast? with hnil | ⟨last, d, hlast, hdigit⟩
    · cases hnil
    · exact ⟨last, by rw [List.getLast?_append, hlast]; rfl, isSpace_eq_false_of_digit? hdigit⟩
  exact trim_append hspaces hfirst hc hlast hl

theorem read_eq (cs : List Char) :
    read cs = (readShort (splitSign (trim isSpace cs)).2).map
      (signed (splitSign (trim isSpace cs)).1) := rfl

/-- A literal is read as the integer it stands for, unless it has too many digits. -/
theorem read_of_literal (h : Literal cs ds n) :
    read cs = if maxDigits < ds.length then .error (.tooLong ds.length) else .ok n := by
  obtain ⟨hspaces, hsign, hdigits⟩ := h
  rw [read_eq, trim_of_literal hspaces hsign hdigits, splitSign_append hsign hdigits,
    readShort_of_spells hdigits]
  split_ifs <;> rfl

theorem exists_literal_of_read (h : read cs = .ok n) :
    ∃ ds, Literal cs ds n ∧ ds.length ≤ maxDigits := by
  rw [read_eq] at h
  obtain ⟨m, hm, rfl⟩ := Outcome.map_eq_ok_iff.1 h
  obtain ⟨ds, hds, hshort, rfl⟩ := exists_spells_of_readShort hm
  obtain ⟨before, after, hcs, hspaces⟩ := exists_trim isSpace cs
  obtain ⟨sign, hsign, hbody⟩ := exists_sign (trim isSpace cs)
  have hliteral := Literal.intro hspaces hsign hds
  rw [← hbody, ← hcs] at hliteral
  exact ⟨ds, hliteral, hshort⟩

/-- What is read are the literals of not too many digits, and nothing else. -/
theorem read_eq_ok_iff : read cs = .ok n ↔ ∃ ds, Literal cs ds n ∧ ds.length ≤ maxDigits := by
  refine ⟨exists_literal_of_read, ?_⟩
  rintro ⟨ds, hliteral, hshort⟩
  rw [read_of_literal hliteral, if_neg (not_lt.2 hshort)]

/-! ## Printed numerals -/

theorem mem_write {c : Char} (h : c ∈ write n) : c = '-' ∨ c.isDigit = true := by
  cases n with
  | ofNat n => exact .inr (Nat.isDigit_of_mem_toDigits (by decide) (by decide) h)
  | negSucc n =>
    rcases List.mem_cons.1 h with hminus | hdigit
    · exact .inl hminus
    · exact .inr (Nat.isDigit_of_mem_toDigits (by decide) (by decide) hdigit)

theorem toDigits_injective {m n : ℕ} (h : Nat.toDigits 10 m = Nat.toDigits 10 n) : m = n := by
  have hvalue := congrArg (Nat.ofDigitChars 10 · 0) h
  simpa only [Nat.ofDigitChars_ten_toDigits] using hvalue

theorem toDigits_ne_minus_cons (n : ℕ) (cs : List Char) : Nat.toDigits 10 n ≠ '-' :: cs := by
  intro h
  have hminus : '-' ∈ Nat.toDigits 10 n := h ▸ List.mem_cons_self
  exact absurd (Nat.isDigit_of_mem_toDigits (by decide) (by decide) hminus) (by decide)

theorem write_injective : Function.Injective write := by
  intro m n h
  match m, n with
  | .ofNat _, .ofNat _ => exact congrArg Int.ofNat (toDigits_injective h)
  | .ofNat _, .negSucc _ => exact absurd h (toDigits_ne_minus_cons _ _)
  | .negSucc _, .ofNat _ => exact absurd h.symm (toDigits_ne_minus_cons _ _)
  | .negSucc _, .negSucc _ =>
    have hsucc := toDigits_injective (List.cons.inj h).2
    exact congrArg Int.negSucc (Nat.succ.inj hsucc)

theorem further_of_isDigit (h : ∀ c ∈ cs, c.isDigit = true) :
    Further cs (cs.map fun c => c.toNat - '0'.toNat) := by
  induction cs with
  | nil => exact .nil
  | cons c cs ih =>
    obtain ⟨hc, hcs⟩ := List.forall_mem_cons.1 h
    exact .digit (digit?_of_isDigit hc) (ih hcs)

theorem spells_of_isDigit (hne : cs ≠ []) (h : ∀ c ∈ cs, c.isDigit = true) :
    Spells cs (cs.map fun c => c.toNat - '0'.toNat) := by
  obtain ⟨c, cs, rfl⟩ := List.exists_cons_of_ne_nil hne
  obtain ⟨hc, hcs⟩ := List.forall_mem_cons.1 h
  exact .intro (digit?_of_isDigit hc) (further_of_isDigit hcs)

/-- The digits that are printed of a number spell it. -/
theorem exists_spells_toDigits (m : ℕ) :
    ∃ ds, Spells (Nat.toDigits 10 m) ds ∧ valueOf ds = m ∧
      ds.length = (Nat.toDigits 10 m).length := by
  have hspells := @spells_of_isDigit (Nat.toDigits 10 m) Nat.toDigits_ne_nil fun _ =>
    Nat.isDigit_of_mem_toDigits (by decide) (by decide)
  refine ⟨_, hspells, ?_, List.length_map ..⟩
  rw [valueOf, List.foldl_map]
  exact Nat.ofDigitChars_ten_toDigits

/-- What is printed of an integer is a literal that stands for it. -/
theorem literal_write (n : ℤ) :
    ∃ ds, Literal (write n) ds n ∧ ds.length = (Nat.toDigits 10 n.natAbs).length := by
  cases n with
  | ofNat m =>
    obtain ⟨ds, hspells, hvalue, hlength⟩ := exists_spells_toDigits m
    have hliteral := Literal.of_sign .none hspells
    rw [hvalue] at hliteral
    exact ⟨ds, hliteral, hlength⟩
  | negSucc m =>
    obtain ⟨ds, hspells, hvalue, hlength⟩ := exists_spells_toDigits (m + 1)
    have hliteral := Literal.of_sign .minus hspells
    rw [hvalue] at hliteral
    exact ⟨ds, hliteral, hlength⟩

/-! ## Numbers that can be shown -/

theorem isShort_iff {a : ℤ} : isShort a = true ↔ a.natAbs < 10 ^ maxDigits := by
  rw [isShort, decide_eq_true_eq]
  exact Nat.length_toDigits_le_iff (by decide) (by decide)

theorem isShort_of_abs_le {a b : ℤ} (h : |a| ≤ b) (hb : isShort b = true) : isShort a = true := by
  rw [isShort_iff] at hb ⊢
  have hle : a.natAbs ≤ b.natAbs := by
    rw [Int.abs_eq_natAbs] at h
    omega
  omega

theorem natAbs_signed (negative : Bool) (m : ℕ) : (signed negative m).natAbs = m := by
  cases negative <;> simp [signed]

/-- What is printed of an integer is read as the integer, unless it has too many digits. -/
theorem read_write (n : ℤ) :
    read (write n) =
      if isShort n then .ok n else .error (.tooLong (Nat.toDigits 10 n.natAbs).length) := by
  obtain ⟨ds, hliteral, hlength⟩ := literal_write n
  rw [read_of_literal hliteral, hlength, isShort]
  split_ifs with hlong hshort hshort
  · exact absurd (of_decide_eq_true hshort) (not_le.2 hlong)
  · rfl
  · rfl
  · exact absurd (decide_eq_true (not_lt.1 hlong)) hshort

/-- What is read has no more digits than the literal, and so few enough to be printed. -/
theorem isShort_of_read (h : read cs = .ok n) : isShort n = true := by
  obtain ⟨ds, ⟨-, -, hdigits⟩, hshort⟩ := exists_literal_of_read h
  rw [isShort_iff, natAbs_signed]
  exact hdigits.valueOf_lt.trans_le (Nat.pow_le_pow_right (by decide) hshort)

end Numeral

end HexRules.Text

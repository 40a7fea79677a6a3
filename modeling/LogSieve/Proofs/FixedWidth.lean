import LogSieve.Calendar
import LogSieve.Proofs.Letters

/-! Numbers written with a fixed count of digits. As many digits as the width allows, with zeros in front,
name the number again, and such texts stand in the order of their numbers. -/

namespace LogSieve

namespace Text

theorem bounds_of_isAsciiDigit {c : Char} (digit : isAsciiDigit c = true) :
    48 ≤ c.toNat ∧ c.toNat ≤ 57 := by
  simpa [isAsciiDigit, Char.le_def, UInt32.le_iff_toNat_le] using digit

theorem ofDigitChars_cons_zero (c : Char) (rest : List Char) : Nat.ofDigitChars 10 (c :: rest) 0 =
    10 ^ rest.length * (c.toNat - 48) + Nat.ofDigitChars 10 rest 0 := by
  rw [Nat.ofDigitChars_cons, Nat.ofDigitChars_eq_ofDigitChars_zero, Nat.mul_zero, Nat.zero_add]
  rfl

theorem ofDigitChars_lt {digits : List Char} (all : ∀ c ∈ digits, isAsciiDigit c = true) :
    Nat.ofDigitChars 10 digits 0 < 10 ^ digits.length := by
  induction digits with
  | nil => exact Nat.one_pos
  | cons c rest ih =>
    obtain ⟨first, others⟩ := List.forall_mem_cons.mp all
    have below := ih others
    have small : c.toNat - 48 ≤ 9 := by
      have bounds := bounds_of_isAsciiDigit first
      omega
    have scaled := Nat.mul_le_mul_left (10 ^ rest.length) small
    rw [ofDigitChars_cons_zero, List.length_cons, Nat.pow_succ]
    omega

theorem weight_lt_weight {scale digit other low : Nat} (less : digit < other) (below : low < scale)
    (high : Nat) : scale * digit + low < scale * other + high := by
  have step := Nat.mul_le_mul_left scale (Nat.succ_le_of_lt less)
  rw [Nat.mul_succ] at step
  omega

/-- Of two texts the beginnings of one length decide, unless they are equal. -/
theorem append_lt_append_iff {left right : List Char} (same : left.length = right.length)
    (more rest : List Char) :
    left ++ more < right ++ rest ↔ left < right ∨ left = right ∧ more < rest := by
  induction left generalizing right with
  | nil =>
    rw [List.length_eq_zero_iff.mp same.symm]
    simp
  | cons c left ih =>
    obtain ⟨d, right, rfl⟩ := List.exists_cons_of_length_eq_add_one same.symm
    rw [List.cons_append, List.cons_append, List.cons_lt_cons_iff, List.cons_lt_cons_iff,
      ih (Nat.succ.inj same), List.cons.injEq]
    tauto

/-- Texts of as many digits are compared as the numbers that they name. -/
theorem digits_lt_iff {left right : List Char} (same : left.length = right.length)
    (first : ∀ c ∈ left, isAsciiDigit c = true) (second : ∀ c ∈ right, isAsciiDigit c = true) :
    left < right ↔ Nat.ofDigitChars 10 left 0 < Nat.ofDigitChars 10 right 0 := by
  induction left generalizing right with
  | nil =>
    rw [List.length_eq_zero_iff.mp same.symm]
    exact iff_of_false (List.not_lt_nil []) (lt_irrefl _)
  | cons c left ih =>
    obtain ⟨d, right, rfl⟩ := List.exists_cons_of_length_eq_add_one same.symm
    obtain ⟨firstDigit, first⟩ := List.forall_mem_cons.mp first
    obtain ⟨secondDigit, second⟩ := List.forall_mem_cons.mp second
    have lengths : left.length = right.length := Nat.succ.inj same
    have leftBelow := ofDigitChars_lt first
    have rightBelow := ofDigitChars_lt second
    have firstBounds := bounds_of_isAsciiDigit firstDigit
    have secondBounds := bounds_of_isAsciiDigit secondDigit
    have order : c < d ↔ c.toNat < d.toNat := Char.lt_def.trans UInt32.lt_iff_toNat_lt
    rw [List.cons_lt_cons_iff, order, ← Char.toNat_inj, ih lengths first second,
      ofDigitChars_cons_zero, ofDigitChars_cons_zero, lengths]
    rw [lengths] at leftBelow
    rcases lt_trichotomy c.toNat d.toNat with less | equal | more
    · have smaller : c.toNat - 48 < d.toNat - 48 := by omega
      exact iff_of_true (.inl less) (weight_lt_weight smaller leftBelow _)
    · rw [equal]
      omega
    · have larger : d.toNat - 48 < c.toNat - 48 := by omega
      refine iff_of_false (by omega) ?_
      exact (weight_lt_weight larger rightBelow _).not_gt

end Text

namespace Moment
open Text

variable {width n : Nat}

theorem isAsciiDigit_of_mem_padded : ∀ c ∈ padded width n, isAsciiDigit c = true := by
  intro c member
  rcases List.mem_append.mp member with zero | digit
  · rw [List.eq_of_mem_replicate zero]
    rfl
  · exact isAsciiDigit_of_mem_toDigits digit

theorem ofDigitChars_padded : Nat.ofDigitChars 10 (padded width n) 0 = n := by
  rw [padded, decimal, Nat.ofDigitChars_append, Nat.ofDigitChars_replicate_zero, Nat.mul_zero,
    Nat.ofDigitChars_ten_toDigits]

theorem length_padded (positive : 0 < width) (fits : n < 10 ^ width) :
    (padded width n).length = width := by
  have short := (Nat.length_toDigits_le_iff (by decide) positive).mpr fits
  rw [padded, decimal, List.length_append, List.length_replicate]
  omega

theorem padded_ne_nil : padded width n ≠ [] := by
  simp [padded, decimal]

theorem decimal?_padded : decimal? (padded width n) = some n := by
  have digits : (padded width n).all isAsciiDigit = true :=
    List.all_eq_true.mpr isAsciiDigit_of_mem_padded
  rw [decimal?, if_neg (by simp [padded_ne_nil, digits]), ofDigitChars_padded]

theorem length_padded_eq {other : Nat} (positive : 0 < width) (fits : n < 10 ^ width)
    (otherFits : other < 10 ^ width) : (padded width n).length = (padded width other).length := by
  rw [length_padded positive fits, length_padded positive otherFits]

theorem padded_lt_iff {other : Nat} (positive : 0 < width) (fits : n < 10 ^ width)
    (otherFits : other < 10 ^ width) : padded width n < padded width other ↔ n < other := by
  rw [digits_lt_iff (length_padded_eq positive fits otherFits) isAsciiDigit_of_mem_padded
    isAsciiDigit_of_mem_padded, ofDigitChars_padded, ofDigitChars_padded]

theorem padded_inj {other : Nat} (same : padded width n = padded width other) : n = other := by
  rw [← @ofDigitChars_padded width n, same, ofDigitChars_padded]

/-- Between texts that begin with numbers of one width the numbers decide, unless they are equal. -/
theorem padded_append_lt_iff {other : Nat} (positive : 0 < width) (fits : n < 10 ^ width)
    (otherFits : other < 10 ^ width) (more rest : List Char) :
    padded width n ++ more < padded width other ++ rest ↔ n < other ∨ n = other ∧ more < rest := by
  have equal : padded width n = padded width other ↔ n = other :=
    ⟨padded_inj, congrArg (padded width)⟩
  rw [append_lt_append_iff (length_padded_eq positive fits otherFits),
    padded_lt_iff positive fits otherFits, equal]

end Moment

end LogSieve

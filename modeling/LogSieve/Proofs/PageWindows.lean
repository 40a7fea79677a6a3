import Mathlib.Tactic.ByContra
import LogSieve.Sql.Page

/-! Windows of pages. The number and the size of a page have 32 bits each and its offset has 63, which is
one too few for their product: pages far out have no offset. They exist as soon as pages may be large
enough. -/

namespace LogSieve

namespace Sql.Page

structure Allowed (page : Page) (maxSize : UInt32) : Prop where
  counted : page.number ≠ 0
  nonempty : page.size ≠ 0
  limited : page.size ≤ maxSize

def OutOfReach (page : Page) : Prop :=
  0x8000000000000000 ≤ (page.number.toNat - 1) * page.size.toNat

instance (page : Page) : Decidable page.OutOfReach := Nat.decLe _ _

variable {page : Page} {maxSize : UInt32}

theorem Allowed.number_pos (allowed : page.Allowed maxSize) : 0 < page.number.toNat :=
  Nat.pos_of_ne_zero fun zero => allowed.counted (UInt32.toNat_inj.mp zero)

theorem Allowed.size_pos (allowed : page.Allowed maxSize) : 0 < page.size.toNat :=
  Nat.pos_of_ne_zero fun zero => allowed.nonempty (UInt32.toNat_inj.mp zero)

theorem Allowed.sized (allowed : page.Allowed maxSize) : ¬ (page.size = 0 ∨ maxSize < page.size) := by
  rintro (zero | large)
  · exact allowed.nonempty zero
  · exact absurd large (UInt32.not_lt.mpr allowed.limited)

theorem Allowed.window_eq (allowed : page.Allowed maxSize) :
    page.window maxSize = if page.OutOfReach then .error .offsetOverflow
      else .ok { limit := page.size, offset := Int64.ofNat page.rowsBefore } := by
  rw [window, if_neg allowed.counted, if_neg allowed.sized]
  by_cases beyond : page.OutOfReach
  · have long : ¬ page.rowsBefore < offsetLimit := Nat.not_lt.mpr beyond
    rw [if_pos beyond, if_neg long]
    rfl
  · have fits : page.rowsBefore < offsetLimit := Nat.lt_of_not_le beyond
    rw [if_neg beyond, if_pos fits]
    rfl

/-- The offset of a page within reach is the number of rows on the pages before it. -/
theorem Allowed.exists_window (allowed : page.Allowed maxSize) (near : ¬ page.OutOfReach) :
    ∃ window : Window, page.window maxSize = .ok window ∧ window.limit = page.size ∧
      window.offset.toInt = (page.number.toNat - 1) * page.size.toNat := by
  have fits : page.rowsBefore < 0x8000000000000000 := Nat.lt_of_not_le near
  have counted : 1 ≤ page.number.toNat := allowed.number_pos
  refine ⟨⟨page.size, Int64.ofNat page.rowsBefore⟩, ?_, rfl, ?_⟩
  · rw [allowed.window_eq, if_neg near]
  · rw [Int64.toInt_ofNat_of_lt fits, rowsBefore]
    push_cast [counted]
    rfl

theorem uncounted_or_missized (refused : ¬ page.Allowed maxSize) :
    page.number = 0 ∨ page.number ≠ 0 ∧ (page.size = 0 ∨ maxSize < page.size) := by
  by_cases counted : page.number = 0
  · exact .inl counted
  · refine .inr ⟨counted, ?_⟩
    by_contra sized
    rw [not_or, UInt32.not_lt] at sized
    exact refused ⟨counted, sized.1, sized.2⟩

theorem not_allowed_iff : ¬ page.Allowed maxSize ↔
    page.number = 0 ∨ page.size = 0 ∨ maxSize < page.size := by
  constructor
  · intro refused
    rcases uncounted_or_missized refused with uncounted | ⟨-, missized⟩
    · exact .inl uncounted
    · exact .inr missized
  · rintro (uncounted | missized) allowed
    · exact allowed.counted uncounted
    · exact allowed.sized missized

theorem window_uncounted (uncounted : page.number = 0) :
    page.window maxSize = .error (.badPage 0) := by
  rw [window, if_pos uncounted, uncounted]
  rfl

theorem window_missized (counted : page.number ≠ 0)
    (missized : page.size = 0 ∨ maxSize < page.size) :
    page.window maxSize = .error (.badPageSize page.size maxSize) := by
  rw [window, if_neg counted, if_pos missized]
  rfl

theorem window_eq_ok_iff {window : Window} : page.window maxSize = .ok window ↔
    page.Allowed maxSize ∧ ¬ page.OutOfReach ∧
      window = { limit := page.size, offset := Int64.ofNat page.rowsBefore } := by
  by_cases allowed : page.Allowed maxSize
  · rw [allowed.window_eq]
    split
    next beyond => simp [beyond]
    next near => simp [allowed, near, eq_comm]
  · rcases uncounted_or_missized allowed with uncounted | ⟨counted, missized⟩
    · simp [window_uncounted uncounted, allowed]
    · simp [window_missized counted missized, allowed]

theorem window_eq_error_iff {error : Error} : page.window maxSize = .error error ↔
    page.number = 0 ∧ error = .badPage 0 ∨
      page.number ≠ 0 ∧ (page.size = 0 ∨ maxSize < page.size) ∧
        error = .badPageSize page.size maxSize ∨
      page.Allowed maxSize ∧ page.OutOfReach ∧ error = .offsetOverflow := by
  by_cases allowed : page.Allowed maxSize
  · rw [allowed.window_eq]
    split
    next beyond => simp [allowed.counted, allowed.sized, allowed, beyond, eq_comm]
    next near => simp [allowed.counted, allowed.sized, near]
  · rcases uncounted_or_missized allowed with uncounted | ⟨counted, missized⟩
    · simp [window_uncounted uncounted, uncounted, allowed, eq_comm]
    · simp [window_missized counted missized, counted, missized, allowed, eq_comm]

theorem window_eq_offsetOverflow_iff : page.window maxSize = .error .offsetOverflow ↔
    page.Allowed maxSize ∧ page.OutOfReach := by
  simp [window_eq_error_iff]

/-- Of all that a page can be refused for, only the offset is no mistake of whoever asks. -/
theorem isDefect_iff_of_window_eq_error {error : Error} (failed : page.window maxSize = .error error) :
    error.isDefect = true ↔ error = .offsetOverflow := by
  rcases window_eq_error_iff.mp failed with ⟨-, rfl⟩ | ⟨-, -, rfl⟩ | ⟨-, -, rfl⟩
  · exact iff_of_false nofun nofun
  · exact iff_of_false nofun nofun
  · exact iff_of_true rfl rfl

/-- The largest size with which every page can still be counted. -/
theorem forall_not_outOfReach_iff : (∀ page : Page, page.Allowed maxSize → ¬ page.OutOfReach) ↔
    maxSize ≤ 2147483649 := by
  rw [UInt32.le_iff_toNat_le]
  change _ ↔ maxSize.toNat ≤ 2147483649
  constructor
  · intro near
    by_cases empty : maxSize = 0
    · simp [empty]
    · have counted : (4294967295 : UInt32) ≠ 0 := by decide
      have last := near ⟨4294967295, maxSize⟩ ⟨counted, empty, UInt32.le_refl maxSize⟩
      have rows : ¬ 0x8000000000000000 ≤ 4294967294 * maxSize.toNat := last
      omega
  · intro small page allowed beyond
    have numbered : page.number.toNat - 1 ≤ 4294967294 := by
      have bounded : page.number.toNat < 4294967296 := page.number.toNat_lt
      omega
    have sized : page.size.toNat ≤ 2147483649 :=
      Nat.le_trans (UInt32.le_iff_toNat_le.mp allowed.limited) small
    have rows := Nat.mul_le_mul numbered sized
    rw [OutOfReach] at beyond
    omega

end Sql.Page

end LogSieve

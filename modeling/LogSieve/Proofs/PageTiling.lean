import Mathlib.Logic.ExistsUnique
import LogSieve.Proofs.PageWindows

/-! Pages of one size and the rows that they show. Pages count from one and rows from zero: whole division
by the size leads from a row to the one page that shows it, and each page begins where the one before it
ends. The only rows without a page lie behind the last page that has a number and an offset. -/

namespace LogSieve.Sql

/-- The row with this number, counted from zero, is one of those that the window shows. -/
def Window.Shows (window : Window) (row : Nat) : Prop :=
  window.offset.toInt ≤ row ∧ row < window.offset.toInt + window.limit.toNat

namespace Page
variable {page : Page} {maxSize size : UInt32} {window : Window} {row : Nat}

theorem toInt_offset (shown : page.window maxSize = .ok window) :
    window.offset.toInt = page.rowsBefore := by
  obtain ⟨-, near, rfl⟩ := window_eq_ok_iff.mp shown
  have fits : page.rowsBefore < 0x8000000000000000 := Nat.lt_of_not_le near
  exact Int64.toInt_ofNat_of_lt fits

/-- A page shows the rows that whole division by its size sends to the number of pages before it. -/
theorem shows_iff (shown : page.window maxSize = .ok window) (row : Nat) :
    window.Shows row ↔ row / page.size.toNat = page.number.toNat - 1 := by
  obtain ⟨allowed, -, same⟩ := window_eq_ok_iff.mp shown
  have limited : window.limit = page.size := congrArg Window.limit same
  have positive := allowed.size_pos
  rw [Window.Shows, toInt_offset shown, limited, Nat.div_eq_iff positive, ← rowsBefore]
  omega

def ofRow (size : UInt32) (row : Nat) : Page :=
  { number := UInt32.ofNat (row / size.toNat + 1), size }

theorem number_ofRow (numbered : row < 4294967295 * size.toNat) :
    (ofRow size row).number.toNat = row / size.toNat + 1 := by
  have before : row / size.toNat < 4294967295 :=
    Nat.div_lt_of_lt_mul (Nat.mul_comm _ size.toNat ▸ numbered)
  exact UInt32.toNat_ofNat_of_lt' (Nat.succ_lt_succ before)

theorem allowed_ofRow (nonempty : size ≠ 0) (limited : size ≤ maxSize)
    (numbered : row < 4294967295 * size.toNat) : (ofRow size row).Allowed maxSize := by
  refine ⟨?_, nonempty, limited⟩
  intro zero
  have number := number_ofRow numbered
  rw [zero] at number
  cases number

theorem existsUnique_shows (nonempty : size ≠ 0) (limited : size ≤ maxSize)
    (numbered : row < 4294967295 * size.toNat)
    (fits : row / size.toNat * size.toNat < 0x8000000000000000) :
    ∃! number : UInt32, ∃ window, Page.window ⟨number, size⟩ maxSize = .ok window ∧ window.Shows row := by
  have number := number_ofRow numbered
  apply ExistsUnique.intro (ofRow size row).number
  · have allowed := allowed_ofRow nonempty limited numbered
    have near : ¬ (ofRow size row).OutOfReach := by
      rw [OutOfReach, number, Nat.add_sub_cancel]
      exact Nat.not_le.mpr fits
    obtain ⟨window, shown, -⟩ := allowed.exists_window near
    refine ⟨window, shown, (shows_iff shown row).mpr ?_⟩
    rw [number]
    rfl
  · rintro other ⟨window, shown, shows⟩
    have counted : 0 < other.toNat := (window_eq_ok_iff.mp shown).1.number_pos
    have same : row / size.toNat = other.toNat - 1 := (shows_iff shown row).mp shows
    apply UInt32.toNat_inj.mp
    rw [number, same, Nat.sub_add_cancel counted]

theorem toNat_succ {number : UInt32} (further : number ≠ 4294967295) :
    (number + 1).toNat = number.toNat + 1 := by
  have bounded := number.toNat_lt
  have last : number.toNat ≠ 4294967295 := fun same => further (UInt32.toNat_inj.mp same)
  rw [UInt32.toNat_add, UInt32.toNat_one]
  omega

theorem offset_succ {number : UInt32} {next : Window} (further : number ≠ 4294967295)
    (shown : Page.window ⟨number, size⟩ maxSize = .ok window)
    (shownNext : Page.window ⟨number + 1, size⟩ maxSize = .ok next) :
    next.offset.toInt = window.offset.toInt + window.limit.toNat := by
  obtain ⟨allowed, -, same⟩ := window_eq_ok_iff.mp shown
  have limited : window.limit = size := congrArg Window.limit same
  have counted : 0 < number.toNat := allowed.number_pos
  have rows : rowsBefore ⟨number + 1, size⟩ = rowsBefore ⟨number, size⟩ + size.toNat := by
    obtain ⟨before, succ⟩ := Nat.exists_eq_add_one.mpr counted
    simp only [rowsBefore, toNat_succ further, succ, Nat.add_sub_cancel]
    rw [Nat.succ_mul]
  rw [toInt_offset shown, toInt_offset shownNext, limited, rows]
  exact Int.natCast_add _ _

theorem not_outOfReach_of_succ {number : UInt32} (further : number ≠ 4294967295)
    (near : ¬ OutOfReach ⟨number + 1, size⟩) : ¬ OutOfReach ⟨number, size⟩ := by
  have later := Nat.mul_le_mul_right size.toNat (Nat.sub_le number.toNat 1)
  simp only [OutOfReach, toNat_succ further, Nat.add_sub_cancel] at near ⊢
  omega

/-- Windows tile the rows. A page has one exactly if it counts from one and its size is within the limit,
and the number is looked at before the size, as long as its offset fits; every row that such pages can reach
is on exactly one of them, and where one page ends the next one begins. -/
theorem windows_tile_rows (maxSize : UInt32) :
    (∀ page : Page, page.number = 0 → page.window maxSize = .error (.badPage 0)) ∧
    (∀ page : Page, page.number ≠ 0 → page.size = 0 ∨ maxSize < page.size →
      page.window maxSize = .error (.badPageSize page.size maxSize)) ∧
    (∀ page : Page, ¬ page.OutOfReach →
      ((∃ window, page.window maxSize = .ok window) ↔ page.Allowed maxSize)) ∧
    ∀ size : UInt32, size ≠ 0 → size ≤ maxSize →
      (∀ row : Nat, row < 4294967295 * size.toNat →
        row / size.toNat * size.toNat < 0x8000000000000000 →
        ∃! number : UInt32, ∃ window,
          Page.window ⟨number, size⟩ maxSize = .ok window ∧ window.Shows row) ∧
      ∀ number : UInt32, number ≠ 0 → number ≠ 4294967295 → ¬ OutOfReach ⟨number + 1, size⟩ →
        ∃ window next, Page.window ⟨number, size⟩ maxSize = .ok window ∧
          Page.window ⟨number + 1, size⟩ maxSize = .ok next ∧
          next.offset.toInt = window.offset.toInt + window.limit.toNat := by
  refine ⟨fun page => window_uncounted, fun page => window_missized, ?_, ?_⟩
  · intro page near
    constructor
    · rintro ⟨window, shown⟩
      exact (window_eq_ok_iff.mp shown).1
    · intro allowed
      obtain ⟨window, shown, -⟩ := allowed.exists_window near
      exact ⟨window, shown⟩
  · intro size nonempty limited
    refine ⟨fun row numbered fits => existsUnique_shows nonempty limited numbered fits, ?_⟩
    intro number counted further near
    have allowed : Allowed ⟨number, size⟩ maxSize := ⟨counted, nonempty, limited⟩
    have allowedNext : Allowed ⟨number + 1, size⟩ maxSize := by
      refine ⟨?_, nonempty, limited⟩
      intro zero
      have wrapped : (number + 1).toNat = 0 := congrArg UInt32.toNat zero
      rw [toNat_succ further] at wrapped
      cases wrapped
    obtain ⟨window, shown, -⟩ := allowed.exists_window (not_outOfReach_of_succ further near)
    obtain ⟨next, shownNext, -⟩ := allowedNext.exists_window near
    exact ⟨window, next, shown, shownNext, offset_succ further shown shownNext⟩

/-- The last row on the last page of 2147483650 rows that has an offset, and the border before that page.
Of a page with neither number nor size, the number is reported. -/
theorem windows_tile_rows_last :
    Page.window ⟨0, 0⟩ 4294967295 = .error (.badPage 0) ∧
    (9223372039002259449 < 4294967295 * (2147483650 : UInt32).toNat ∧
      9223372039002259449 / (2147483650 : UInt32).toNat * (2147483650 : UInt32).toNat <
        0x8000000000000000) ∧
    (∃! number : UInt32, ∃ window, Page.window ⟨number, 2147483650⟩ 4294967295 = .ok window ∧
      window.Shows 9223372039002259449) ∧
    ¬ OutOfReach ⟨4294967292 + 1, 2147483650⟩ ∧
    ∃ window next, Page.window ⟨4294967292, 2147483650⟩ 4294967295 = .ok window ∧
      Page.window ⟨4294967292 + 1, 2147483650⟩ 4294967295 = .ok next ∧
      next.offset.toInt = window.offset.toInt + window.limit.toNat := by
  obtain ⟨uncounted, -, -, tiles⟩ := windows_tile_rows 4294967295
  obtain ⟨rows, borders⟩ := tiles 2147483650 (by decide) (by decide)
  have numbered : 9223372039002259449 < 4294967295 * (2147483650 : UInt32).toNat := by decide
  have fits : 9223372039002259449 / (2147483650 : UInt32).toNat * (2147483650 : UInt32).toNat <
      0x8000000000000000 := by decide
  have near : ¬ OutOfReach ⟨4294967292 + 1, 2147483650⟩ := by decide
  refine ⟨uncounted ⟨0, 0⟩ rfl, ⟨numbered, fits⟩, rows 9223372039002259449 numbered fits, near, ?_⟩
  exact borders 4294967292 (by decide) (by decide) near

end Page

end LogSieve.Sql

import LogSieve.Command.Run
import LogSieve.Proofs.PageWindows
import LogSieve.Proofs.StatementShape

/-! How far the pages of a profile can be counted. A profile limits the size of its pages, but nothing
limits what it may set as the limit: where pages may be very large, the last of them lie out of reach, and
to ask for one breaks the request off. -/

namespace LogSieve

theorem Sql.Compiler.page_eq_error_iff (compiler : Compiler) (filter : Filter) (request : SortRequest)
    (scope : Option String) (page : Page) {error : Error} :
    compiler.page filter request scope page = .error error ↔
      page.window compiler.maxPageSize = .error error := by
  rw [page_eq]
  cases page.window compiler.maxPageSize with
  | error cause => simp only [Except.map, Except.error.injEq]
  | ok window => exact iff_of_false nofun nofun

namespace Profile
variable {profile : Profile}

structure Checked (profile : Profile) : Prop where
  sortable : ∃ column, Column.ofName? profile.sort.column = some column
  paged : profile.pages.maxSize ≠ 0
  sized : profile.pages.defaultSize ≠ 0
  limited : profile.pages.defaultSize ≤ profile.pages.maxSize
  rows : profile.rowLimit ≠ 0

theorem flaw?_eq_none_iff : profile.flaw? = none ↔ profile.Checked := by
  unfold flaw?
  constructor
  · intro sound
    split at sound
    next => cases sound
    next known =>
      split at sound
      next => cases sound
      next paged =>
        split at sound
        next => cases sound
        next sized =>
          split at sound
          next => cases sound
          next rows =>
            rw [not_or, UInt32.not_lt] at sized
            exact ⟨Option.ne_none_iff_exists'.mp (by simpa using known), paged, sized.1, sized.2, rows⟩
  · rintro ⟨⟨column, named⟩, paged, sized, limited, rows⟩
    have short : ¬ profile.pages.maxSize < profile.pages.defaultSize := UInt32.not_lt.mpr limited
    simp [named, paged, sized, short, rows]

theorem exists_compiler (sound : profile.flaw? = none) :
    ∃ compiler, profile.compiler = .ok compiler ∧ compiler.maxPageSize = profile.pages.maxSize := by
  obtain ⟨column, named⟩ := (flaw?_eq_none_iff.mp sound).sortable
  rw [Profile.compiler, named]
  exact ⟨_, rfl, rfl⟩

end Profile

namespace Command
open Sql

/-- The request ends without a report: there is nothing that could be said about it. -/
def BreaksOff (outcome : Except Failure Request) : Prop :=
  ∃ failure, outcome = .error failure ∧ failure.causes = []

theorem causes_page_eq_nil_iff {error : Error} :
    (Failure.page error).causes = [] ↔ error.isDefect = true := by
  unfold Failure.causes
  split <;> simp_all

section
variable {ε ε' α β : Type}

theorem bind_eq_error_iff {first : Except ε α} {next : α → Except ε β} {failure : ε} :
    first >>= next = .error failure ↔
      first = .error failure ∨ ∃ value, first = .ok value ∧ next value = .error failure := by
  cases first with
  | error cause => simp [bind, Except.bind]
  | ok value => simp [bind, Except.bind]

theorem mapError_eq_error_iff {outcome : Except ε α} {wrap : ε → ε'} {failure : ε'} :
    outcome.mapError wrap = .error failure ↔ ∃ cause, outcome = .error cause ∧ wrap cause = failure := by
  cases outcome <;> simp [Except.mapError]

theorem mapError_eq_ok_iff {outcome : Except ε α} {wrap : ε → ε'} {value : α} :
    outcome.mapError wrap = .ok value ↔ outcome = .ok value := by
  cases outcome <;> simp [Except.mapError]

end

namespace Controls
variable (controls : Controls) (profile : Profile) (filter : Filter)

/-- The controls ask for this page, and for nothing that has no pages. -/
structure Shows (page : Page) : Prop where
  listed : controls.count = false ∧ controls.histogram = false
  wanted : controls.wantedPage? profile = some page

theorem statement_eq_error_iff {compiler : Compiler} {error : Error} :
    controls.statement profile compiler filter = .error error ↔
      ∃ page, controls.Shows profile page ∧ page.window compiler.maxPageSize = .error error := by
  unfold statement
  constructor
  · intro failed
    split at failed
    next => cases failed
    next listed =>
      split at failed
      next => cases failed
      next unbinned =>
        split at failed
        next page wanted =>
          refine ⟨page, ⟨⟨by simpa using listed, by simpa using unbinned⟩, wanted⟩, ?_⟩
          exact (compiler.page_eq_error_iff filter _ _ page).mp failed
        next => cases failed
  · rintro ⟨page, ⟨⟨listed, unbinned⟩, wanted⟩, failed⟩
    simp only [listed, unbinned, wanted, Bool.false_eq_true, if_false]
    exact (compiler.page_eq_error_iff filter _ _ page).mpr failed

theorem request_eq_error_iff {compiler : Compiler} {failure : Failure}
    (made : profile.compiler = .ok compiler) : controls.request profile filter = .error failure ↔
      (∃ error, controls.statement profile compiler filter = .error error ∧ .page error = failure) ∨
      ∃ statement, controls.statement profile compiler filter = .ok statement ∧
        ∃ error, Request.ofStatement statement profile.rowLimit = .error error ∧
          .rejected error = failure := by
  have steps : controls.request profile filter =
      (controls.statement profile compiler filter).mapError Failure.page >>= fun statement =>
        (Request.ofStatement statement profile.rowLimit).mapError Failure.rejected := by
    rw [request, made]
    rfl
  simp only [steps, bind_eq_error_iff, mapError_eq_error_iff, mapError_eq_ok_iff]

end Controls

/-- With a profile that has been checked, only a page out of reach breaks a request off. -/
theorem breaksOff_request_iff {profile : Profile} (sound : profile.flaw? = none) (controls : Controls)
    (filter : Filter) : BreaksOff (controls.request profile filter) ↔
      ∃ page, controls.Shows profile page ∧ page.Allowed profile.pages.maxSize ∧ page.OutOfReach := by
  obtain ⟨compiler, made, same⟩ := Profile.exists_compiler sound
  simp only [BreaksOff, controls.request_eq_error_iff profile filter made,
    ← Page.window_eq_offsetOverflow_iff, ← same]
  constructor
  · rintro ⟨_, ⟨error, failed, rfl⟩ | ⟨_, -, error, -, rfl⟩, silent⟩
    · obtain ⟨page, shows, refused⟩ := (controls.statement_eq_error_iff profile filter).mp failed
      have defect := causes_page_eq_nil_iff.mp silent
      rw [Page.isDefect_iff_of_window_eq_error refused] at defect
      exact ⟨page, shows, defect ▸ refused⟩
    · cases silent
  · rintro ⟨page, shows, refused⟩
    have failed := (controls.statement_eq_error_iff profile filter).mpr ⟨page, shows, refused⟩
    exact ⟨.page .offsetOverflow, .inl ⟨_, failed, rfl⟩, rfl⟩

/-- A page of a checked profile has its offset, unless the offset does not fit in 64 bits; then neither
the page nor a statement nor a request for it comes about, and nothing else makes a request break off. No
request ever does exactly if the profile keeps its pages to 2147483649 rows. -/
theorem pages_within_reach {profile : Profile} (sound : profile.flaw? = none) :
    (∀ page : Page, page.Allowed profile.pages.maxSize → ¬ page.OutOfReach →
      ∃ window : Window, page.window profile.pages.maxSize = .ok window ∧ window.limit = page.size ∧
        window.offset.toInt = (page.number.toNat - 1) * page.size.toNat) ∧
    (∀ page : Page, page.window profile.pages.maxSize = .error .offsetOverflow ↔
      page.Allowed profile.pages.maxSize ∧ page.OutOfReach) ∧
    (∃ compiler, profile.compiler = .ok compiler ∧ ∀ filter request scope page,
      compiler.page filter request scope page = .error .offsetOverflow ↔
        page.Allowed profile.pages.maxSize ∧ page.OutOfReach) ∧
    (∀ (controls : Controls) filter, BreaksOff (controls.request profile filter) ↔
      ∃ page, controls.Shows profile page ∧ page.Allowed profile.pages.maxSize ∧ page.OutOfReach) ∧
    ((∀ (controls : Controls) filter, ¬ BreaksOff (controls.request profile filter)) ↔
      profile.pages.maxSize ≤ 2147483649) := by
  have breaks := breaksOff_request_iff sound
  refine ⟨fun page allowed near => allowed.exists_window near,
    fun page => Page.window_eq_offsetOverflow_iff, ?_, breaks, ?_⟩
  · obtain ⟨compiler, made, same⟩ := Profile.exists_compiler sound
    refine ⟨compiler, made, fun filter request scope page => ?_⟩
    rw [← same, compiler.page_eq_error_iff]
    exact Page.window_eq_offsetOverflow_iff
  · rw [← Page.forall_not_outOfReach_iff]
    constructor
    · intro safe page allowed beyond
      let controls : Controls := { page := some page.number, pageSize := some page.size }
      have shows : controls.Shows profile page := ⟨⟨rfl, rfl⟩, rfl⟩
      exact safe controls {} ((breaks controls {}).mpr ⟨page, shows, allowed, beyond⟩)
    · intro near controls filter broken
      obtain ⟨page, -, allowed, beyond⟩ := (breaks controls filter).mp broken
      exact near page allowed beyond

theorem pages_within_reach_last :
    (({ pages := { maxSize := 2147483649 } } : Profile).flaw? = none ∧
      Page.Allowed ⟨4294967295, 2147483649⟩ 2147483649 ∧
      ¬ Page.OutOfReach ⟨4294967295, 2147483649⟩) ∧
    ∃ window : Window, Page.window ⟨4294967295, 2147483649⟩ 2147483649 = .ok window ∧
      window.limit = 2147483649 ∧ window.offset.toInt = 9223372036854775806 := by
  have sound : ({ pages := { maxSize := 2147483649 } } : Profile).flaw? = none := by decide
  have allowed : Page.Allowed ⟨4294967295, 2147483649⟩ 2147483649 :=
    ⟨by decide, by decide, by decide⟩
  have near : ¬ Page.OutOfReach ⟨4294967295, 2147483649⟩ := by decide
  exact ⟨⟨sound, allowed, near⟩, (pages_within_reach sound).1 _ allowed near⟩

/-- One row more on each page, and the last page is out of reach: the profile is in order, and a request
for the page breaks off. -/
theorem not_pages_within_reach_larger :
    ({ pages := { maxSize := 4294967295 } } : Profile).flaw? = none ∧
      Page.Allowed ⟨4294967295, 2147483650⟩ 4294967295 ∧
      Page.window ⟨4294967295, 2147483650⟩ 4294967295 = .error .offsetOverflow ∧
      BreaksOff (Controls.request { page := some 4294967295, pageSize := some 2147483650 }
        { pages := { maxSize := 4294967295 } } {}) := by
  have sound : ({ pages := { maxSize := 4294967295 } } : Profile).flaw? = none := by decide
  have allowed : Page.Allowed ⟨4294967295, 2147483650⟩ 4294967295 :=
    ⟨by decide, by decide, by decide⟩
  have beyond : Page.OutOfReach ⟨4294967295, 2147483650⟩ := by decide
  refine ⟨sound, allowed, Page.window_eq_offsetOverflow_iff.mpr ⟨allowed, beyond⟩, ?_⟩
  exact (breaksOff_request_iff sound _ _).mpr ⟨_, ⟨⟨rfl, rfl⟩, rfl⟩, allowed, beyond⟩

end Command

end LogSieve

import LogSieve.Proofs.Admission
import LogSieve.Proofs.PageOffsets

/-! What a checked profile promises. The check of a profile, its compiler, the bounds of a page and the
read-only check know nothing of each other; yet what the first lets through the others never hold against
the profile's own settings. -/

namespace LogSieve

namespace Profile
variable {profile : Profile}

theorem flaw?_of_ofFile {path : String} {file : Except ReadFailure String}
    (loaded : ofFile path file = .ok profile) : profile.flaw? = none := by
  unfold ofFile ofText at loaded
  split at loaded
  next => cases loaded
  next =>
    split at loaded
    next => cases loaded
    next =>
      split at loaded
      next => cases loaded
      next =>
        split at loaded
        next => cases loaded
        next sound =>
          cases loaded
          exact sound

theorem table_of_compiler {compiler : Sql.Compiler} (made : profile.compiler = .ok compiler) :
    compiler.table = profile.table := by
  unfold Profile.compiler at made
  split at made
  next => cases made
  next =>
    cases made
    rfl

end Profile

namespace Sql

def Error.isPaging : Error → Bool
  | badPage _ | badPageSize _ _ => true
  | _ => false

theorem Page.isPaging_iff_of_window_eq_error {page : Page} {maxSize : UInt32} {error : Error}
    (failed : page.window maxSize = .error error) :
    error.isPaging = true ↔ ¬ page.Allowed maxSize := by
  rcases window_eq_error_iff.mp failed with ⟨uncounted, rfl⟩ | ⟨-, missized, rfl⟩ | ⟨allowed, -, rfl⟩
  · exact iff_of_true rfl fun allowed => allowed.counted uncounted
  · exact iff_of_true rfl fun allowed => allowed.sized missized
  · exact iff_of_false nofun (not_not_intro allowed)

theorem Page.allowed_defaultSize {profile : Profile} (sound : profile.flaw? = none) {number : UInt32}
    (counted : number ≠ 0) : Page.Allowed ⟨number, profile.pages.defaultSize⟩ profile.pages.maxSize :=
  have checked := Profile.flaw?_eq_none_iff.mp sound
  ⟨counted, checked.sized, checked.limited⟩

namespace Compiler.Emits
variable {compiler : Compiler} {filter : Filter} {scope : Option String} {statement : Statement}

theorem isPaging_of_ofStatement_eq_error (emitted : compiler.Emits filter scope statement)
    {limit : UInt32} {error : Error} (refused : Request.ofStatement statement limit = .error error) :
    error.isPaging = false := by
  rw [Request.ofStatement, emitted.checkReadOnly_eq] at refused
  split at refused
  next =>
    cases refused
    rfl
  next => cases refused

theorem exists_request (emitted : compiler.Emits filter scope statement)
    (free : compiler.table.isReserved = false) (limit : UInt32) :
    ∃ request, Request.ofStatement statement limit = .ok request := by
  rw [Request.ofStatement, emitted.checkReadOnly_eq, free]
  exact ⟨_, rfl⟩

end Compiler.Emits

end Sql

namespace Command
open Sql

def Failure.cause? : Failure → Option Error
  | .page cause | .rejected cause => some cause
  | .profile _ | .tooLongAgo => none

/-- The request is refused for the page it asks for. -/
def FailsOnPaging (outcome : Except Failure Request) : Prop :=
  ∃ failure, outcome = .error failure ∧ failure.cause?.any Error.isPaging = true

def Controls.paged (controls : Controls) (number : UInt32) (size : Option UInt32) : Controls :=
  { controls with count := false, histogram := false, page := some number, pageSize := size }

theorem Controls.shows_paged_iff (controls : Controls) (profile : Profile) (number : UInt32)
    (size : Option UInt32) {page : Page} : (controls.paged number size).Shows profile page ↔
      page = ⟨number, size.getD profile.pages.defaultSize⟩ := by
  constructor
  · intro shows
    exact (Option.some.inj shows.wanted).symm
  · rintro rfl
    exact ⟨⟨rfl, rfl⟩, rfl⟩

theorem Controls.listed_of_shows {controls : Controls} {profile : Profile} {page : Page}
    (shows : controls.Shows profile page) :
    ¬ (controls.count = true ∨ controls.histogram = true ∨
      controls.page = none ∧ controls.pageSize = none) := by
  rintro (counting | binning | ⟨unnumbered, unsized⟩)
  · simp [shows.listed.1] at counting
  · simp [shows.listed.2] at binning
  · have wanted := shows.wanted
    simp [wantedPage?, unnumbered, unsized] at wanted

section
variable {profile : Profile} (sound : profile.flaw? = none) (controls : Controls) (filter : Filter)
include sound

/-- A request is refused for its page exactly where it shows a page that is not allowed. -/
theorem failsOnPaging_request_iff : FailsOnPaging (controls.request profile filter) ↔
    ∃ page, controls.Shows profile page ∧ ¬ page.Allowed profile.pages.maxSize := by
  obtain ⟨compiler, made, same⟩ := Profile.exists_compiler sound
  simp only [FailsOnPaging, controls.request_eq_error_iff profile filter made, ← same]
  constructor
  · rintro ⟨_, ⟨error, failed, rfl⟩ | ⟨statement, compiled, error, refused, rfl⟩, paging⟩
    · obtain ⟨page, shows, failed⟩ := (controls.statement_eq_error_iff profile filter).mp failed
      exact ⟨page, shows, (Page.isPaging_iff_of_window_eq_error failed).mp paging⟩
    · have emitted := Controls.statement_emitted compiled
      have silent := emitted.isPaging_of_ofStatement_eq_error refused
      exact absurd (silent.symm.trans paging) Bool.false_ne_true
  · rintro ⟨page, shows, refused⟩
    cases outcome : page.window compiler.maxPageSize with
    | error error =>
      have failed := (controls.statement_eq_error_iff profile filter).mpr ⟨page, shows, outcome⟩
      have paging := (Page.isPaging_iff_of_window_eq_error outcome).mpr refused
      exact ⟨.page error, .inl ⟨error, failed, rfl⟩, paging⟩
    | ok window => exact absurd (Page.window_eq_ok_iff.mp outcome).1 refused

theorem failsOnPaging_paged_iff (number : UInt32) (size : Option UInt32) :
    FailsOnPaging ((controls.paged number size).request profile filter) ↔
      ¬ Page.Allowed ⟨number, size.getD profile.pages.defaultSize⟩ profile.pages.maxSize := by
  rw [failsOnPaging_request_iff sound]
  simp only [controls.shows_paged_iff profile, exists_eq_left]

/-- Only a table named like a forbidden keyword keeps a page that is allowed and within reach from
being asked for. -/
theorem exists_request_of_shows {page : Page} (shows : controls.Shows profile page)
    (allowed : page.Allowed profile.pages.maxSize) (near : ¬ page.OutOfReach)
    (free : profile.table.isReserved = false) :
    ∃ request, controls.request profile filter = .ok request := by
  obtain ⟨compiler, made, same⟩ := Profile.exists_compiler sound
  cases outcome : controls.request profile filter with
  | ok request => exact ⟨request, rfl⟩
  | error failure =>
    rcases (controls.request_eq_error_iff profile filter made).mp outcome with
      ⟨error, failed, -⟩ | ⟨statement, compiled, error, refused, -⟩
    · obtain ⟨other, asked, failed⟩ := (controls.statement_eq_error_iff profile filter).mp failed
      obtain rfl := Option.some.inj (shows.wanted.symm.trans asked.wanted)
      rw [same, allowed.window_eq, if_neg near] at failed
      cases failed
    · have emitted := Controls.statement_emitted compiled
      rw [← Profile.table_of_compiler made] at free
      obtain ⟨request, admitted⟩ := emitted.exists_request free profile.rowLimit
      rw [admitted] at refused
      cases refused

end

/-- A profile that has been checked can be worked with. It has a compiler; a count, a histogram and the
plain rows are never refused for a page; a page of the usual size is not either if it is counted, and
there is a request for it unless it lies out of reach or the table is named like a forbidden keyword. A
page with a number and a size is refused exactly for the number zero, for no rows and for too many. -/
theorem checked_profile_usable {profile : Profile} (sound : profile.flaw? = none) :
    (∃ compiler, profile.compiler = .ok compiler) ∧
    ∀ (controls : Controls) (filter : Filter),
      (controls.count = true ∨ controls.histogram = true ∨
          controls.page = none ∧ controls.pageSize = none →
        ¬ FailsOnPaging (controls.request profile filter)) ∧
      (∀ number : UInt32, number ≠ 0 →
        ¬ FailsOnPaging ((controls.paged number none).request profile filter) ∧
        (¬ Page.OutOfReach ⟨number, profile.pages.defaultSize⟩ → profile.table.isReserved = false →
          ∃ request, (controls.paged number none).request profile filter = .ok request)) ∧
      ∀ number size : UInt32,
        FailsOnPaging ((controls.paged number (some size)).request profile filter) ↔
          number = 0 ∨ size = 0 ∨ profile.pages.maxSize < size := by
  obtain ⟨compiler, made, -⟩ := Profile.exists_compiler sound
  refine ⟨⟨compiler, made⟩, fun controls filter => ⟨fun unpaged failed => ?_, fun number counted => ?_,
    fun number size => ?_⟩⟩
  · obtain ⟨page, shows, -⟩ := (failsOnPaging_request_iff sound controls filter).mp failed
    exact Controls.listed_of_shows shows unpaged
  · have allowed := Page.allowed_defaultSize sound counted
    refine ⟨fun failed => (failsOnPaging_paged_iff sound controls filter number none).mp failed allowed,
      fun near free => ?_⟩
    have shows := (controls.shows_paged_iff profile number none).mpr rfl
    exact exists_request_of_shows sound _ filter shows allowed near free
  · exact (failsOnPaging_paged_iff sound controls filter number (some size)).trans Page.not_allowed_iff

/-- A file that allows no more rows on a page than the usual ones: the last page can be asked for, and one
row more is refused. -/
theorem checked_profile_usable_file :
    Profile.ofFile "base.toml" (.ok "pagination.max_page_size = 50") = .ok { pages := ⟨50, 50⟩ } ∧
      (∃ request, (({} : Controls).paged 4294967295 none).request { pages := ⟨50, 50⟩ } {} =
        .ok request) ∧
      FailsOnPaging ((({} : Controls).paged 1 (some 51)).request { pages := ⟨50, 50⟩ } {}) := by
  have loaded : Profile.ofFile "base.toml" (.ok "pagination.max_page_size = 50") =
      .ok { pages := ⟨50, 50⟩ } := by cbv
  obtain ⟨-, usable⟩ := checked_profile_usable (Profile.flaw?_of_ofFile loaded)
  obtain ⟨-, usual, sized⟩ := usable {} {}
  have last : (4294967295 : UInt32) ≠ 0 := by decide
  have near : ¬ Page.OutOfReach ⟨4294967295, 50⟩ := by decide
  have large : (50 : UInt32) < 51 := by decide
  exact ⟨loaded, (usual 4294967295 last).2 near (by decide), (sized 1 51).mpr (.inr (.inr large))⟩

end Command

end LogSieve

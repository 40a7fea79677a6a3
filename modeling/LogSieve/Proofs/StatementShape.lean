import Mathlib.Data.List.Forall2
import LogSieve.Proofs.InlinedStatement

/-! The text of a statement owes nothing to the values that it binds. Two runs of the compiler go side
by side: a step appends what the shape of its condition tells, so that two requests of one shape are
compiled to one text. -/

namespace LogSieve.Sql

/-- What may be seen of a predicate: its form, and of alternatives how many there are. -/
inductive PredicateShape where
  | single
  | anyOf (count : Nat)
  deriving DecidableEq

def predicateShape : Filter.Predicate → PredicateShape
  | .single _ => .single
  | .anyOf literals => .anyOf literals.length

/-- Which constraints a request has, and how many values each of them holds. -/
structure Shape where
  scope : Bool
  methods : Nat
  statuses : Nat
  crawler : Option PredicateShape
  path : Option PredicateShape
  start : Bool
  stop : Bool
  deriving DecidableEq

def shape (filter : Filter) (scope : Option String) : Shape :=
  { scope := scope.isSome
    methods := filter.method.toList.length
    statuses := filter.status.toList.length
    crawler := filter.crawler.map predicateShape
    path := filter.path.map predicateShape
    start := filter.time.start.isSome
    stop := filter.time.stop.isSome }

/-- Conditions on one column that differ in their values only. -/
inductive Condition.Alike : Condition → Condition → Prop where
  | inScope (left right : String) : Alike (.inScope left) (.inScope right)
  | among (column : Column) {left right : List Value} (count : left.length = right.length) :
      Alike (.among column left) (.among column right)
  | holds (column : Column) {left right : Filter.Predicate}
      (form : predicateShape left = predicateShape right) :
      Alike (.holds column left) (.holds column right)
  | atLeast (column : Column) (left right : String) :
      Alike (.atLeast column left) (.atLeast column right)
  | atMost (column : Column) (left right : String) :
      Alike (.atMost column left) (.atMost column right)

section
variable {α : Type} {make : α → Condition} {left right : Option α}

private theorem rel_map (present : left.isSome = right.isSome)
    (alike : ∀ first ∈ left, ∀ second ∈ right, (make first).Alike (make second)) :
    Option.Rel Condition.Alike (left.map make) (right.map make) := by
  cases left with
  | none =>
    cases right with
    | none => exact .none
    | some second => cases present
  | some first =>
    cases right with
    | none => cases present
    | some second => exact .some (alike first rfl second rfl)

private theorem rel_map_holds {left right : Option Filter.Predicate} (column : Column)
    (form : left.map predicateShape = right.map predicateShape) :
    Option.Rel Condition.Alike (left.map (.holds column)) (right.map (.holds column)) := by
  apply rel_map
  · simpa using congrArg Option.isSome form
  · rintro first ⟨⟩ second ⟨⟩
    exact .holds column (Option.some.inj form)

end

private theorem rel_amongAny (column : Column) {left right : List Value}
    (count : left.length = right.length) :
    Option.Rel Condition.Alike (amongAny column left) (amongAny column right) := by
  cases left with
  | nil =>
    have empty : right = [] := List.length_eq_zero_iff.mp count.symm
    subst empty
    exact .none
  | cons first left =>
    obtain ⟨second, right, rfl⟩ := List.exists_cons_of_length_eq_add_one count.symm
    exact .some (.among column count)

private theorem forall₂_filterMap {lefts rights : List (Option Condition)}
    (related : List.Forall₂ (Option.Rel Condition.Alike) lefts rights) :
    List.Forall₂ Condition.Alike (lefts.filterMap id) (rights.filterMap id) := by
  induction related with
  | nil => exact .nil
  | cons first rest ih =>
    cases first with
    | none => exact ih
    | some alike => exact .cons alike ih

/-- Requests of one shape ask for alike conditions in the same order. -/
theorem conditions_alike {left right : Filter} {scope scope' : Option String}
    (same : shape left scope = shape right scope') :
    List.Forall₂ Condition.Alike (conditions left scope) (conditions right scope') := by
  simp only [shape, Shape.mk.injEq] at same
  obtain ⟨located, methods, statuses, crawler, path, start, stop⟩ := same
  apply forall₂_filterMap
  refine .cons ?_ (.cons ?_ (.cons ?_ (.cons ?_ (.cons ?_ (.cons ?_ (.cons ?_ .nil))))))
  · exact rel_map located fun first _ second _ => .inScope first second
  · exact rel_amongAny .method (by simpa using methods)
  · exact rel_amongAny .status (by simpa using statuses)
  · exact rel_map_holds .crawlerName crawler
  · exact rel_map_holds .path path
  · exact rel_map start fun first _ second _ => .atLeast .time first second
  · exact rel_map stop fun first _ second _ => .atMost .time first second

namespace Draft

structure Alike (left right : Draft) : Prop where
  text : left.text = right.text
  filtered : left.filtered = right.filtered

namespace Alike
variable {left right : Draft}

theorem sql (alike : left.Alike right) (fragment : String) :
    (left.sql fragment).Alike (right.sql fragment) :=
  ⟨congrArg (· ++ fragment) alike.text, alike.filtered⟩

theorem bind (alike : left.Alike right) (first second : Value) :
    (left.bind first).Alike (right.bind second) :=
  ⟨congrArg (· ++ "?") alike.text, alike.filtered⟩

theorem bindItems (alike : left.Alike right) {firsts seconds : List Value}
    (count : firsts.length = seconds.length) :
    (left.bindItems firsts).Alike (right.bindItems seconds) := by
  fun_induction Draft.bindItems left firsts generalizing right seconds with
  | case1 left =>
    have empty : seconds = [] := List.length_eq_zero_iff.mp count.symm
    subst empty
    exact alike
  | case2 left first =>
    obtain ⟨second, rfl⟩ := List.length_eq_one_iff.mp count.symm
    exact alike.bind first second
  | case3 left first firsts more ih =>
    obtain ⟨second, seconds, rfl⟩ := List.exists_cons_of_length_eq_add_one count.symm
    have rest : firsts.length = seconds.length := Nat.succ.inj count
    have further : seconds ≠ [] := by
      rintro rfl
      exact more (List.length_eq_zero_iff.mp rest)
    rw [Draft.bindItems.eq_3 _ _ _ further]
    exact ih ((alike.bind first second).sql ", ") rest

theorem bindList (alike : left.Alike right) {firsts seconds : List Value}
    (count : firsts.length = seconds.length) :
    (left.bindList firsts).Alike (right.bindList seconds) :=
  ((alike.sql "(").bindItems count).sql ")"

theorem openCondition (alike : left.Alike right) : left.openCondition.Alike right.openCondition := by
  unfold Draft.openCondition
  rw [← alike.filtered]
  split
  · exact alike.sql " AND "
  · exact ⟨(alike.sql " WHERE ").text, rfl⟩

theorem like (alike : left.Alike right) (escape : Bool) (column : Column) (first second : String) :
    (left.like escape column first).Alike (right.like escape column second) := by
  have pattern := ((alike.sql column.name).sql " LIKE ").bind
    (.text (containsPattern escape first)) (.text (containsPattern escape second))
  cases escape with
  | true => exact pattern.sql " ESCAPE '\\'"
  | false => exact pattern

theorem likeAny (alike : left.Alike right) (escape : Bool) (column : Column)
    {firsts seconds : List String} (count : firsts.length = seconds.length) :
    (left.likeAny escape column firsts).Alike (right.likeAny escape column seconds) := by
  fun_induction Draft.likeAny left escape column firsts generalizing right seconds with
  | case1 left =>
    have empty : seconds = [] := List.length_eq_zero_iff.mp count.symm
    subst empty
    exact alike
  | case2 left first =>
    obtain ⟨second, rfl⟩ := List.length_eq_one_iff.mp count.symm
    exact alike.like escape column first second
  | case3 left first firsts more ih =>
    obtain ⟨second, seconds, rfl⟩ := List.exists_cons_of_length_eq_add_one count.symm
    have rest : firsts.length = seconds.length := Nat.succ.inj count
    have further : seconds ≠ [] := by
      rintro rfl
      exact more (List.length_eq_zero_iff.mp rest)
    rw [Draft.likeAny.eq_3 _ _ _ _ _ further]
    exact ih ((alike.like escape column first second).sql " OR ") rest

theorem condition (alike : left.Alike right) (escape : Bool) {first second : Condition}
    (same : first.Alike second) : (left.condition escape first).Alike (right.condition escape second) := by
  cases same with
  | inScope first second => exact (alike.sql _).bind (.text first) (.text second)
  | among column count => exact ((alike.sql column.name).sql " IN ").bindList count
  | @holds column first second form =>
    cases first with
    | single first =>
      cases second with
      | single second => exact alike.like escape column first second
      | anyOf seconds => cases form
    | anyOf firsts =>
      cases second with
      | single second => cases form
      | anyOf seconds =>
        have count : firsts.length = seconds.length := PredicateShape.anyOf.inj form
        exact ((alike.sql "(").likeAny escape column count).sql ")"
  | atLeast column first second => exact (alike.sql _).bind (.text first) (.text second)
  | atMost column first second => exact (alike.sql _).bind (.text first) (.text second)

theorem conditions (alike : left.Alike right) (escape : Bool) {firsts seconds : List Condition}
    (same : List.Forall₂ Condition.Alike firsts seconds) :
    (left.conditions escape firsts).Alike (right.conditions escape seconds) := by
  induction same generalizing left right with
  | nil => exact alike
  | cons first rest ih => exact ih (alike.openCondition.condition escape first)

end Alike

end Draft

namespace Compiler
variable {left right : Filter} {scope scope' : Option String}

theorem select_alike (compiler : Compiler) (selection : String)
    (same : shape left scope = shape right scope') :
    (compiler.select selection left scope).Alike (compiler.select selection right scope') := by
  have start : ({} : Draft).Alike {} := ⟨rfl, rfl⟩
  have opening := (start.sql ("SELECT " ++ selection ++ " FROM ")).sql compiler.table.name
  exact opening.conditions compiler.escapeWildcards (conditions_alike same)

theorem sortedRows_alike (compiler : Compiler) {request request' : SortRequest}
    (same : shape left scope = shape right scope')
    (order : request.resolveWith compiler.defaultSort = request'.resolveWith compiler.defaultSort) :
    (compiler.sortedRows left request scope).Alike (compiler.sortedRows right request' scope') := by
  unfold sortedRows
  rw [order]
  have rows := (compiler.select_alike "*" same).sql " ORDER BY "
  exact ((rows.sql _).sql " ").sql _

def windowed (compiler : Compiler) (filter : Filter) (request : SortRequest) (scope : Option String)
    (window : Window) : Draft :=
  let draft := (compiler.sortedRows filter request scope).sql " LIMIT "
  let draft := (draft.bind (.integer (Int64.ofNat window.limit.toNat))).sql " OFFSET "
  draft.bind (.integer window.offset)

theorem page_eq (compiler : Compiler) (filter : Filter) (request : SortRequest)
    (scope : Option String) (page : Page) : compiler.page filter request scope page =
      (page.window compiler.maxPageSize).map fun window =>
        (compiler.windowed filter request scope window).finish := by
  unfold Compiler.page
  cases page.window compiler.maxPageSize with
  | error error => rfl
  | ok window => rfl

theorem windowed_alike (compiler : Compiler) {request request' : SortRequest}
    (same : shape left scope = shape right scope')
    (order : request.resolveWith compiler.defaultSort = request'.resolveWith compiler.defaultSort)
    (window window' : Window) : (compiler.windowed left request scope window).Alike
      (compiler.windowed right request' scope' window') := by
  have rows := (compiler.sortedRows_alike same order).sql " LIMIT "
  exact ((rows.bind _ _).sql " OFFSET ").bind _ _

/-- Whatever is bound, requests of one shape and one resolved order have one text, in every kind of
statement. A page is refused or not without regard to them, and its own numbers are bound as well. -/
theorem text_eq_of_shape_eq (compiler : Compiler) (same : shape left scope = shape right scope') :
    (compiler.count left scope).text = (compiler.count right scope').text ∧
    (∀ bucket, (compiler.histogram left scope bucket).text =
      (compiler.histogram right scope' bucket).text) ∧
    ∀ request request' : SortRequest,
      request.resolveWith compiler.defaultSort = request'.resolveWith compiler.defaultSort →
      (compiler.rows left request scope).text = (compiler.rows right request' scope').text ∧
      (∀ page, (compiler.page left request scope page).map Statement.text =
        (compiler.page right request' scope' page).map Statement.text) ∧
      ∀ page page' statement statement', compiler.page left request scope page = .ok statement →
        compiler.page right request' scope' page' = .ok statement' →
        statement.text = statement'.text := by
  refine ⟨(compiler.select_alike _ same).text, ?_, ?_⟩
  · intro bucket
    exact ((compiler.select_alike _ same).sql " GROUP BY bucket ORDER BY bucket ASC").text
  · intro request request' order
    refine ⟨(compiler.sortedRows_alike same order).text, ?_, ?_⟩
    · intro page
      rw [page_eq, page_eq]
      cases page.window compiler.maxPageSize with
      | error error => rfl
      | ok window => exact congrArg Except.ok (compiler.windowed_alike same order window window).text
    · intro page page' statement statement' first second
      rw [page_eq] at first second
      cases found : page.window compiler.maxPageSize with
      | error error => simp [found, Except.map] at first
      | ok window =>
        cases found' : page'.window compiler.maxPageSize with
        | error error => simp [found', Except.map] at second
        | ok window' =>
          rw [found] at first
          rw [found'] at second
          cases first
          cases second
          exact (compiler.windowed_alike same order window window').text

/-- Values with the look of code stand for others of the same number; so does an unknown column. -/
theorem text_eq_of_shape_eq_hostile :
    shape { method := .ofList ["GET", "POST"], path := some (.anyOf ["/a", "/b"]) } (some "7") =
      shape { method := .ofList ["?", "') OR 1 = 1 --"], path := some (.anyOf ["%'", "' OR '"]) }
        (some "'; DROP TABLE access_logs; --") ∧
    (rows ⟨default, true, 500, .latestFirst⟩
        { method := .ofList ["GET", "POST"], path := some (.anyOf ["/a", "/b"]) } {} (some "7")).text =
      (rows ⟨default, true, 500, .latestFirst⟩
        { method := .ofList ["?", "') OR 1 = 1 --"], path := some (.anyOf ["%'", "' OR '"]) }
        { column := some "time; DROP TABLE access_logs" }
        (some "'; DROP TABLE access_logs; --")).text := by
  have same : shape { method := .ofList ["GET", "POST"], path := some (.anyOf ["/a", "/b"]) } (some "7") =
      shape { method := .ofList ["?", "') OR 1 = 1 --"], path := some (.anyOf ["%'", "' OR '"]) }
        (some "'; DROP TABLE access_logs; --") := by decide
  exact ⟨same, ((text_eq_of_shape_eq ⟨default, true, 500, .latestFirst⟩ same).2.2 {}
    { column := some "time; DROP TABLE access_logs" } (by decide)).1⟩

end Compiler

end LogSieve.Sql

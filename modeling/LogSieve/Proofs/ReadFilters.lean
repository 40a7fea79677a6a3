import Mathlib.Data.List.DropRight
import LogSieve.Filter.Warning
import LogSieve.Proofs.Conjunction
import LogSieve.Proofs.RegularFilters
import LogSieve.Proofs.TimeBounds
import LogSieve.Proofs.WordOperators

/-! What a text can say. Reading passes over whatever does not fit, so that what it puts into a filter
has been checked before: methods are known ones, literals are words of the text or their ends, and
bounds have no colon at either end. -/

namespace LogSieve

namespace Filter
open Text Grammar

theorem solid_of_mem_words {text : List Char} {word : Word} (member : word ∈ words text) :
    Solid word := by
  refine ⟨ne_nil_of_mem_runs member, ?_⟩
  intro c inside
  simpa using inClass_of_mem_runs member c inside

theorem mem_of_mem_attach {word other : Word} {part : List Word} {parts : List (List Word)}
    (inside : part ∈ attach word parts) (member : other ∈ part) :
    other = word ∨ ∃ old ∈ parts, other ∈ old := by
  cases parts with
  | nil =>
    obtain rfl := List.mem_singleton.mp inside
    exact .inl (List.mem_singleton.mp member)
  | cons first more =>
    rcases List.mem_cons.mp inside with rfl | later
    · rcases List.mem_cons.mp member with same | before
      · exact .inl same
      · exact .inr ⟨first, List.mem_cons_self, before⟩
    · exact .inr ⟨part, List.mem_cons_of_mem first later, member⟩

theorem mem_of_mem_splitAt {separates : Word → Bool} {whole part : List Word} {word : Word}
    (inside : part ∈ splitAt separates whole) (member : word ∈ part) : word ∈ whole := by
  fun_induction splitAt separates whole generalizing part with
  | case1 =>
    obtain rfl := List.mem_singleton.mp inside
    exact member
  | case2 only =>
    obtain rfl := List.mem_singleton.mp inside
    exact member
  | case3 first next rest cut ih =>
    rcases List.mem_cons.mp inside with rfl | later
    · rw [List.mem_singleton.mp member]
      exact List.mem_cons_self
    · exact List.mem_cons_of_mem _ (List.mem_cons_of_mem _ (ih later member))
  | case4 first next rest uncut ih =>
    rcases mem_of_mem_attach inside member with rfl | ⟨old, among, before⟩
    · exact List.mem_cons_self
    · exact List.mem_cons_of_mem first (ih among before)

theorem afterOperator?_suffix {inside : Bool} {word : Word} {rest : List Char}
    (found : afterOperator? inside word = some rest) : rest <:+ word := by
  obtain ⟨before, sign, rfl, -⟩ := operates_of_afterOperator? found
  exact ⟨before ++ sign, List.append_assoc before sign rest⟩

theorem solid_of_operand? {alternative : List Word} {operand : Word}
    (solid : ∀ word ∈ alternative, Solid word) (found : operand? alternative = some operand) :
    Solid operand := by
  induction alternative with
  | nil => cases found
  | cons word rest ih =>
    rw [operand?] at found
    split at found
    next =>
      exact solid operand (List.mem_cons_of_mem word (List.mem_of_head? found))
    next tail visible behind =>
      obtain rfl := Option.some.inj found
      refine ⟨visible, ?_⟩
      intro c inside
      exact (solid word List.mem_cons_self).noBlank c ((afterOperator?_suffix behind).subset inside)
    next => exact ih (fun other member => solid other (List.mem_cons_of_mem word member)) found

theorem solid_of_literal? {field : Field} {alternative : List Word} {literal : String}
    (solid : ∀ word ∈ alternative, Solid word) (found : literal? field alternative = some literal) :
    Solid literal.toList := by
  unfold literal? at found
  split at found
  next operand read =>
    obtain rfl := Option.some.inj found
    rw [String.toList_ofList]
    exact solid_of_operand? solid read
  next =>
    split at found
    next word _ =>
      split at found
      next => cases found
      next =>
        obtain rfl := Option.some.inj found
        rw [String.toList_ofList]
        exact solid word List.mem_cons_self
    next => cases found

namespace TimeRange

structure Tight (text : List Char) : Prop where
  nonempty : text ≠ []
  opens : text.head nonempty ≠ ':'
  closes : text.getLast nonempty ≠ ':'

/-- What every bound from a text looks like. -/
structure Spelled (text : List Char) : Prop extends Tight text where
  times : ∀ c ∈ text, isTimeChar c = true

theorem getLast_dropEndColons {text : List Char} (kept : dropEndColons text ≠ []) :
    (dropEndColons text).getLast kept ≠ ':' := by
  intro colon
  exact List.rdropWhile_last_not (· == ':') text kept (beq_iff_eq.mpr colon)

theorem tight_dropEndColons {text : List Char} (nonempty : text ≠ [])
    (opens : text.head nonempty ≠ ':') : Tight (dropEndColons text) := by
  have kept : dropEndColons text ≠ [] := by
    intro empty
    have all := List.rdropWhile_eq_nil_iff.mp empty (text.head nonempty) (List.head_mem nonempty)
    exact opens (beq_iff_eq.mp all)
  refine ⟨kept, ?_, getLast_dropEndColons kept⟩
  have first := (List.rdropWhile_prefix (· == ':') text).head kept
  exact first.trans_ne opens

theorem tight_dropWhile {rest : List Char}
    (closes : (':' :: rest).getLast (List.cons_ne_nil ':' rest) ≠ ':') :
    Tight (rest.dropWhile (· == ':')) := by
  have kept : rest.dropWhile (· == ':') ≠ [] := by
    intro empty
    have all := List.dropWhile_eq_nil_iff.mp empty
    apply closes
    rcases List.mem_cons.mp (List.getLast_mem (List.cons_ne_nil ':' rest)) with last | last
    · exact last
    · exact beq_iff_eq.mp (all _ last)
  refine ⟨kept, ?_, ?_⟩
  · have stopped := List.head_dropWhile_not (· == ':') kept
    exact beq_eq_false_iff_ne.mp stopped
  · have inside := (List.dropWhile_suffix (· == ':')).trans (List.suffix_cons ':' rest)
    exact (inside.getLast kept).trans_ne closes

theorem beginsWithYear_of_splitAtYear? {token before after : List Char}
    (parted : splitAtYear? token = some (before, after)) : beginsWithYear after = true := by
  induction token generalizing before with
  | nil => cases parted
  | cons c rest ih =>
    rw [splitAtYear?] at parted
    split at parted
    next here =>
      obtain ⟨-, rfl⟩ := Prod.mk.inj (Option.some.inj parted)
      exact (Bool.and_eq_true_iff.mp here).2
    next =>
      obtain ⟨⟨left, right⟩, below, same⟩ := Option.map_eq_some_iff.mp parted
      obtain ⟨-, rfl⟩ := Prod.mk.inj same
      exact ih below

theorem tight_of_beginsWithYear {text : List Char} (year : beginsWithYear text = true)
    (closes : ∀ nonempty : text ≠ [], text.getLast nonempty ≠ ':') : Tight text := by
  unfold beginsWithYear at year
  split at year
  next a b c d rest =>
    refine ⟨List.cons_ne_nil a _, ?_, closes _⟩
    rintro rfl
    cases (Bool.and_eq_true_iff.mp year).1
  next => cases year

def bounds (range : TimeRange) : List String := range.start.toList ++ range.stop.toList

theorem forall_bounds {property : String → Prop} {range : TimeRange} :
    (∀ bound ∈ range.bounds, property bound) ↔
      (∀ start ∈ range.start, property start) ∧ ∀ stop ∈ range.stop, property stop := by
  simp only [bounds, List.forall_mem_append, Option.mem_toList, Option.mem_def]

theorem forall_bounds_override {property : String → Prop} {range later : TimeRange}
    (kept : ∀ bound ∈ range.bounds, property bound)
    (replacing : ∀ bound ∈ later.bounds, property bound) :
    ∀ bound ∈ (range.override later).bounds, property bound := by
  rw [forall_bounds] at *
  exact ⟨forall_mem_or replacing.1 kept.1, forall_mem_or replacing.2 kept.2⟩

theorem tight_of_ofOperand? {operand : List Char} {range : TimeRange}
    (found : ofOperand? operand = some range) : ∀ bound ∈ range.bounds, Tight bound.toList := by
  unfold ofOperand? at found
  have closes := @getLast_dropEndColons (operand.takeWhile isTimeChar)
  generalize dropEndColons (operand.takeWhile isTimeChar) = token at found closes
  rw [forall_bounds]
  split at found
  next => cases found
  next rest =>
    cases found
    refine ⟨nofun, ?_⟩
    rintro _ ⟨⟩
    rw [String.toList_ofList]
    exact tight_dropWhile (closes _)
  next _ visible bare =>
    have opens (nonempty : token ≠ []) : token.head nonempty ≠ ':' := by
      intro colon
      exact bare token.tail (colon ▸ (List.cons_head_tail nonempty).symm)
    split at found
    next before after parted =>
      cases found
      obtain rfl := splitAtYear?_append parted
      have started : before ≠ [] := by
        rintro rfl
        exact bare after rfl
      constructor
      · rintro _ ⟨⟩
        rw [String.toList_ofList]
        apply tight_dropEndColons started
        have first := (List.prefix_append before (':' :: after)).head started
        exact first.trans_ne (opens _)
      · rintro _ ⟨⟩
        rw [String.toList_ofList]
        apply tight_of_beginsWithYear (beginsWithYear_of_splitAtYear? parted)
        intro nonempty
        have inside := (List.suffix_cons ':' after).trans (List.suffix_append before (':' :: after))
        exact (inside.getLast nonempty).trans_ne (closes _)
    next =>
      cases found
      refine ⟨?_, nofun⟩
      rintro _ ⟨⟩
      rw [String.toList_ofList]
      exact ⟨visible, opens visible, closes visible⟩

end TimeRange

/-- What a text can put into a filter. -/
structure Sayable (filter : Filter) : Prop where
  method : ∀ method ∈ filter.method.toList, method ∈ knownMethods
  crawler : ∀ predicate ∈ filter.crawler, ∀ literal ∈ predicate.values, Solid literal.toList
  path : ∀ predicate ∈ filter.path, ∀ literal ∈ predicate.values, Solid literal.toList
  time : ∀ bound ∈ filter.time.bounds, TimeRange.Spelled bound.toList

theorem sayable_empty : ({} : Filter).Sayable := ⟨nofun, nofun, nofun, nofun⟩

theorem mem_knownMethods_of_mem_wordMethods {word : Word} {method : String}
    (member : method ∈ wordMethods word) : method ∈ knownMethods := by
  obtain ⟨run, -, named⟩ := List.mem_filterMap.mp member
  exact List.mem_of_find?_eq_some named

section
variable {clause : List Word}

theorem solid_of_clausePredicate? {field : Field} {predicate : Predicate}
    (solid : ∀ word ∈ clause, Solid word) (named : clausePredicate? field clause = some predicate) :
    ∀ literal ∈ predicate.values, Solid literal.toList := by
  intro literal member
  have values := Predicate.values_ofValues? ((alternatives clause).filterMap (literal? field))
  rw [clausePredicate?] at named
  rw [named, Option.elim_some] at values
  rw [values, OrderedSet.mem_ofList] at member
  obtain ⟨alternative, among, read⟩ := List.mem_filterMap.mp member
  apply solid_of_literal? _ read
  intro word inside
  exact solid word (mem_of_mem_splitAt among inside)

theorem spelled_of_clauseTime? {range : TimeRange} (named : clauseTime? clause = some range) :
    ∀ bound ∈ range.bounds, TimeRange.Spelled bound.toList := by
  obtain ⟨operand, -, found⟩ := Option.bind_eq_some_iff.mp named
  intro bound member
  refine ⟨TimeRange.tight_of_ofOperand? found bound member, ?_⟩
  exact TimeRange.forall_bounds.mpr (TimeRange.within_of_ofOperand? found) bound member

namespace Sayable
variable {filter : Filter}

theorem applyClause (sayable : filter.Sayable) (solid : ∀ word ∈ clause, Solid word) :
    (applyClause filter clause).Sayable := by
  have literals (field : Field) : ∀ predicate ∈ clausePredicate? field clause,
      ∀ literal ∈ predicate.values, Solid literal.toList := by
    intro predicate named
    exact solid_of_clausePredicate? solid named
  unfold Filter.applyClause
  cases clauseField? clause with
  | none => exact sayable
  | some field =>
    cases field with
    | crawler =>
      have crawler := forall_mem_or (literals .crawler) sayable.crawler
      exact ⟨sayable.method, crawler, sayable.path, sayable.time⟩
    | path =>
      have path := forall_mem_or (literals .path) sayable.path
      exact ⟨sayable.method, sayable.crawler, path, sayable.time⟩
    | method =>
      refine ⟨?_, sayable.crawler, sayable.path, sayable.time⟩
      intro method member
      rcases OrderedSet.mem_insertAll.mp member with before | added
      · exact sayable.method method before
      · obtain ⟨word, -, inside⟩ := List.mem_flatMap.mp added
        exact mem_knownMethods_of_mem_wordMethods inside
    | status => exact ⟨sayable.method, sayable.crawler, sayable.path, sayable.time⟩
    | date =>
      refine ⟨sayable.method, sayable.crawler, sayable.path, ?_⟩
      apply TimeRange.forall_bounds_override sayable.time
      cases named : clauseTime? clause with
      | none => exact nofun
      | some range => exact spelled_of_clauseTime? named

theorem foldl_applyClause {clauses : List (List Word)} (sayable : filter.Sayable)
    (solid : ∀ clause ∈ clauses, ∀ word ∈ clause, Solid word) :
    (clauses.foldl Filter.applyClause filter).Sayable := by
  apply List.foldlRecOn clauses Filter.applyClause sayable
  intro current kept clause member
  exact kept.applyClause (solid clause member)

end Sayable

end

theorem sayable_ofText (text : String) : (ofText text).Sayable := by
  apply sayable_empty.foldl_applyClause
  intro clause among word member
  exact solid_of_mem_words (mem_of_mem_splitAt among member)

/-- Only methods that are not known are warned of by name. -/
theorem unknownMethod_mem_warnings {filter : Filter} {method : String} :
    Warning.unknownMethod method ∈ filter.warnings ↔
      method ∈ filter.method.toList ∧ method ∉ knownMethods := by
  rw [warnings, List.mem_append, List.mem_filterMap, List.mem_filterMap]
  constructor
  · rintro (⟨name, present, warned⟩ | ⟨status, -, warned⟩)
    · unfold methodWarning? at warned
      split at warned
      next => cases warned
      next unknown =>
        cases warned
        exact ⟨present, unknown⟩
    · unfold statusWarning? at warned
      split at warned
      next => cases warned
      next => cases warned
  · rintro ⟨present, unknown⟩
    exact .inl ⟨method, present, if_neg unknown⟩

/-- Whatever a text says, reading it gives known methods, of which nobody is warned, predicates of whole
words in regular form, and bounds in the alphabet of times with no colon at either end. -/
theorem ofText_checked (text : String) :
    (∀ method ∈ (ofText text).method.toList, method ∈ knownMethods) ∧
    (∀ method, Warning.unknownMethod method ∉ (ofText text).warnings) ∧
    (∀ predicate, predicate ∈ (ofText text).crawler ∨ predicate ∈ (ofText text).path →
      predicate.Regular ∧ ∀ literal ∈ predicate.values, Solid literal.toList) ∧
    ∀ bound ∈ (ofText text).time.bounds, TimeRange.Spelled bound.toList := by
  have sayable := sayable_ofText text
  have regular := regular_ofText text
  refine ⟨sayable.method, ?_, ?_, sayable.time⟩
  · intro method warned
    obtain ⟨present, unknown⟩ := unknownMethod_mem_warnings.mp warned
    exact unknown (sayable.method method present)
  · rintro predicate (crawler | path)
    · exact ⟨regular.crawler predicate crawler, sayable.crawler predicate crawler⟩
    · exact ⟨regular.path predicate path, sayable.path predicate path⟩

example : ofText "path = /a OR /b OR /a AND method: get fetch AND date = 2024-01-01::2025:x" =
    { path := some (.anyOf ["/a", "/b"]), method := .ofList ["GET"],
      time := ⟨some "2024-01-01", some "2025"⟩ } := by decide +kernel

end Filter

end LogSieve

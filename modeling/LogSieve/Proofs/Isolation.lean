import LogSieve.Proofs.Conjunction
import LogSieve.Proofs.Printing

/-! What the methods of a filter do to its other constraints when the filter is written. Literals that
would not read back are left out, but a method is written as it is. The others are safe from it
as long as no word of it is `and`; which further methods leave them alone is told by their own text. -/

namespace LogSieve.Filter
open Text Grammar

theorem without_method_merge (filter later : Filter) :
    (filter.merge later).without .method = (filter.without .method).merge (later.without .method) := rfl

def said (filter : Filter) (field : Field) : Filter := (filter.clauseText? field).elim {} ofText

theorem words_intercalate_ne_nil {texts : List String} (nonempty : texts ≠ [])
    (settled : ∀ text ∈ texts, Settled text.toList) :
    words (" AND ".intercalate texts).toList ≠ [] := by
  obtain ⟨first, more, rfl⟩ := List.exists_cons_of_ne_nil nonempty
  have present := (settled first List.mem_cons_self).nonempty
  by_cases alone : more = []
  · simpa [alone] using present
  · rw [String.intercalate_cons_of_ne_nil alone, String.toList_append, String.toList_append, words_and]
    simp

theorem ofText_intercalate {texts : List String} (settled : ∀ text ∈ texts, Settled text.toList) :
    ofText (" AND ".intercalate texts) =
      texts.foldr (fun text rest => (ofText text).merge rest) {} := by
  induction texts with
  | nil => rfl
  | cons first more ih =>
    have later : ∀ text ∈ more, Settled text.toList :=
      fun text member => settled text (List.mem_cons_of_mem first member)
    by_cases alone : more = []
    · simp [alone]
    · rw [String.intercalate_cons_of_ne_nil alone,
        ofText_settled_and (settled first List.mem_cons_self) (words_intercalate_ne_nil alone later),
        ih later]
      rfl

/-- A filter whose clauses can be joined is read clause by clause. -/
theorem ofText_toText_eq_foldr {filter : Filter}
    (settled : ∀ field, ∀ text ∈ filter.clauseText? field, Settled text.toList) :
    ofText filter.toText = Field.all.foldr (fun field rest => (filter.said field).merge rest) {} := by
  rw [toText, ofText_intercalate, List.foldr_filterMap]
  · congr 1
    funext field rest
    unfold said
    cases filter.clauseText? field with
    | none => simp
    | some text => rfl
  · intro text member
    obtain ⟨field, -, found⟩ := List.mem_filterMap.mp member
    exact settled field text found

theorem clauseText?_without_method (filter : Filter) {field : Field} (other : field ≠ .method) :
    (filter.without .method).clauseText? field = filter.clauseText? field := by
  cases field with
  | method => exact absurd rfl other
  | _ => rfl

theorem said_without_method (filter : Filter) (field : Field) :
    (filter.without .method).said field = if field = .method then {} else filter.said field := by
  split
  next same => rw [same]; rfl
  next other => rw [said, clauseText?_without_method filter other, said]

/-- Every field but the methods is written in the grammar, where no word of a clause is `and`. -/
theorem whole_clauseText? {filter : Filter} {field : Field} (other : field ≠ .method) {text : String}
    (found : filter.clauseText? field = some text) : Whole isAnd (words text.toList) := by
  have none : ∀ method ∈ (filter.without .method).method.toList, method ∈ knownMethods := by
    intro method member
    cases member
  obtain ⟨values, same⟩ := exists_values (writable_of_written none field)
  rw [← clauseText?_without_method filter other, clauseText?_eq same] at found
  obtain ⟨clause, -, rfl⟩ := Option.map_eq_some_iff.mp found
  rw [String.toList_ofList]
  exact clause.whole

def methodText (methods : OrderedSet String) : String := toText { method := methods }

/-- The text of these methods constrains nothing but methods, and leaves no separator open. -/
structure Contained (methods : OrderedSet String) : Prop where
  own : (ofText (methodText methods)).without .method = {}
  closed : hangs isAnd (words (methodText methods).toList) = false

theorem clauseText?_method (filter : Filter) {text : String}
    (found : filter.clauseText? .method = some text) : methodText filter.method = text := by
  have same : ({ method := filter.method } : Filter).clauseText? .method = some text := found
  have rest (field : Field) (other : field ≠ .method) :
      ({ method := filter.method } : Filter).clauseText? field = none := by
    cases field with
    | method => exact absurd rfl other
    | _ => rfl
  simp [methodText, toText, Field.all, same, rest]

theorem words_methodTerms (first : String) (more : List String) :
    words (" OR ".intercalate ((first :: more).map ("method = " ++ ·))).toList =
      "method".toList :: ['='] :: (words first.toList ++ more.flatMap fun method =>
        ['O', 'R'] :: "method".toList :: ['='] :: words method.toList) := by
  have keyword : Solid "method".toList := ⟨by simp, by simpa using by decide⟩
  have separator : Solid ['O', 'R'] := ⟨by simp, by simpa using by decide⟩
  have sign : Solid ['='] := Solid.sign (by simp)
  have term (method : String) : words ("method = " ++ method).toList =
      "method".toList :: ['='] :: words method.toList := by
    have parts := words_spaced sign "method".toList method.toList
    rw [keyword.words] at parts
    rw [String.toList_append]
    exact parts
  induction more generalizing first with
  | nil => simpa using term first
  | cons next more ih =>
    rw [List.map_cons, String.intercalate_cons_of_ne_nil (by simp), String.toList_append,
      String.toList_append]
    refine (words_spaced separator _ _).trans ?_
    rw [term, ih next]
    simp

theorem methodText_eq {first : String} {more : List String} {methods : OrderedSet String}
    (members : methods.toList = first :: more) :
    methodText methods = " OR ".intercalate ((first :: more).map ("method = " ++ ·)) := by
  refine clauseText?_method { method := methods } ?_
  simp [clauseText?, terms, members]

theorem contained_of_not_and {methods : OrderedSet String}
    (plain : ∀ method ∈ methods.toList, ∀ word ∈ words method.toList, isAnd word = false) :
    Contained methods := by
  cases members : methods.toList with
  | nil =>
    have empty : methods = ∅ := OrderedSet.ext members
    subst empty
    exact ⟨rfl, rfl⟩
  | cons first more =>
    have whole : ∀ word ∈ words (methodText methods).toList, isAnd word = false := by
      rw [members] at plain
      rw [methodText_eq members, words_methodTerms]
      intro word member
      simp only [List.mem_cons, List.mem_append, List.mem_flatMap] at member
      rcases member with rfl | rfl | own | ⟨method, among, rfl | rfl | rfl | own⟩
      · decide
      · decide
      · exact plain first List.mem_cons_self word own
      · decide
      · decide
      · decide
      · exact plain method (List.mem_cons_of_mem first among) word own
    refine ⟨?_, hangs_of_plain whole⟩
    have named : clauseField? (words (methodText methods).toList) = some .method := by
      rw [methodText_eq members, words_methodTerms, clauseField?, alternatives, head?_splitAt]
      decide
    rw [ofText, clauses, splitAt_eq_singleton whole, List.foldl_cons, List.foldl_nil, applyClause, named]
    rfl

theorem Contained.said_method {filter : Filter} (contained : Contained filter.method) :
    (filter.said .method).without .method = {} := by
  unfold said
  cases found : filter.clauseText? .method with
  | none => rfl
  | some text =>
    have own := contained.own
    rw [clauseText?_method filter found] at own
    exact own

theorem Contained.settled {filter : Filter} (contained : Contained filter.method) (field : Field) :
    ∀ text ∈ filter.clauseText? field, Settled text.toList := by
  intro text found
  by_cases same : field = .method
  · subst same
    have closed := contained.closed
    rw [clauseText?_method filter found] at closed
    refine ⟨?_, closed⟩
    cases members : filter.method.toList with
    | nil => simp [clauseText?, terms, members] at found
    | cons first more =>
      rw [← clauseText?_method filter found, methodText_eq members, words_methodTerms]
      exact List.cons_ne_nil _ _
  · exact (whole_clauseText? same found).settled

theorem Contained.kept {filter : Filter} (contained : Contained filter.method) :
    (ofText filter.toText).without .method =
      (ofText (filter.without .method).toText).without .method := by
  have apart : ∀ field, ∀ text ∈ (filter.without .method).clauseText? field, Settled text.toList := by
    intro field text found
    by_cases same : field = .method
    · subst same
      cases found
    · exact (whole_clauseText? same found).settled
  rw [ofText_toText_eq_foldr contained.settled, ofText_toText_eq_foldr apart]
  simp [Field.all, without_method_merge, said_without_method, contained.said_method]

theorem clauseText?_status (filter : Filter) (status : UInt16)
    (single : filter.status = .ofList [status]) :
    filter.clauseText? .status = some ("status = " ++ toString status.toNat) := by
  have members : filter.status.toList = [status] := congrArg OrderedSet.toList single
  simp [clauseText?, terms, members]

theorem toText_status {methods : OrderedSet String} {text : String}
    (found : ({ method := methods } : Filter).clauseText? .method = some text) (status : UInt16) :
    toText { method := methods, status := .ofList [status] } =
      text ++ " AND " ++ ("status = " ++ toString status.toNat) := by
  let filter : Filter := { method := methods, status := .ofList [status] }
  have crawler : filter.clauseText? .crawler = none := rfl
  have path : filter.clauseText? .path = none := rfl
  have method : filter.clauseText? .method = some text := found
  have own := clauseText?_status filter status rfl
  have date : filter.clauseText? .date = none := rfl
  have texts : Field.all.filterMap filter.clauseText? = [text, "status = " ++ toString status.toNat] := by
    simp only [Field.all, List.filterMap_cons, List.filterMap_nil, crawler, path, method, own, date]
  change " AND ".intercalate (Field.all.filterMap filter.clauseText?) = _
  rw [texts, String.intercalate_cons_of_ne_nil (by simp)]
  simp

/-- The other constraints survive next to these methods, whatever they are, exactly if the methods are
contained; and contained they are, if no word of theirs is `and`. -/
theorem kept_iff_contained (methods : OrderedSet String) :
    ((∀ filter : Filter, filter.method = methods → (ofText filter.toText).without .method =
      (ofText (filter.without .method).toText).without .method) ↔ Contained methods) ∧
    ((∀ method ∈ methods.toList, ∀ word ∈ words method.toList, isAnd word = false) →
      Contained methods) := by
  refine ⟨⟨?_, ?_⟩, contained_of_not_and⟩
  · intro kept
    refine ⟨kept { method := methods } rfl, ?_⟩
    by_contra unclosed
    have hanging : hangs isAnd (words (methodText methods).toList) = true := by simpa using unclosed
    obtain ⟨text, found⟩ : ∃ text, ({ method := methods } : Filter).clauseText? .method = some text := by
      cases members : methods.toList with
      | nil =>
        have empty : methods = ∅ := OrderedSet.ext members
        subst empty
        cases hanging
      | cons first more => simp [clauseText?, terms, members]
    obtain ⟨read, lost⟩ := ofText_and_of_hangs hanging
    have same (status : UInt16) :
        read.without .method = (ofText ("status = " ++ toString status.toNat)).without .method := by
      have whole := whole_clauseText? (by decide)
        (clauseText?_status { status := .ofList [status] } status rfl)
      have both := kept { method := methods, status := .ofList [status] } rfl
      rw [toText_status found, ← clauseText?_method { method := methods } found, lost _ whole] at both
      exact both
    have differs : (ofText ("status = " ++ toString (200 : UInt16).toNat)).without .method ≠
        (ofText ("status = " ++ toString (404 : UInt16).toNat)).without .method := by decide +kernel
    exact differs ((same 200).symm.trans (same 404))
  · rintro contained filter rfl
    exact contained.kept

theorem kept_iff_contained_blanks :
    (∀ method ∈ ["GET status = 500", "x OR path contains /y", "band"],
      ∀ word ∈ words method.toList, isAnd word = false) ∧
    (ofText (toText
      { path := some (.single "/z"), status := .ofList [404]
        method := .ofList ["GET status = 500", "x OR path contains /y", "band"] })).without .method =
      (ofText (toText { path := some (.single "/z"), status := .ofList [404] })).without .method := by
  have plain : ∀ method ∈ ["GET status = 500", "x OR path contains /y", "band"],
      ∀ word ∈ words method.toList, isAnd word = false := by decide +kernel
  have exactly := kept_iff_contained (.ofList ["GET status = 500", "x OR path contains /y", "band"])
  exact ⟨plain, exactly.1.mpr (exactly.2 plain)
    { path := some (.single "/z"), status := .ofList [404]
      method := .ofList ["GET status = 500", "x OR path contains /y", "band"] } rfl⟩

/-- A method that ends in `and` takes the statuses away. -/
theorem not_kept_trailing_and :
    (ofText (toText { method := .ofList ["X AND"], status := .ofList [404] })).without .method ≠
      (ofText (toText (({ method := .ofList ["X AND"], status := .ofList [404] } : Filter).without
        .method))).without .method := by
  decide +kernel

/-- It can also bring in a constraint that the filter does not have. -/
example : (ofText (toText { method := .ofList ["GET AND STATUS = 500"] })).status = .ofList [500] := by
  decide +kernel

end LogSieve.Filter

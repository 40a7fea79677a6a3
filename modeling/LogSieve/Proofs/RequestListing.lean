import LogSieve.Proofs.QuotedText
import LogSieve.Report.Text

/-! The values of a request as they are listed. Whatever stands in a text, its value takes one line, and
the line says which value it is: two listings are the same only for the same values. -/

namespace LogSieve.Report
open Sql Text

def paramLine (number : Nat) (value : Value) : String :=
  "  " ++ ordinal number ++ ". " ++ value.shown

def listing (values : List Value) : List String :=
  if values.isEmpty then ["Params none"]
  else "Params" :: values.mapIdx fun place value => paramLine (place + 1) value

theorem paramLines_plain (first : Nat) (values : List Value) : paramLines false first values =
    (values.mapIdx fun place value => paramLine (first + place) value).map (· ++ "\n") := by
  induction values generalizing first with
  | nil => rfl
  | cons value values ih =>
    rw [paramLines, ih, List.mapIdx_cons, List.map_cons]
    simp only [Nat.add_assoc, Nat.add_comm 1]
    rfl

theorem requestText_plain (request : Request) : requestText false request =
    "Query" ++ "\n" ++ ("  " ++ request.cappedQuery ++ "\n" ++
      String.join ((listing request.params).map (· ++ "\n"))) := by
  apply String.toList_inj.mp
  unfold requestText listing
  split
  next => simp [paint]
  next => simp [paint, paramLines_plain, Nat.add_comm 1]

theorem shows_of_mem_ordinal {n : Nat} {c : Char} (member : c ∈ (ordinal n).toList) :
    shows c = true := by
  have digits : ∀ d ∈ (toString n).toList, shows d = true := by
    intro d digit
    rw [toList_toString] at digit
    exact shows_of_isAsciiDigit (isAsciiDigit_of_mem_toDigits digit)
  unfold ordinal at member
  split at member
  next =>
    rw [String.toList_append, List.mem_append] at member
    exact member.elim (shows_of_all_ascii (by decide)) (digits c)
  next => exact digits c member

theorem shows_of_mem_paramLine {number : Nat} {value : Value} {c : Char}
    (member : c ∈ (paramLine number value).toList) : shows c = true := by
  simp only [paramLine, String.toList_append, List.mem_append] at member
  rcases member with ((margin | counted) | mark) | written
  · exact shows_of_all_ascii (by decide) margin
  · exact shows_of_mem_ordinal counted
  · exact shows_of_all_ascii (by decide) mark
  · exact Value.shows_of_mem_shown written

theorem shows_of_mem_listing {values : List Value} {line : String} (listed : line ∈ listing values)
    {c : Char} (member : c ∈ line.toList) : shows c = true := by
  unfold listing at listed
  split at listed
  next =>
    rw [List.mem_singleton.mp listed] at member
    exact shows_of_all_ascii (by decide) member
  next =>
    rcases List.mem_cons.mp listed with heading | listed
    · rw [heading] at member
      exact shows_of_all_ascii (by decide) member
    · obtain ⟨place, _, same⟩ := List.mem_mapIdx.mp listed
      rw [← same] at member
      exact shows_of_mem_paramLine member

theorem paramLine_injective {number : Nat} {value other : Value}
    (same : paramLine number value = paramLine number other) : value = other :=
  Value.shown_injective ((String.append_right_inj _).mp same)

theorem listing_injective {values others : List Value} (same : listing values = listing others) :
    values = others := by
  unfold listing at same
  split at same
  next empty =>
    split at same
    next emptied => rw [List.isEmpty_iff.mp empty, List.isEmpty_iff.mp emptied]
    next => exact absurd (List.cons.inj same).1 (by decide)
  next =>
    split at same
    next => exact absurd (List.cons.inj same).1 (by decide)
    next =>
      apply List.ext_getElem?
      intro place
      have lines := congrArg (·[place]?) (List.cons.inj same).2
      simp only [List.getElem?_mapIdx] at lines
      exact Option.map_injective (fun _ _ => paramLine_injective) lines

/-- Text that is written line by line is read line by line; behind the last line nothing follows. -/
theorem splitOn_join {lines : List String} (unbroken : ∀ line ∈ lines, '\n' ∉ line.toList) :
    (String.join (lines.map (· ++ "\n"))).toList.splitOn '\n' = lines.map String.toList ++ [[]] := by
  induction lines with
  | nil => rfl
  | cons line lines ih =>
    obtain ⟨first, others⟩ := List.forall_mem_cons.mp unbroken
    have text : (String.join ((line :: lines).map (· ++ "\n"))).toList =
        line.toList ++ '\n' :: (String.join (lines.map (· ++ "\n"))).toList := by
      simp
    rw [text, List.splitOn_append_cons_self_of_not_mem first, ih others]
    rfl

theorem splitOn_requestText (request : Request) :
    (requestText false request).toList.splitOn '\n' =
      "Query".toList :: ("  " ++ request.cappedQuery).toList.splitOn '\n' ++
        (listing request.params).map String.toList ++ [[]] := by
  have unbroken : ∀ line ∈ listing request.params, '\n' ∉ line.toList :=
    fun line listed => not_mem_newline fun c => shows_of_mem_listing listed
  have heading : '\n' ∉ "Query".toList := by decide
  have text : (requestText false request).toList = "Query".toList ++ '\n' ::
      (("  " ++ request.cappedQuery).toList ++ '\n' ::
        (String.join ((listing request.params).map (· ++ "\n"))).toList) := by
    rw [requestText_plain]
    simp only [String.toList_append]
    simp
  rw [text, List.splitOn_append_cons_self_of_not_mem heading, List.splitOn_append_cons_self,
    splitOn_join unbroken]
  simp

theorem requestText_injective {query : String} {limit : UInt32} {params others : List Value}
    (same : requestText false ⟨query, params, limit⟩ = requestText false ⟨query, others, limit⟩) :
    params = others := by
  have capped : Request.cappedQuery ⟨query, params, limit⟩ =
      Request.cappedQuery ⟨query, others, limit⟩ := rfl
  have lines := congrArg (fun text => text.toList.splitOn '\n') same
  simp only [splitOn_requestText, capped] at lines
  have listed := List.append_cancel_left (List.append_cancel_right lines)
  exact listing_injective (List.map_injective_iff.mpr (fun _ _ => String.toList_inj.mp) listed)

/-- Requests are listed faithfully. Behind the lines of the query each value has one line of its own, in
order, of characters that all show; and where query and cap are the same, the texts are the same only
for the same values. -/
theorem requestText_lists_values (query : String) (limit : UInt32) :
    (∀ params, (requestText false ⟨query, params, limit⟩).toList.splitOn '\n' =
      "Query".toList :: ("  " ++ Request.cappedQuery ⟨query, params, limit⟩).toList.splitOn '\n' ++
        (listing params).map String.toList ++ [[]]) ∧
    (∀ number value, (paramLine number value).toList.all shows = true) ∧
    ∀ params others, requestText false ⟨query, params, limit⟩ = requestText false ⟨query, others, limit⟩ ↔
      params = others := by
  refine ⟨fun params => splitOn_requestText ⟨query, params, limit⟩, fun number value => ?_,
    fun params others => ⟨requestText_injective, fun same => by rw [same]⟩⟩
  exact List.all_eq_true.mpr fun c member => shows_of_mem_paramLine member

/-- A text that looks like the end of its line, and a value that looks like the text. -/
example : listing [.text "\n7", .integer 7] = ["Params", "   1. \"\\n7\"", "   2. 7"] := by
  decide +kernel

end LogSieve.Report

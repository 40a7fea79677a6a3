import LogSieve.Proofs.ContinuedText
import LogSieve.Proofs.Letters
import LogSieve.Proofs.ReadOnlyCheck

/-! The row cap against the read-only check. The cap is written behind the query as it stands, comments
and semicolons included. What the check has let through stays acceptable unless the cap comes to stand
behind a semicolon, where it counts as a second statement. -/

namespace LogSieve.Sql
open Text

namespace Request

def cap (limit : UInt32) : String := " LIMIT " ++ toString limit.toNat

theorem toList_cap (limit : UInt32) :
    (cap limit).toList = " LIMIT ".toList ++ Nat.toDigits 10 limit.toNat := by
  unfold cap
  rw [String.toList_append, toList_toString]

theorem cappedQuery_eq (request : Request) : request.cappedQuery =
    if hasWord "LIMIT" request.query.toList then request.query
    else request.query ++ cap request.limit := by
  unfold cappedQuery cap
  split
  · rfl
  · rw [String.append_assoc]

theorem names_cap (limit : UInt32) :
    names (cap limit).toList = ["LIMIT".toList, Nat.toDigits 10 limit.toNat] := by
  have ends : " LIMIT ".toList.getLast? = some ' ' := by decide
  have parted : endsInWord " LIMIT ".toList = false := by
    rw [endsInWord, ends, Option.any_some, isWordChar_eq_false (by decide) (by decide)]
  have keyword : names " LIMIT ".toList = ["LIMIT".toList] := by
    rw [names_eq_of_ascii (by simp)]
    decide
  rw [toList_cap, names_append_of_not_endsInWord parted, keyword, names_toDigits,
    List.singleton_append]

theorem cap_apart (limit : UInt32) : beginsInWord (cap limit).toList = false := by
  have begins : (cap limit).toList.head? = some ' ' := by
    rw [toList_cap]
    rfl
  rw [beginsInWord, begins, Option.any_some, isWordChar_eq_false (by decide) (by decide)]

theorem mem_cap {limit : UInt32} {c : Char} (member : c ∈ (cap limit).toList) :
    c ∈ " LIMIT ".toList ∨ isAsciiDigit c = true := by
  rw [toList_cap] at member
  exact (List.mem_append.mp member).imp_right isAsciiDigit_of_mem_toDigits

theorem isSmooth_of_mem_cap {limit : UInt32} {c : Char} (member : c ∈ (cap limit).toList) :
    isSmooth c = true := by
  rcases mem_cap member with keyword | digit
  · have smooth : " LIMIT ".toList.all isSmooth = true := by decide
    exact List.all_eq_true.mp smooth c keyword
  · rw [isSmooth_iff]
    refine ⟨?_, ?_, ?_, ?_⟩ <;> (rintro rfl; cases digit)

theorem not_isWord_toDigits (n : Nat) {keyword : String}
    (letters : (lowerAscii keyword.toList).all isAsciiLetter = true) :
    isWord keyword (Nat.toDigits 10 n) = false := by
  obtain ⟨c, member⟩ := List.exists_mem_of_ne_nil _ (Nat.toDigits_ne_nil (n := n) (b := 10))
  refine isKeyword_eq_false_of_isAsciiDigit ?_ member (isAsciiDigit_of_mem_toDigits member)
  exact List.all_eq_true.mp letters

theorem forbidden?_cap (limit : UInt32) : forbidden? (cap limit).toList = none := by
  have limitAllowed : ∀ keyword ∈ forbiddenKeywords, isWord keyword "LIMIT".toList = false := by
    decide
  have letters : ∀ keyword ∈ forbiddenKeywords,
      (lowerAscii keyword.toList).all isAsciiLetter = true := by decide
  rw [forbidden?_eq_none_iff, names_cap]
  intro word member keyword forbidden
  rcases List.mem_pair.mp member with rfl | rfl
  · exact limitAllowed keyword forbidden
  · exact not_isWord_toDigits limit.toNat (letters keyword forbidden)

theorem ended_append_cap {text : List Char} (ended : Ended text) (limit : UInt32) :
    Ended (text ++ (cap limit).toList) ↔ ';' ∉ text := by
  have visible : 'L' ∈ (cap limit).toList := by
    rw [toList_cap]
    exact List.mem_append_left _ (by decide)
  have noSemicolon : ∀ c ∈ (cap limit).toList, c ≠ ';' := by
    rintro c member rfl
    rcases mem_cap member with keyword | digit
    · exact absurd keyword (by decide)
    · cases digit
  unfold Ended
  rw [List.pairwise_append]
  constructor
  · rintro ⟨-, -, behind⟩ semicolon
    exact absurd (behind ';' semicolon 'L' visible rfl) (by decide)
  · intro absent
    refine ⟨ended, ?_, ?_⟩
    · exact List.pairwise_of_forall_mem_list fun c member _ _ semicolon =>
        absurd semicolon (noSemicolon c member)
    · rintro c member _ _ rfl
      exact absurd member absent

end Request

/-- What leaves room for a row cap behind a query: a cap of its own, a line comment to write it into,
or no semicolon outside comments. -/
def TakesCap (query : List Char) : Prop :=
  hasWord "LIMIT" query = true ∨ LineOpen query ∨ ';' ∉ dropComments query

namespace Request

theorem checkReadOnly_append_cap {text : String} (accepted : checkReadOnly text = .ok ())
    (limit : UInt32) :
    (LineOpen text.toList ∨ ';' ∉ dropComments text.toList →
      checkReadOnly (text ++ cap limit) = .ok ()) ∧
    (¬ (LineOpen text.toList ∨ ';' ∉ dropComments text.toList) →
      checkReadOnly (text ++ cap limit) = .error .multipleStatements) := by
  obtain ⟨opens, absent, ended⟩ := checkReadOnly_eq_ok_iff.mp accepted
  have smooth (c : Char) (member : c ∈ (cap limit).toList) : isSmooth c = true :=
    isSmooth_of_mem_cap member
  have stripped := dropComments_append smooth text.toList
  rw [← String.toList_append] at stripped
  by_cases lineOpen : LineOpen text.toList
  · have inside : endsInLine false text.toList = true :=
      (endsInLine_eq_true_iff false _).mpr (.inl lineOpen)
    rw [if_pos inside, List.append_nil] at stripped
    refine ⟨fun _ => ?_, fun noRoom => absurd (.inl lineOpen) noRoom⟩
    rw [checkReadOnly_eq_ok_iff, stripped]
    exact ⟨opens, absent, ended⟩
  · have outside : ¬ endsInLine false text.toList = true := by
      simpa [endsInLine_eq_true_iff] using lineOpen
    rw [if_neg outside] at stripped
    have stillOpens := opensQuery_append (cap_apart limit) opens
    have stillAbsent : forbidden? (dropComments text.toList ++ (cap limit).toList) = none := by
      rw [forbidden?_append _ (cap_apart limit), absent, forbidden?_cap]
      rfl
    have behind := ended_append_cap ended limit
    rw [← stripped] at stillOpens stillAbsent behind
    constructor
    · intro room
      have single := behind.mpr (room.resolve_left lineOpen)
      exact checkReadOnly_eq_ok_iff.mpr ⟨stillOpens, stillAbsent, single⟩
    · intro noRoom
      refine checkReadOnly_eq_multipleStatements stillOpens stillAbsent fun single => noRoom (.inr ?_)
      exact behind.mp single

/-- A query that the check has let through is let through with its row cap exactly if it leaves room for
one, and is taken for two statements otherwise. Without a semicolon there is always room. -/
theorem checkReadOnly_cappedQuery_iff {statement : Statement} {limit : UInt32} {request : Request}
    (accepted : ofStatement statement limit = .ok request) :
    (checkReadOnly request.cappedQuery = .ok () ↔ TakesCap request.query.toList) ∧
    (¬ TakesCap request.query.toList →
      checkReadOnly request.cappedQuery = .error .multipleStatements) ∧
    (';' ∉ request.query.toList → checkReadOnly request.cappedQuery = .ok ()) := by
  obtain ⟨passed, rfl⟩ := ofStatement_eq_ok_iff.mp accepted
  have verdict : (TakesCap statement.text.toList →
        checkReadOnly (cappedQuery ⟨statement.text, statement.params, limit⟩) = .ok ()) ∧
      (¬ TakesCap statement.text.toList →
        checkReadOnly (cappedQuery ⟨statement.text, statement.params, limit⟩) =
          .error .multipleStatements) := by
    rw [cappedQuery_eq]
    by_cases capped : hasWord "LIMIT" statement.text.toList = true
    · rw [if_pos capped]
      exact ⟨fun _ => passed, fun noRoom => absurd (.inl capped) noRoom⟩
    · rw [if_neg capped, TakesCap, or_iff_right capped]
      exact checkReadOnly_append_cap passed limit
  obtain ⟨room, noRoom⟩ := verdict
  refine ⟨⟨fun again => ?_, room⟩, noRoom, fun absent => room (.inr (.inr ?_))⟩
  · by_contra tight
    rw [noRoom tight] at again
    cases again
  · exact fun inside => absent ((dropComments_sublist _).subset inside)

theorem checkReadOnly_cappedQuery_commented :
    ofStatement ⟨"SELECT 1 /* ; */; -- end", []⟩ 10 = .ok ⟨"SELECT 1 /* ; */; -- end", [], 10⟩ ∧
      TakesCap "SELECT 1 /* ; */; -- end".toList ∧
      checkReadOnly (cappedQuery ⟨"SELECT 1 /* ; */; -- end", [], 10⟩) = .ok () := by
  have accepted : ofStatement ⟨"SELECT 1 /* ; */; -- end", []⟩ 10 =
      .ok ⟨"SELECT 1 /* ; */; -- end", [], 10⟩ := by decide +kernel
  have room : TakesCap "SELECT 1 /* ; */; -- end".toList :=
    .inr (.inl ⟨"SELECT 1 /* ; */; ".toList, " end".toList, by decide, by decide⟩)
  exact ⟨accepted, room, (checkReadOnly_cappedQuery_iff accepted).1.mpr room⟩

/-- A semicolon at the end is let through, and the cap behind it is not. -/
theorem not_checkReadOnly_cappedQuery_semicolon :
    ofStatement ⟨"SELECT 1;", []⟩ 1000 = .ok ⟨"SELECT 1;", [], 1000⟩ ∧
      checkReadOnly (cappedQuery ⟨"SELECT 1;", [], 1000⟩) ≠ .ok () := by
  constructor
  · decide +kernel
  · decide +kernel

end Request

end LogSieve.Sql

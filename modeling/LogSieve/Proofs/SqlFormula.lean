import LogSieve.Proofs.SqlTokens
import LogSieve.Sql.ReadOnly

/-! Conditions as SQL reads them: comparisons joined by `AND`, and these by `OR`, with parentheses to
group. The reader knows nothing of filters; what it reads has a meaning under every truth of the
single comparisons. -/

namespace LogSieve.Sql

/-- How a column is compared with a value. A pattern may have a character that escapes others. -/
inductive Comparison where
  | equals
  | atLeast
  | atMost
  | like (escape : Option Char)
  deriving DecidableEq

def Comparison.ofSign? : List Char → Option Comparison
  | ['='] => some equals
  | ['>', '='] => some atLeast
  | ['<', '='] => some atMost
  | _ => none

inductive Formula where
  | always
  | compare (column : String) (comparison : Comparison) (value : Value)
  | among (column : String) (values : List Value)
  | both (left right : Formula)
  | either (left right : Formula)
  deriving DecidableEq

namespace Formula

def Holds (truth : String → Comparison → Value → Prop) : Formula → Prop
  | always => True
  | compare column comparison value => truth column comparison value
  | among column values => ∃ value ∈ values, truth column .equals value
  | both left right => left.Holds truth ∧ right.Holds truth
  | either left right => left.Holds truth ∨ right.Holds truth

def joined (join : Formula → Formula → Formula) (first : Formula) : List Formula → Formula
  | [] => first
  | next :: others => join first (joined join next others)

variable (truth : String → Comparison → Value → Prop)

theorem holds_joined_both (first : Formula) (others : List Formula) :
    (joined both first others).Holds truth ↔ ∀ formula ∈ first :: others, formula.Holds truth := by
  induction others generalizing first with
  | nil => simp [joined]
  | cons next others ih =>
    rw [joined, Holds, ih, List.forall_mem_cons (a := first)]

theorem holds_joined_either (first : Formula) (others : List Formula) :
    (joined either first others).Holds truth ↔ ∃ formula ∈ first :: others, formula.Holds truth := by
  induction others generalizing first with
  | nil => simp [joined]
  | cons next others ih =>
    rw [joined, Holds, ih, List.exists_mem_cons_iff (a := first)]

end Formula

/-- A reader takes the formula at the beginning and returns the tokens behind it. -/
abbrev Reader := List Token → Option (Formula × List Token)

def Token.isKeyword (name : String) : Token → Bool
  | .word letters => isWord name letters
  | _ => false

def begins (name : String) (tokens : List Token) : Bool := tokens.head?.any (Token.isKeyword name)

def members? : List Token → Option (List Value × List Token)
  | .value value :: .mark ',' :: rest =>
    (members? rest).map fun (values, rest) => (value :: values, rest)
  | .value value :: .mark ')' :: rest => some ([value], rest)
  | _ => none

def escapeChar : List Token → Option Char × List Token
  | .word name :: .mark '\'' :: .literal [c] :: .mark '\'' :: rest =>
    if isWord "ESCAPE" name then (some c, rest)
    else (none, .word name :: .mark '\'' :: .literal [c] :: .mark '\'' :: rest)
  | tokens => (none, tokens)

def comparison? : Reader
  | .word column :: .sign sign :: .value value :: rest =>
    (Comparison.ofSign? sign).map fun comparison =>
      (.compare (String.ofList column) comparison value, rest)
  | .word column :: .word operator :: .value value :: rest =>
    if isWord "LIKE" operator then
      some (.compare (String.ofList column) (.like (escapeChar rest).1) value, (escapeChar rest).2)
    else none
  | .word column :: .word operator :: .mark '(' :: rest =>
    if isWord "IN" operator then
      (members? rest).map fun (values, rest) => (.among (String.ofList column) values, rest)
    else none
  | _ => none

def operand? (inner : Reader) : Reader
  | .mark '(' :: tokens =>
    match inner tokens with
    | some (formula, .mark ')' :: rest) => some (formula, rest)
    | _ => none
  | tokens => comparison? tokens

/-- An operand and at most `count` more, each of these behind the keyword. -/
def chain? (keyword : String) (join : Formula → Formula → Formula) (operand : Reader) : Nat → Reader
  | 0, tokens => operand tokens
  | count + 1, tokens =>
    match operand tokens with
    | none => none
    | some (first, rest) =>
      if begins keyword rest then
        (chain? keyword join operand count rest.tail).map fun (more, rest) => (join first more, rest)
      else some (first, rest)

/-- `AND` binds tighter than `OR`. -/
def level? (operand : Reader) : Reader := fun tokens =>
  chain? "OR" .either (chain? "AND" .both operand tokens.length) tokens.length tokens

def expression? : Nat → Reader
  | 0 => level? comparison?
  | depth + 1 => level? (operand? (expression? depth))

/-- What may stand behind a condition: nothing, or the grouping and order without a second one. -/
def isOver (tokens : List Token) : Bool :=
  (tokens.isEmpty || begins "GROUP" tokens || begins "ORDER" tokens) &&
    !tokens.any (Token.isKeyword "WHERE")

def Statement.condition? (statement : Statement) : Option Formula :=
  let clause := (statement.tokens.dropWhile fun token => !token.isKeyword "FROM").drop 2
  if begins "WHERE" clause then
    match expression? clause.length clause.tail with
    | some (formula, rest) => if isOver rest then some formula else none
    | none => none
  else if isOver clause then some .always
  else none

section
variable {keyword : String} {join : Formula → Formula → Formula} {operand : Reader}

theorem chain?_single {tokens rest : List Token} {formula : Formula}
    (reads : operand tokens = some (formula, rest)) (ends : begins keyword rest = false)
    (count : Nat) : chain? keyword join operand count tokens = some (formula, rest) := by
  cases count with
  | zero => exact reads
  | succ count => simp [chain?, reads, ends]

theorem begins_keyword (name : String) (rest : List Token) :
    begins name (.keyword name :: rest) = isWord name name.toList := rfl

/-- Operands that are read one by one, with the keyword between them, are read as one formula. -/
theorem chain?_intercalate {α : Type} {written : α → List Token} {meaning : α → Formula}
    (follows : List Token → Prop) (isKeyword : isWord keyword keyword.toList = true)
    (between : ∀ rest, follows (.keyword keyword :: rest)) (first : α) (others : List α)
    (reads : ∀ item ∈ first :: others, ∀ rest, follows rest →
      operand (written item ++ rest) = some (meaning item, rest))
    {count : Nat} (enough : others.length ≤ count) {rest : List Token} (ends : follows rest)
    (last : begins keyword rest = false) :
    chain? keyword join operand count
        ([.keyword keyword].intercalate ((first :: others).map written) ++ rest) =
      some (Formula.joined join (meaning first) (others.map meaning), rest) := by
  induction others generalizing first count with
  | nil =>
    rw [List.map_singleton, List.intercalate_singleton]
    exact chain?_single (reads first List.mem_cons_self rest ends) last count
  | cons next others ih =>
    obtain ⟨count, rfl⟩ := Nat.exists_eq_add_one_of_ne_zero
      (Nat.ne_of_gt (Nat.lt_of_lt_of_le (Nat.succ_pos _) enough))
    have remaining := ih next (fun item member => reads item (List.mem_cons_of_mem first member))
      (Nat.le_of_succ_le_succ enough)
    rw [List.map_cons] at remaining
    have here := reads first List.mem_cons_self _ (between
      ([.keyword keyword].intercalate (written next :: others.map written) ++ rest))
    rw [List.map_cons, List.map_cons, List.intercalate_cons_cons, List.append_assoc,
      List.append_assoc, chain?, List.singleton_append, here]
    simp only [begins_keyword, isKeyword, if_true, List.tail_cons, remaining]
    rfl

end

/-- Alternatives without parentheses would lose the first one to what stands behind them. -/
example : Statement.condition?
    ⟨"SELECT * FROM t WHERE a = ? OR b = ? AND c = ?", [.text "x", .text "y", .text "z"]⟩ =
      some (.either (.compare "a" .equals (.text "x"))
        (.both (.compare "b" .equals (.text "y")) (.compare "c" .equals (.text "z")))) := by
  decide +kernel

end LogSieve.Sql

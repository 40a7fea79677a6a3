import LogSieve.Proofs.SqlScan
import LogSieve.Sql.Statement

/-! Statements as tokens. The scan tells code from comments and quoted text; here code becomes words,
operators and marks, each as long as it can be, and the placeholders take the bound values from
left to right. A draft spells its tokens step by step, whatever is written behind it later. -/

namespace LogSieve.Sql

inductive Token where
  | word (letters : List Char)
  | sign (letters : List Char)
  | literal (text : List Char)
  | mark (c : Char)
  | value (value : Value)
  deriving DecidableEq

namespace Token

def keyword (name : String) : Token := .word name.toList

def isSignChar (c : Char) : Bool := c == '=' || c == '<' || c == '>' || c == '!'

def extend? : Token → Mark → Option Token
  | .word letters, ⟨c, .code⟩ => if Text.isAsciiWord c then some (.word (letters ++ [c])) else none
  | .sign letters, ⟨c, .code⟩ => if isSignChar c then some (.sign (letters ++ [c])) else none
  | .literal text, ⟨c, .literal⟩ => some (.literal (text ++ [c]))
  | _, _ => none

/-- The token that a character begins. Blanks and comments only keep others apart. -/
def start? : Mark → Option Token
  | ⟨c, .code⟩ =>
    if Text.isAsciiWord c then some (.word [c])
    else if isSignChar c then some (.sign [c])
    else if Text.isBlank c then none
    else some (.mark c)
  | ⟨c, .literal⟩ => some (.literal [c])
  | ⟨_, .line⟩ | ⟨_, .block⟩ => none

/-- The same for a character that may be a placeholder, with the values for later ones. -/
def place (mark : Mark) (values : List Value) : Option Token × List Value :=
  if mark = ⟨'?', .code⟩ then
    match values with
    | [] => (start? mark, [])
    | first :: values => (some (.value first), values)
  else (start? mark, values)

theorem place_plain {mark : Mark} (plain : mark.char ≠ '?') (values : List Value) :
    place mark values = (start? mark, values) := by
  refine if_neg ?_
  rintro rfl
  exact plain rfl

end Token

/-- The tokens of a scanned text, behind one that may still go on. -/
def tokens : Option Token → List Value → List Mark → List Token
  | current, _, [] => current.toList
  | current, values, mark :: rest =>
    match current.bind (·.extend? mark) with
    | some longer => tokens (some longer) values rest
    | none =>
      let (next, values) := Token.place mark values
      current.toList ++ tokens next values rest

theorem tokens_extend {current : Option Token} {mark : Mark} {longer : Token}
    (goesOn : current.bind (·.extend? mark) = some longer) (values : List Value) (rest : List Mark) :
    tokens current values (mark :: rest) = tokens (some longer) values rest := by
  rw [tokens, goesOn]

theorem tokens_start {current : Option Token} {mark : Mark}
    (ends : current.bind (·.extend? mark) = none) (values : List Value) (rest : List Mark) :
    tokens current values (mark :: rest) = current.toList ++
      tokens (Token.place mark values).1 (Token.place mark values).2 rest := by
  rw [tokens, ends]

theorem tokens_complete {token : Token} (ends : ∀ mark, token.extend? mark = none)
    (values : List Value) (rest : List Mark) :
    tokens (some token) values rest = token :: tokens none values rest := by
  cases rest with
  | nil => rfl
  | cons mark rest =>
    have closed : (some token).bind (·.extend? mark) = none := ends mark
    rw [tokens_start closed, tokens_start rfl]
    rfl

def Statement.tokens (statement : Statement) : List Token :=
  Sql.tokens none statement.params (scan .code statement.text.toList)

def separates (c : Char) : Bool := c == ' ' || c == ',' || c == ')'

def Apart (text : List Char) : Prop := text.head?.all separates = true

def Anything : List Char → Prop := fun _ => True

/-- The text with its values is read as `read`, if what stands behind it is `allowed`. -/
def Spells (allowed : List Char → Prop) (text : List Char) (bound : List Value)
    (read : List Token) : Prop :=
  ∀ values rest, allowed rest → tokens none (bound ++ values) (scan .code (text ++ rest)) =
    read ++ tokens none values (scan .code rest)

theorem Apart.cases {rest : List Char} (apart : Apart rest) :
    rest = [] ∨ ∃ after, rest = ' ' :: after ∨ rest = ',' :: after ∨ rest = ')' :: after := by
  cases rest with
  | nil => exact .inl rfl
  | cons c after =>
    simp only [Apart, List.head?_cons, Option.all_some, separates, Bool.or_eq_true, beq_iff_eq] at apart
    rcases apart with (rfl | rfl) | rfl
    · exact .inr ⟨after, .inl rfl⟩
    · exact .inr ⟨after, .inr (.inl rfl)⟩
    · exact .inr ⟨after, .inr (.inr rfl)⟩

theorem apart_append {text : List Char} (begins : text.head?.any separates = true)
    (rest : List Char) : Apart (text ++ rest) := by
  cases text with
  | nil => cases begins
  | cons c text => exact begins

theorem Spells.append {first second : List Char → Prop} {text text' : List Char}
    {bound bound' : List Value} {read read' : List Token} (spells : Spells first text bound read)
    (joined : ∀ rest, first (text' ++ rest)) (next : Spells second text' bound' read') :
    Spells second (text ++ text') (bound ++ bound') (read ++ read') := by
  intro values rest allowed
  rw [List.append_assoc, List.append_assoc, List.append_assoc, spells _ _ (joined rest),
    next _ _ allowed]

theorem Spells.apart {text : List Char} {bound : List Value} {read : List Token}
    (spells : Spells Anything text bound read) : Spells Apart text bound read :=
  fun values rest _ => spells values rest trivial

theorem scan_code_cons {c : Char} (word : Text.isAsciiWord c = true) (rest : List Char) :
    scan .code (c :: rest) = ⟨c, .code⟩ :: scan .code rest := by
  apply scan.eq_5
  · rintro after rfl -
    cases word
  · rintro after rfl -
    cases word
  · rintro rfl
    cases word

theorem tokens_word {letters more rest : List Char} (word : ∀ c ∈ more, Text.isAsciiWord c = true)
    (apart : Apart rest) (values : List Value) :
    tokens (some (.word letters)) values (scan .code (more ++ rest)) =
      .word (letters ++ more) :: tokens none values (scan .code rest) := by
  induction more generalizing letters with
  | nil =>
    rw [List.nil_append, List.append_nil]
    obtain rfl | ⟨after, rfl | rfl | rfl⟩ := apart.cases <;> rfl
  | cons c more ih =>
    have letter : Text.isAsciiWord c = true := word c List.mem_cons_self
    have goesOn : (some (Token.word letters)).bind (·.extend? ⟨c, .code⟩) =
        some (.word (letters ++ [c])) := if_pos letter
    rw [List.cons_append, scan_code_cons letter, tokens_extend goesOn,
      ih fun d member => word d (List.mem_cons_of_mem c member), List.append_assoc]
    rfl

theorem spells_word {letters : List Char} (nonempty : letters ≠ [])
    (word : ∀ c ∈ letters, Text.isAsciiWord c = true) : Spells Apart letters [] [.word letters] := by
  intro values rest apart
  obtain ⟨c, more, rfl⟩ := List.exists_cons_of_ne_nil nonempty
  have letter : Text.isAsciiWord c = true := word c List.mem_cons_self
  have plain : c ≠ '?' := by
    rintro rfl
    cases letter
  have begins : Token.start? ⟨c, .code⟩ = some (.word [c]) := if_pos letter
  rw [List.cons_append, scan_code_cons letter, tokens_start rfl, Token.place_plain plain, begins]
  exact tokens_word (fun d member => word d (List.mem_cons_of_mem c member)) apart values

end LogSieve.Sql

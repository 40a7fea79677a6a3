import Mathlib.Data.List.Infix
import LogSieve.Sql.ReadOnly

/-! Statements as a lexer reads them: once, from left to right, with comments and the contents of
quoted literals set apart from code. The read-only check does not read so; what it promises is
stated here without it. -/

namespace LogSieve.Sql

/-- What a character belongs to. A quote is code; what it encloses is not. -/
inductive Region where
  | code
  | line
  | block
  | literal
  deriving DecidableEq

def Region.isComment : Region → Bool
  | line | block => true
  | code | literal => false

@[simp] theorem Region.isComment_line : line.isComment = true := rfl
@[simp] theorem Region.isComment_block : block.isComment = true := rfl
@[simp] theorem Region.isComment_code : code.isComment = false := rfl
@[simp] theorem Region.isComment_literal : literal.isComment = false := rfl

structure Mark where
  char : Char
  region : Region
  deriving DecidableEq

/-- The characters of a text that begins in a region, each with its own region. The line break after
a line comment is code, and a comment or literal without an end takes all that is left. -/
def scan : Region → List Char → List Mark
  | _, [] => []
  | .code, '-' :: '-' :: rest => ⟨'-', .line⟩ :: ⟨'-', .line⟩ :: scan .line rest
  | .code, '/' :: '*' :: rest => ⟨'/', .block⟩ :: ⟨'*', .block⟩ :: scan .block rest
  | .code, '\'' :: rest => ⟨'\'', .code⟩ :: scan .literal rest
  | .code, c :: rest => ⟨c, .code⟩ :: scan .code rest
  | .line, '\n' :: rest => ⟨'\n', .code⟩ :: scan .code rest
  | .line, c :: rest => ⟨c, .line⟩ :: scan .line rest
  | .block, '*' :: '/' :: rest => ⟨'*', .block⟩ :: ⟨'/', .block⟩ :: scan .code rest
  | .block, c :: rest => ⟨c, .block⟩ :: scan .block rest
  | .literal, '\'' :: '\'' :: rest => ⟨'\'', .literal⟩ :: ⟨'\'', .literal⟩ :: scan .literal rest
  | .literal, '\'' :: rest => ⟨'\'', .code⟩ :: scan .code rest
  | .literal, c :: rest => ⟨c, .literal⟩ :: scan .literal rest

/-- Code stays where it stands; all else is blank. -/
def codeOf (marks : List Mark) : List Char :=
  marks.map fun mark => if mark.region = .code then mark.char else ' '

@[simp] theorem codeOf_nil : codeOf [] = [] := rfl

@[simp] theorem codeOf_cons (c : Char) (region : Region) (rest : List Mark) :
    codeOf (⟨c, region⟩ :: rest) = (if region = .code then c else ' ') :: codeOf rest := rfl

/-- No forbidden keyword is a word of the code, and after its first semicolon there is none. -/
structure OnlyReads (text : List Char) : Prop where
  keywords : ∀ word ∈ Text.names (codeOf (scan .code text)), ∀ keyword ∈ forbiddenKeywords,
    isWord keyword word = false
  single : Text.allBlank (afterSemicolon (codeOf (scan .code text))) = true

/-- Whether two word characters have comments alone between them. `word` says that the last character
outside comments was one, and `apart` that a comment has followed it. -/
def joins (word apart : Bool) : List Mark → Bool
  | [] => false
  | mark :: rest =>
    if mark.region.isComment then joins word true rest
    else (word && apart && Text.isWordChar mark.char) || joins (Text.isWordChar mark.char) false rest

theorem joins_comment {region : Region} (isComment : region.isComment = true)
    (word apart : Bool) (c : Char) (rest : List Mark) :
    joins word apart (⟨c, region⟩ :: rest) = joins word true rest :=
  if_pos isComment

theorem joins_outside {region : Region} (isOutside : region.isComment = false)
    (word apart : Bool) (c : Char) (rest : List Mark) : joins word apart (⟨c, region⟩ :: rest) =
      (word && apart && Text.isWordChar c || joins (Text.isWordChar c) false rest) :=
  if_neg (by simp [isOutside])

/-- No block comment holds the beginning of a line comment, and no literal that of any comment. -/
structure Unnested (marks : List Mark) : Prop where
  lineInBlock : ¬ [⟨'-', .block⟩, ⟨'-', .block⟩] <:+: marks
  lineInLiteral : ¬ [⟨'-', .literal⟩, ⟨'-', .literal⟩] <:+: marks
  blockInLiteral : ¬ [⟨'/', .literal⟩, ⟨'*', .literal⟩] <:+: marks

/-- Comments and literals keep apart, and no comment stands for the blank between two words. -/
structure Straight (text : List Char) : Prop where
  unnested : Unnested (scan .code text)
  parted : joins false false (scan .code text) = false

instance (text : List Char) : Decidable (OnlyReads text) :=
  decidable_of_iff ((∀ word ∈ Text.names (codeOf (scan .code text)), ∀ keyword ∈ forbiddenKeywords,
      isWord keyword word = false) ∧
      Text.allBlank (afterSemicolon (codeOf (scan .code text))) = true)
    ⟨fun ⟨keywords, single⟩ => ⟨keywords, single⟩, fun reads => ⟨reads.keywords, reads.single⟩⟩

instance (marks : List Mark) : Decidable (Unnested marks) :=
  decidable_of_iff (¬ [⟨'-', .block⟩, ⟨'-', .block⟩] <:+: marks ∧
      ¬ [⟨'-', .literal⟩, ⟨'-', .literal⟩] <:+: marks ∧
      ¬ [⟨'/', .literal⟩, ⟨'*', .literal⟩] <:+: marks)
    ⟨fun ⟨block, line, opening⟩ => ⟨block, line, opening⟩,
      fun unnested => ⟨unnested.lineInBlock, unnested.lineInLiteral, unnested.blockInLiteral⟩⟩

instance (text : List Char) : Decidable (Straight text) :=
  decidable_of_iff (Unnested (scan .code text) ∧ joins false false (scan .code text) = false)
    ⟨fun ⟨unnested, parted⟩ => ⟨unnested, parted⟩,
      fun straight => ⟨straight.unnested, straight.parted⟩⟩

end LogSieve.Sql

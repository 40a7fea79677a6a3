import LogSieve.Text.Joining

/-! How many columns of a terminal a line takes. Most characters take their own columns; variation
selectors turn signs into pictures and back, and what merges shares its columns. -/

namespace LogSieve.Text

structure Pending where
  tail : Tail := .plain
  pictureSelected : Bool := false
  signSelected : Bool := false
  wideSelected : Bool := false

def pictureSelector : Char := '\ufe0f'
def signSelector : Char := '\ufe0e'

/-- Behind a quotation mark it asks for the wide form. -/
def wideSelector : Char := '\ufe01'

def isQuotationMark (c : Char) : Bool :=
  c == '\u2018' || c == '\u2019' || c == '\u201c' || c == '\u201d'

namespace Pending

def letters (pending : Pending) : Pending := if pending.tail.isLetter then pending else {}

/-- Behind a picture selector a joiner goes on waiting, too. -/
def selectPicture (pending : Pending) : Pending :=
  if pending.tail.isJoiner then { pending with pictureSelected := true }
  else { pending.letters with pictureSelected := true }

def dropPicture (pending : Pending) : Pending :=
  if pending.pictureSelected then { pending.letters with pictureSelected := false } else pending

/-- The columns that a character adds by itself or together with the tail. -/
def extend (tail : Tail) (c : Char) : Int × Pending :=
  match tail.merge? c with
  | some (added, tail) => (added, { tail })
  | none => (columns c, { tail := .ofChar c })

def add (pending : Pending) (c : Char) : Int × Pending :=
  if pending.pictureSelected && hasTwoForms c then
    (if pending.tail.isJoiner then 0 else 2, { tail := .picture })
  else
    let pending := pending.dropPicture
    if c.toNat ≤ 0xa0 then (1, {})
    else if c == pictureSelector then (0, pending.selectPicture)
    else if c == signSelector then (0, { pending.letters with signSelected := true })
    else if c == wideSelector then (0, { pending.letters with wideSelected := true })
    else if pending.signSelected && shrinksAsSign c then (1, {})
    else if pending.wideSelected && isQuotationMark c then (2, {})
    else extend pending.tail c

end Pending

/-- The columns of a line, and what its first character leaves to one before it. -/
def measure (line : List Char) : Int × Pending :=
  line.foldr (fun c (total, pending) =>
    let (added, pending) := pending.add c
    (total + added, pending)) (0, {})

def width (line : List Char) : Nat := (measure line).1.toNat

end LogSieve.Text

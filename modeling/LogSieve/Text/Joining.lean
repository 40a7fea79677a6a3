import LogSieve.Text.Columns
import LogSieve.Text.Emoji

/-! Letters and signs that merge with what follows them. A line is read from its end; a `Tail` is what
the characters read so far hold ready for the next one to the left. Emoji merge across a joiner,
flags and tags in rows, and some scripts write two letters in the space of one. -/

namespace LogSieve.Text

inductive Tail where
  | plain
  | picture
  | tint
  | flagLetter
  | flagLetters
  /-- A joiner before a picture, and what may stand before that joiner. -/
  | joiner
  | joinerKeycap
  | joinerFlagLetter
  | joinerFlagLetters (even : Bool)
  /-- The end of a row of tags before a joiner, with the letters read of the row. -/
  | joinerTag (letters : Nat)
  | joinerTagDigits (digits : Nat)
  | alef
  /-- A letter that merges across a joiner, and whether one has been read; some others do so, too. -/
  | lamed (joined : Bool)
  | bugineseYa (joined : Bool)
  | bugineseVowelYa
  | tifinagh (joined : Bool)
  | tifinaghPair
  | lisuTone
  | orkhon (joined : Bool)
  | khmer
  | kiratE
  | kiratAi
  deriving DecidableEq

def zeroWidthJoiner : Char := '\u200d'
def keycap : Char := '\u20e3'

def isAlef (c : Char) : Bool :=
  covers [(0x622, 0x623), (0x625, 0x625), (0x627, 0x627), (0x671, 0x673), (0x675, 0x675),
    (0x773, 0x774), (0x870, 0x882)] c

def isLam (c : Char) : Bool :=
  covers [(0x644, 0x644), (0x6b5, 0x6b8), (0x76a, 0x76a), (0x8a6, 0x8a6), (0x8c7, 0x8c7)] c

/-- Khmer letters that can be written below another. -/
def isSubscript (c : Char) : Bool :=
  covers [(0x1780, 0x1782), (0x1784, 0x1787), (0x1789, 0x178c), (0x178e, 0x1793), (0x1795, 0x1798),
    (0x179b, 0x179d), (0x17a0, 0x17a0), (0x17a2, 0x17a2), (0x17a7, 0x17a7), (0x17ab, 0x17ac),
    (0x17af, 0x17af)] c

def isTifinagh (c : Char) : Bool := covers [(0x2d31, 0x2d65), (0x2d6f, 0x2d6f)] c

/-- Ignorable marks, and the joiner: between two letters that merge they change nothing. -/
def isIgnorableMark (c : Char) : Bool :=
  covers [(0x34f, 0x34f), (0x17b4, 0x17b5), (0x180b, 0x180d), (0x180f, 0x180f), (0x200d, 0x200d),
    (0xfe00, 0xfe0f), (0xe0100, 0xe01ef)] c

namespace Tail

def ofChar (c : Char) : Tail :=
  if isPicture c then picture
  else if isTint c then tint
  else if isFlagLetter c then flagLetter
  else if isAlef c then alef
  else if isSubscript c then khmer
  else if isTifinagh c then tifinagh false
  else
    match c with
    | '\u05dc' => lamed false
    | '\u1a10' => bugineseYa false
    | '\ua4fc' => lisuTone
    | '\ua4fd' => lisuTone
    | _ =>
      if covers [(0x10c03, 0x10c03)] c then orkhon false
      else if covers [(0x16d67, 0x16d67)] c then kiratE
      else if covers [(0x16d68, 0x16d68)] c then kiratAi
      else plain

/-- Letters whose merging ignorable marks do not hinder. -/
def isLoose : Tail → Bool
  | lamed _ | bugineseYa _ | bugineseVowelYa
  | tifinagh _ | tifinaghPair | lisuTone | orkhon _ | khmer => true
  | _ => false

def isLetter (tail : Tail) : Bool := tail == alef || tail.isLoose

def isJoiner : Tail → Bool
  | joiner | joinerKeycap => true
  | _ => false

def join : Tail → Tail
  | lamed _ => lamed true
  | bugineseYa _ => bugineseYa true
  | tifinagh _ => tifinagh true
  | orkhon _ => orkhon true
  | tail => tail

/-- Emoji before a joiner, and flags and tags in the row before it. -/
def beforeJoiner? (c : Char) : Tail → Option (Int × Tail)
  | joiner =>
    if c == keycap then some (0, joinerKeycap)
    else if isFlagLetter c then some (1, joinerFlagLetter)
    else if isTint c then some (0, tint)
    else if isTagEnd c then some (0, joinerTag 0)
    else if isPicture c then some (0, picture)
    else none
  | joinerFlagLetter => if isFlagLetter c then some (-1, joinerFlagLetters true) else none
  | joinerFlagLetters even =>
    if isFlagLetter c then
      some (if even then (3, joinerFlagLetters false) else (-1, joinerFlagLetters true))
    else if c == zeroWidthJoiner then some (0, joiner)
    else none
  | joinerTag letters =>
    if isTagLetter c && letters < 6 then some (0, joinerTag (letters + 1))
    else if isTagDigit c && letters < 5 then some (0, joinerTagDigits 1)
    else if isBlackFlag c && 3 ≤ letters then some (0, picture)
    else none
  | joinerTagDigits digits =>
    if isTagDigit c && digits < 3 then some (0, joinerTagDigits (digits + 1))
    else if isBlackFlag c && digits == 3 then some (0, picture)
    else none
  | _ => none

/-- Letters of one script that share their columns. A letter below another takes back its own. -/
def beforeLetter? (c : Char) : Tail → Option (Int × Tail)
  | alef =>
    if isLam c then some (0, plain)
    else if isTransparent c then some (0, alef)
    else none
  | lamed true => if c == '\u05d0' then some (0, plain) else none
  | khmer => if c == '\u17d2' then some (-1, plain) else none
  | bugineseYa true => if c == '\u1a17' then some (0, bugineseVowelYa) else none
  | bugineseVowelYa => if c == '\u1a15' then some (0, plain) else none
  | tifinagh joined =>
    if c == '\u2d7f' then some (1, tifinaghPair)
    else if joined && isTifinagh c then some (0, plain)
    else none
  | tifinaghPair => if isTifinagh c then some (-1, plain) else none
  | lisuTone => if covers [(0xa4f8, 0xa4fb)] c then some (0, plain) else none
  | orkhon true => if covers [(0x10c32, 0x10c32)] c then some (0, plain) else none
  | kiratE =>
    if covers [(0x16d63, 0x16d63), (0x16d69, 0x16d69)] c then some (0, plain)
    else if covers [(0x16d67, 0x16d67)] c then some (0, kiratAi)
    else if covers [(0x16d68, 0x16d68)] c then some (1, kiratE)
    else none
  | kiratAi => if covers [(0x16d63, 0x16d63)] c then some (0, plain) else none
  | _ => none

/-- The columns that a character adds and the tail it leaves, if it merges with what follows. -/
def merge? (c : Char) (tail : Tail) : Option (Int × Tail) :=
  if tail.isLoose && isIgnorableMark c then some (0, if c == zeroWidthJoiner then tail.join else tail)
  else
    match tail with
    | picture | flagLetters | tint =>
      if c == zeroWidthJoiner then some (0, joiner)
      else if tail == tint && isTintable c then some (0, picture)
      else if tail == flagLetters && isFlagLetter c then some (1, flagLetters)
      else none
    | flagLetter => if isFlagLetter c then some (1, flagLetters) else none
    | _ => (tail.beforeJoiner? c).or (tail.beforeLetter? c)

end Tail

end LogSieve.Text

import LogSieve.Json.Reader
import LogSieve.Proofs.Runs
import LogSieve.Sql.Value

/-! Quoted texts read back. An escape names its character, and a character that stands for itself is no
backslash; so what stands in quotes is found again from the front, one character at a time. All that a
quoted text is written with shows on the page, so none of it breaks a line. -/

namespace LogSieve.Text

def ofHexadecimal? (digits : List Char) : Option Nat :=
  digits.foldlM (fun n digit => (Json.hexDigit? digit).map (16 * n + ·)) 0

theorem hexDigit?_digitChar : ∀ d < 16, Json.hexDigit? (Nat.digitChar d) = some d := by
  decide

theorem ofHexadecimal?_hexadecimal (n : Nat) : ofHexadecimal? (hexadecimal n) = some n := by
  induction n using Nat.strongRecOn with
  | ind n ih =>
    by_cases small : n < 16
    · rw [hexadecimal, Nat.toDigits_of_lt_base small, ofHexadecimal?, List.foldlM_cons,
        hexDigit?_digitChar n small]
      simp
    · have large : 16 ≤ n := Nat.le_of_not_lt small
      have shorter := ih (n / 16) (by omega)
      have last := hexDigit?_digitChar (n % 16) (by omega)
      rw [hexadecimal, ofHexadecimal?] at shorter
      rw [hexadecimal, Nat.toDigits_of_base_le (by decide) large, ofHexadecimal?, List.foldlM_append,
        shorter, Option.bind_eq_bind, Option.bind_some, List.foldlM_cons, last]
      simp [Nat.div_add_mod]

theorem exists_digitChar_of_mem_hexadecimal {n : Nat} {c : Char} (member : c ∈ hexadecimal n) :
    ∃ d < 16, c = Nat.digitChar d := by
  induction n using Nat.strongRecOn with
  | ind n ih =>
    by_cases small : n < 16
    · rw [hexadecimal, Nat.toDigits_of_lt_base small, List.mem_singleton] at member
      exact ⟨n, small, member⟩
    · have large : 16 ≤ n := Nat.le_of_not_lt small
      rw [hexadecimal, Nat.toDigits_of_base_le (by decide) large, List.mem_append,
        List.mem_singleton] at member
      rcases member with front | last
      · exact ih (n / 16) (by omega) front
      · exact ⟨n % 16, by omega, last⟩

/-- The characters with an escape of their own, each behind its letter. -/
def escapes : List (Char × Char) :=
  [('"', '"'), ('\\', '\\'), ('n', '\n'), ('r', '\r'), ('t', '\t'), ('0', '\x00')]

def bracedChar? : List Char → Option (Char × List Char)
  | [] => none
  | _ :: text =>
    (ofHexadecimal? (text.takeWhile (· != '\x7d'))).map fun n =>
      (Char.ofNat n, (text.dropWhile (· != '\x7d')).drop 1)

def unquotedChar? : List Char → Option (Char × List Char)
  | '\\' :: mark :: text =>
    if mark = 'u' then bracedChar? text else (escapes.lookup mark).map (·, text)
  | c :: text => some (c, text)
  | [] => none

def shows (c : Char) : Bool := !(covers extenderSpans c || covers hiddenSpans c)

/-- The ways in which a character can be written in quotes. -/
inductive Quotes (c : Char) : List Char → Prop where
  | named (mark : Char) (listed : (mark, c) ∈ escapes) : Quotes c ['\\', mark]
  | braced : Quotes c ('\\' :: 'u' :: '\x7b' :: (hexadecimal c.toNat ++ ['\x7d']))
  | plain (other : c ≠ '\\') (visible : shows c = true) : Quotes c [c]

theorem quotes_quotedChar (c : Char) : Quotes c (quotedChar c) := by
  have written : escapes.all (fun pair => quotedChar pair.2 == ['\\', pair.1]) = true := by decide
  by_cases named : c ∈ escapes.map Prod.snd
  · obtain ⟨pair, listed, rfl⟩ := List.mem_map.mp named
    rw [eq_of_beq (List.all_eq_true.mp written pair listed)]
    exact .named pair.1 listed
  · simp only [escapes, List.map_cons, List.map_nil, List.mem_cons, List.not_mem_nil, or_false,
      not_or] at named
    obtain ⟨quote, backslash, feed, back, tab, null⟩ := named
    rw [quotedChar, if_neg quote, if_neg backslash, if_neg feed, if_neg back, if_neg tab, if_neg null]
    split
    next => exact .braced
    next visible => exact .plain backslash (by simpa [shows] using visible)

theorem bracedChar?_hexadecimal (c : Char) (text : List Char) :
    bracedChar? ('\x7b' :: (hexadecimal c.toNat ++ '\x7d' :: text)) = some (c, text) := by
  have apart : ∀ d < 16, (Nat.digitChar d != '\x7d') = true := by decide
  have digits : ∀ d ∈ hexadecimal c.toNat, (d != '\x7d') = true := by
    intro d member
    obtain ⟨digit, small, rfl⟩ := exists_digitChar_of_mem_hexadecimal member
    exact apart digit small
  simp only [bracedChar?]
  rw [List.takeWhile_append_of_pos digits, List.dropWhile_append_of_pos digits,
    List.takeWhile_cons_of_neg (by decide), List.dropWhile_cons_of_neg (by decide), List.append_nil,
    ofHexadecimal?_hexadecimal]
  simp

/-- No way of writing a character is the beginning of a way of writing another one. -/
theorem Quotes.unquotedChar?_append {c : Char} {written : List Char} (quotes : Quotes c written)
    (text : List Char) : unquotedChar? (written ++ text) = some (c, text) := by
  cases quotes with
  | named mark listed =>
    have read : escapes.all (fun pair => pair.1 != 'u' && escapes.lookup pair.1 == some pair.2) =
        true := by decide
    have told := List.all_eq_true.mp read _ listed
    rw [Bool.and_eq_true, bne_iff_ne, beq_iff_eq] at told
    change (if mark = 'u' then bracedChar? text else (escapes.lookup mark).map (·, text)) = _
    rw [if_neg told.1, told.2, Option.map_some]
  | braced =>
    have read := bracedChar?_hexadecimal c text
    simpa [unquotedChar?] using read
  | plain other visible =>
    rw [List.singleton_append, unquotedChar?]
    exact fun mark rest same => absurd same other

theorem flatMap_quotedChar_injective {text other : List Char}
    (same : text.flatMap quotedChar = other.flatMap quotedChar) : text = other := by
  have read (c : Char) (rest : List Char) :
      unquotedChar? ((c :: rest).flatMap quotedChar) = some (c, rest.flatMap quotedChar) :=
    (quotes_quotedChar c).unquotedChar?_append (rest.flatMap quotedChar)
  induction text generalizing other with
  | nil =>
    cases other with
    | nil => rfl
    | cons d rest =>
      have first := read d rest
      rw [← same] at first
      cases first
  | cons c text ih =>
    cases other with
    | nil =>
      have first := read c text
      rw [same] at first
      cases first
    | cons d rest =>
      have first := read c text
      rw [same, read d rest, Option.some.injEq, Prod.mk.injEq] at first
      rw [first.1, ih first.2.symm]

theorem quoted_injective {text other : String} (same : quoted text = quoted other) : text = other := by
  have bodies := List.append_cancel_right (List.cons.inj (String.ofList_inj.mp same)).2
  exact String.toList_inj.mp (flatMap_quotedChar_injective bodies)

theorem shows_of_ascii {c : Char} (first : 0x20 ≤ c.toNat) (last : c.toNat ≤ 0x7e) :
    shows c = true := by
  have printed : covers [(0x20, 0x7e)] c = true := by
    simp [covers, first, last]
  rw [shows, not_covers_of_apart (by decide +kernel) printed,
    not_covers_of_apart (by decide +kernel) printed]
  rfl

theorem shows_of_all_ascii {text : List Char} {c : Char}
    (printed : text.all (fun c => 0x20 ≤ c.toNat && c.toNat ≤ 0x7e) = true) (member : c ∈ text) :
    shows c = true := by
  have within := List.all_eq_true.mp printed c member
  rw [Bool.and_eq_true, decide_eq_true_eq, decide_eq_true_eq] at within
  exact shows_of_ascii within.1 within.2

theorem shows_of_isAsciiDigit {c : Char} (digit : isAsciiDigit c = true) : shows c = true := by
  simp only [isAsciiDigit, Bool.and_eq_true, decide_eq_true_eq, Char.le_def,
    UInt32.le_iff_toNat_le] at digit
  exact shows_of_ascii (Nat.le_trans (by decide) digit.1) (Nat.le_trans digit.2 (by decide))

theorem not_mem_newline {text : List Char} (visible : ∀ c ∈ text, shows c = true) : '\n' ∉ text := by
  have hidden : shows '\n' = false := by decide +kernel
  intro member
  rw [visible _ member] at hidden
  cases hidden

theorem Quotes.shows_of_mem {c : Char} {written : List Char} (quotes : Quotes c written) :
    ∀ d ∈ written, shows d = true := by
  cases quotes with
  | named mark listed =>
    have marks : (escapes.map Prod.fst).all
        (fun c => 0x20 ≤ c.toNat && c.toNat ≤ 0x7e) = true := by decide
    rw [List.forall_mem_cons, List.forall_mem_singleton]
    exact ⟨shows_of_ascii (by decide) (by decide),
      shows_of_all_ascii marks (List.mem_map_of_mem listed)⟩
  | braced =>
    have printed : ∀ d < 16, 0x20 ≤ (Nat.digitChar d).toNat ∧ (Nat.digitChar d).toNat ≤ 0x7e := by
      decide
    intro d member
    simp only [List.mem_cons, List.mem_append, List.not_mem_nil, or_false] at member
    rcases member with rfl | rfl | rfl | digit | rfl
    · exact shows_of_ascii (by decide) (by decide)
    · exact shows_of_ascii (by decide) (by decide)
    · exact shows_of_ascii (by decide) (by decide)
    · obtain ⟨n, small, rfl⟩ := exists_digitChar_of_mem_hexadecimal digit
      exact shows_of_ascii (printed n small).1 (printed n small).2
    · exact shows_of_ascii (by decide) (by decide)
  | plain other visible =>
    intro d member
    rw [List.mem_singleton.mp member]
    exact visible

/-- Every character of a quoted text has something to print, whatever is quoted. -/
theorem shows_of_mem_quoted {text : String} {c : Char} (member : c ∈ (quoted text).toList) :
    shows c = true := by
  have mark : shows '"' = true := shows_of_ascii (by decide) (by decide)
  rw [quoted, String.toList_ofList, quotedChars, List.cons_append, List.mem_cons, List.mem_append,
    List.mem_singleton, List.mem_flatMap] at member
  rcases member with rfl | ⟨d, -, written⟩ | rfl
  · exact mark
  · exact (quotes_quotedChar d).shows_of_mem c written
  · exact mark

theorem toList_toString_int (n : Int) : (toString n).toList =
    if 0 ≤ n then Nat.toDigits 10 n.toNat else '-' :: Nat.toDigits 10 (-n).toNat := by
  rw [Int.toString_eq_repr, Int.repr_eq_if]
  split
  next => exact Nat.toList_repr
  next => rw [String.toList_append, Nat.toList_repr]; rfl

theorem toString_int_injective {n m : Int} (same : toString n = toString m) : n = m := by
  have digits {a b : Nat} (same : Nat.toDigits 10 a = Nat.toDigits 10 b) : a = b := by
    have read := congrArg (Nat.ofDigitChars 10 · 0) same
    simpa only [Nat.ofDigitChars_ten_toDigits] using read
  have unsigned (a b : Nat) : Nat.toDigits 10 a ≠ '-' :: Nat.toDigits 10 b := by
    intro same
    have minus : '-' ∈ Nat.toDigits 10 a := same ▸ List.mem_cons_self
    exact absurd (isAsciiDigit_of_mem_toDigits minus) (by decide)
  have written := congrArg String.toList same
  rw [toList_toString_int, toList_toString_int] at written
  split at written
  next =>
    split at written
    next =>
      have equal := digits written
      omega
    next => exact absurd written (unsigned _ _)
  next =>
    split at written
    next => exact absurd written.symm (unsigned _ _)
    next =>
      have equal := digits (List.cons.inj written).2
      omega

end LogSieve.Text

namespace LogSieve.Sql.Value
open Text

theorem numeral_of_mem_toString {n : Int} {c : Char} (member : c ∈ (toString n).toList) :
    c = '-' ∨ isAsciiDigit c = true := by
  rw [toList_toString_int] at member
  split at member
  next => exact .inr (isAsciiDigit_of_mem_toDigits member)
  next => exact (List.mem_cons.mp member).imp_right isAsciiDigit_of_mem_toDigits

theorem shows_of_mem_shown {value : Value} {c : Char} (member : c ∈ value.shown.toList) :
    shows c = true := by
  cases value with
  | integer value =>
    rcases numeral_of_mem_toString member with rfl | digit
    · exact shows_of_ascii (by decide) (by decide)
    · exact shows_of_isAsciiDigit digit
  | text value => exact shows_of_mem_quoted member

/-- What is shown of a value says which value it is, and of what kind. -/
theorem shown_injective {value other : Value} (same : value.shown = other.shown) : value = other := by
  have apart (n : Int) (text : String) : toString n ≠ quoted text := by
    intro same
    have mark : '"' ∈ (toString n).toList := by
      rw [same, quoted, String.toList_ofList, quotedChars, List.cons_append]
      exact List.mem_cons_self
    rcases numeral_of_mem_toString mark with minus | digit
    · revert minus
      decide
    · revert digit
      decide
  cases value with
  | integer value =>
    cases other with
    | integer other => rw [Int64.toInt_inj.mp (toString_int_injective same)]
    | text other => exact absurd same (apart value.toInt other)
  | text value =>
    cases other with
    | integer other => exact absurd same.symm (apart other.toInt value)
    | text other => rw [quoted_injective same]

end LogSieve.Sql.Value

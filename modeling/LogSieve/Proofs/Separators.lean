import LogSieve.Filter.Separator
import LogSieve.Proofs.Letters
import LogSieve.Proofs.Runs

/-! Cutting at separators undoes joining with them. A joined text keeps its parts as long as no part
is empty and no part holds a separator itself. -/

namespace LogSieve.Filter
open Text

theorem isAnd_iff {word : Word} : isAnd word = true ↔ sameAscii "and".toList word = true :=
  isKeyword_iff_sameAscii (by constructor <;> simp [isAsciiLetter, lowerAscii]) (by decide)

theorem isOr_iff {word : Word} : isOr word = true ↔ sameAscii "or".toList word = true :=
  isKeyword_iff_sameAscii (by constructor <;> simp [isAsciiLetter, lowerAscii]) (by decide)

variable {separates : Word → Bool}

theorem splitAt_eq_singleton {part : List Word} (plain : ∀ word ∈ part, separates word = false) :
    splitAt separates part = [part] := by
  induction part with
  | nil => rfl
  | cons word part ih =>
    cases part with
    | nil => rfl
    | cons next part =>
      have rest := ih fun w member => plain w (List.mem_cons_of_mem word member)
      simp [splitAt, plain next (by simp), rest, attach]

theorem splitAt_append_cons {part rest : List Word} {separator : Word} (nonempty : part ≠ [])
    (plain : ∀ word ∈ part, separates word = false) (cut : separates separator = true)
    (more : rest ≠ []) :
    splitAt separates (part ++ separator :: rest) = part :: splitAt separates rest := by
  induction part with
  | nil => exact absurd rfl nonempty
  | cons word part ih =>
    cases part with
    | nil => simp [splitAt, cut, more]
    | cons next part =>
      have below := ih (by simp) fun w member => plain w (List.mem_cons_of_mem word member)
      simp only [List.cons_append] at below ⊢
      simp [splitAt, plain next (by simp), below, attach]

/-- Parts that can be joined without being torn apart again. -/
def Whole (separates : Word → Bool) (part : List Word) : Prop :=
  part ≠ [] ∧ ∀ word ∈ part, separates word = false

theorem splitAt_join {first : List Word} {more : List (Word × List Word)}
    (whole : Whole separates first)
    (parts : ∀ link ∈ more, separates link.1 = true ∧ Whole separates link.2) :
    splitAt separates (first ++ more.flatMap fun link => link.1 :: link.2) =
      first :: more.map Prod.snd := by
  induction more generalizing first with
  | nil => simpa using splitAt_eq_singleton whole.2
  | cons link more ih =>
    obtain ⟨cut, next⟩ := parts link List.mem_cons_self
    have below := ih next fun l member => parts l (List.mem_cons_of_mem link member)
    rw [List.flatMap_cons, List.cons_append,
      splitAt_append_cons whole.1 whole.2 cut (by simp [next.1]), below]
    rfl

end LogSieve.Filter

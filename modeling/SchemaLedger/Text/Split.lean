/-! # Splitting at a separator

A text with separators in it, and its parts. Every separator counts: two in a row have an empty
part between them, and one at an end has an empty part beyond it. -/

namespace SchemaLedger.Text

variable {α : Type} [DecidableEq α]

/-- The parts between separators. -/
def split (separator : α) : List α → List (List α)
  | [] => [[]]
  | a :: rest =>
    if a = separator then [] :: split separator rest
    else
      match split separator rest with
      | [] => [[a]]
      | part :: parts => (a :: part) :: parts

def unsplit (separator : α) : List (List α) → List α
  | [] => []
  | [part] => part
  | part :: parts => part ++ separator :: unsplit separator parts

theorem split_ne_nil (separator : α) (text : List α) : split separator text ≠ [] := by
  cases text with
  | nil => simp [split]
  | cons a rest =>
    rw [split]
    split
    · simp
    · split <;> simp

@[simp] theorem unsplit_split (separator : α) (text : List α) :
    unsplit separator (split separator text) = text := by
  induction text with
  | nil => rfl
  | cons a rest ih =>
    rw [split]
    split
    next h =>
      cases hs : split separator rest with
      | nil => exact absurd hs (split_ne_nil separator rest)
      | cons part parts => rw [unsplit, ← hs, ih, h, List.nil_append]; simp
    next h =>
      cases hs : split separator rest with
      | nil => exact absurd hs (split_ne_nil separator rest)
      | cons part parts =>
        rw [hs] at ih
        cases parts with
        | nil => simp_all [unsplit]
        | cons next others => simp_all [unsplit]

end SchemaLedger.Text

/-!
Cutting a text at separators.

A text with `n` separators has `n + 1` parts, empty ones included, so that there is always a first
part and a rule about parts can be one about the text that they are joined to.
-/

set_option autoImplicit false

namespace HttpReplay.Text

/-- The parts of a list between the elements that separate. -/
def parts {α : Type} (separates : α → Bool) : List α → List (List α)
  | [] => [[]]
  | c :: rest =>
    if separates c then [] :: parts separates rest
    else match parts separates rest with
      | [] => [[c]]
      | part :: more => (c :: part) :: more

theorem parts_ne_nil {α : Type} (separates : α → Bool) (cs : List α) :
    parts separates cs ≠ [] := by
  cases cs with
  | nil => simp [parts]
  | cons c rest =>
    rw [parts]
    split
    · simp
    · split <;> simp

/-- Parts with a separator between each two. -/
def join {α : Type} (separator : List α) : List (List α) → List α
  | [] => []
  | [part] => part
  | part :: more => part ++ separator ++ join separator more

end HttpReplay.Text

import Provision.Text.Blank

namespace Provision.Text

/-- The pieces of a text between the characters that separate. A text without one is one piece. -/
def split (separates : Char → Bool) : List Char → List (List Char)
  | [] => [[]]
  | c :: text =>
    if separates c then [] :: split separates text
    else
      match split separates text with
      | [] => [[c]]
      | piece :: pieces => (c :: piece) :: pieces

theorem split_ne_nil (separates : Char → Bool) (text : List Char) : split separates text ≠ [] := by
  cases text with
  | nil => simp [split]
  | cons c text =>
    unfold split
    split
    · simp
    · split <;> simp

def words (text : List Char) : List (List Char) :=
  let pieces := text.foldr (fun c pieces =>
    match pieces with
    | [] => [[c]]
    | piece :: others => if isBlank c then [] :: pieces else (c :: piece) :: others) [[]]
  pieces.filter fun piece => !piece.isEmpty

/-- A text cut at the first character that separates: what is before it, and what is after it if
there is one. -/
def cutFirst (separates : Char → Bool) (text : List Char) : List Char × Option (List Char) :=
  match text.dropWhile fun c => !separates c with
  | [] => (text, none)
  | _ :: after => (text.takeWhile fun c => !separates c, some after)

def join (separator : List Char) : List (List Char) → List Char
  | [] => []
  | [piece] => piece
  | piece :: pieces => piece ++ separator ++ join separator pieces

end Provision.Text

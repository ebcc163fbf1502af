/-!
# Pieces of texts

Whether a text occurs in another one or ends it, and what stands between separators.
-/

set_option autoImplicit false

namespace CloudLifecycle.Text

/-- The piece occurs somewhere in the characters. -/
def occursIn (piece : List Char) : List Char → Bool
  | [] => piece.isEmpty
  | c :: rest => piece.isPrefixOf (c :: rest) || occursIn piece rest

/-- One text occurs in another one. -/
def contains (s piece : String) : Bool := occursIn piece.toList s.toList

/-- One text ends with another one. -/
def endsWith (s ending : String) : Bool := ending.toList.isSuffixOf s.toList

/-- Splits at the first occurrence of a piece. -/
def splitFirst (piece : List Char) : List Char → Option (List Char × List Char)
  | [] => if piece.isEmpty then some ([], []) else none
  | c :: rest =>
    if piece.isPrefixOf (c :: rest) then some ([], (c :: rest).drop piece.length)
    else (splitFirst piece rest).map fun (before, after) => (c :: before, after)

/-- The pieces between a separator. -/
def splitOn (separator : Char) : List Char → List (List Char)
  | [] => [[]]
  | c :: rest =>
    if c = separator then [] :: splitOn separator rest
    else match splitOn separator rest with
      | [] => [[c]]
      | piece :: pieces => (c :: piece) :: pieces

/-- A piece occurs exactly if the text can be split at it. -/
theorem isSome_splitFirst (piece cs : List Char) :
    (splitFirst piece cs).isSome = occursIn piece cs := by
  induction cs with
  | nil => unfold splitFirst occursIn; split <;> simp_all
  | cons c rest ih =>
    unfold splitFirst occursIn
    split
    · simp_all
    · simp_all

end CloudLifecycle.Text

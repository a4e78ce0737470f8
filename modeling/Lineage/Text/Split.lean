/-! Cutting a text at every occurrence of a separator. -/

namespace Lineage.Text

/-- The parts between separators; there is one part more than there are separators. -/
def splitOn (separator : Char) : List Char → List (List Char)
  | [] => [[]]
  | c :: cs =>
    match splitOn separator cs with
    | [] => [[]]
    | part :: parts => if c == separator then [] :: part :: parts else (c :: part) :: parts

theorem splitOn_ne_nil (separator : Char) (cs : List Char) : splitOn separator cs ≠ [] := by
  cases cs with
  | nil => simp [splitOn]
  | cons c cs =>
    unfold splitOn
    split
    · simp
    · split <;> simp

end Lineage.Text

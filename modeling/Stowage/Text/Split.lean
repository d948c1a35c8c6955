/-! Parts of a list of characters between separators. -/
namespace Stowage.Text

/-- The parts between separators: one more than there are separators. -/
def splitOn (separator : Char) : List Char → List (List Char)
  | [] => [[]]
  | c :: cs =>
    if c = separator then [] :: splitOn separator cs
    else
      match splitOn separator cs with
      | part :: parts => (c :: part) :: parts
      | [] => [[c]]

/-- What stands before the first character that the test holds of, and what stands from there on. -/
def cut (test : Char → Bool) (cs : List Char) : List Char × List Char :=
  (cs.takeWhile fun c => !test c, cs.dropWhile fun c => !test c)

def cutAt (c : Char) (cs : List Char) : List Char × Option (List Char) :=
  match cut (· = c) cs with
  | (before, []) => (before, none)
  | (before, _ :: after) => (before, some after)

example : splitOn '.' "a..b".toList = [['a'], [], ['b']] := by decide
example : cutAt '@' "a@b@c".toList = (['a'], some ['b', '@', 'c']) := by decide

end Stowage.Text

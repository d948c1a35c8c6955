/-! Places in a text: lines count from one, columns count the bytes before. -/
namespace Stowage.Text

structure Place where
  line : Nat
  column : Nat
deriving DecidableEq, Repr

namespace Place

def text (p : Place) : String := s!" at line {p.line} column {p.column}"

def advance (offset : Nat) : List Char → Place → Place
  | [], place => place
  | c :: rest, place =>
    if offset < c.utf8Size then ⟨place.line, place.column + offset⟩
    else if c = '\n' then advance (offset - 1) rest ⟨place.line + 1, 0⟩
    else advance (offset - c.utf8Size) rest ⟨place.line, place.column + c.utf8Size⟩

/-- The place of an offset, which counts bytes from the start. -/
def of (text : String) (offset : Nat) : Place := advance offset text.toList ⟨1, 0⟩

example : of "a\n\u00e9b" 4 = ⟨2, 2⟩ := by decide

end Place
end Stowage.Text

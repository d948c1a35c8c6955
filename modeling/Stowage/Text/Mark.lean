import Stowage.Text.MarkTable
import Stowage.Text.Packed

/-! Combining marks, which belong to the character before them. -/
namespace Stowage.Text

def marks : Packed := .ofLines markRows

def isMark (c : Char) : Bool := marks.contains c

def isNonspacing (c : Char) : Bool := marks.value c = 1

end Stowage.Text

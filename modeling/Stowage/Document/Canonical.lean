import Stowage.Document.Writer
import Stowage.Text.Composition

/-! The one text of a document that its digest is taken of: equal documents have equal texts, also when
their characters are composed in different ways. -/
namespace Stowage.Document

/-- Of the characters of a text, only quotes and backslashes are escaped. -/
def quoteComposed (s : String) : String :=
  let escaped := (Text.composed s.toList).flatMap fun c => if c = '"' || c = '\\' then ['\\', c] else [c]
  "\"" ++ String.ofList escaped ++ "\""

def canonical (d : Document) : String := write quoteComposed "" d

end Stowage.Document

import Stowage.Text.Split
import Stowage.Url.Percent

/-! Paths of segments. A segment of dots is a step to where the path is or one back, but not over the
letter of a drive. -/
namespace Stowage.Path

def escapes : String := " \"#<>?`\x7b\x7d"

def isSingleDot (segment : String) : Bool := segment = "." || segment.toLower = "%2e"

def isDoubleDot (segment : String) : Bool :=
  ["..", ".%2e", "%2e.", "%2e%2e"].contains segment.toLower

/-- A letter and a colon or bar, and nothing else in front of a mark that ends a segment somewhere. -/
def startsDrive (segment : List Char) : Bool :=
  match segment with
  | letter :: mark :: rest =>
    letter.isAlpha && (mark = ':' || mark = '|') &&
      rest.head?.all fun c => c = '/' || c = '\\' || c = '?' || c = '#'
  | _ => false

def isDrive (segment : String) : Bool := segment.length = 2 && startsDrive segment.toList

def back : List String → List String
  | [] => []
  | s :: kept => if startsDrive s.toList then s :: kept else kept

/-- A segment as it is kept: the drive at the start of the path of a file is marked by a colon. -/
def kept (isFile : Bool) (before : List String) (segment : String) : String :=
  if isFile && before.isEmpty && isDrive segment then
    String.ofList (segment.toList.take 1) ++ ":"
  else segment

/-- The segments that remain; dots at the end leave an empty one. -/
def resolve (isFile : Bool) (before : List String) : List String → List String
  | [] => before.reverse
  | [last] =>
    if isDoubleDot last then ("" :: back before).reverse
    else if isSingleDot last then ("" :: before).reverse
    else (kept isFile before last :: before).reverse
  | s :: rest =>
    if isDoubleDot s then resolve isFile (back before) rest
    else if isSingleDot s then resolve isFile before rest
    else resolve isFile (kept isFile before s :: before) rest

/-- The segments of what stands behind the first slash. A backslash parts segments as well, in schemes
that are known. -/
def segments (special isFile : Bool) (cs : List Char) : List String :=
  let slashed := if special then cs.map fun c => if c = '\\' then '/' else c else cs
  resolve isFile [] ((Text.splitOn '/' slashed).map (Percent.encode escapes))

def text (segments : List String) : String := "/" ++ String.intercalate "/" segments

example : text (segments true false "a/./b/../c".toList) = "/a/c" := by decide +kernel
example : text (segments true true "C|/../x".toList) = "/C:/x" := by decide +kernel

end Stowage.Path

import Stowage.Number.Decimal
import Stowage.Number.Double
import Stowage.Span.Basic
import Stowage.Text.Blank
import Stowage.Text.Quoted

/-! Reading lengths of time such as `1h30m`: pairs of a numeral and a unit, which are added up as
doubles. -/
namespace Stowage.Span

inductive Unreadable where
  | empty
  | invalid (text : String)
  | unknownUnit (unit text : String)
deriving DecidableEq, Repr

def Unreadable.message : Unreadable → String
  | empty => "empty duration"
  | invalid text => s!"invalid duration {Text.quoted text}"
  | unknownUnit unit text => s!"unknown unit {Text.quoted unit} in duration {Text.quoted text}"

/-- A run of numeral characters and the run of other characters after it. -/
structure Pair where
  numeral : List Char
  unit : List Char
deriving DecidableEq, Repr

def isNumeral (c : Char) : Bool := c.isDigit || c = '.'

def Pair.push (c : Char) (pairs : List Pair) : List Pair :=
  if isNumeral c then
    match pairs with
    | [] => [⟨[c], []⟩]
    | p :: ps => ⟨c :: p.numeral, p.unit⟩ :: ps
  else
    match pairs with
    | ⟨[], unit⟩ :: ps => ⟨[], c :: unit⟩ :: ps
    | ps => ⟨[], [c]⟩ :: ps

/-- The maximal runs of a text, in pairs. -/
def Pair.split (cs : List Char) : List Pair := cs.foldr push []

def unitSeconds (unit : List Char) : Option Number.Double :=
  if unit = ['h'] then some (.ofNat 3600)
  else if unit = ['m'] then some (.ofNat 60)
  else if unit = ['s'] then some (.ofNat 1)
  else if unit = ['m', 's'] then some (.ofDecimal 1 3)
  else if unit = ['u', 's'] ∨ unit = ['µ', 's'] then some (.ofDecimal 1 6)
  else if unit = ['n', 's'] then some (.ofDecimal 1 9)
  else none

def Pair.seconds (text : String) (p : Pair) : Except Unreadable Number.Double :=
  match Number.Decimal.read? p.numeral with
  | none => .error (.invalid text)
  | some d =>
    match unitSeconds p.unit with
    | some seconds => .ok (.ofDecimal d.digits d.places * seconds)
    | none =>
      if p.unit.isEmpty then .error (.invalid text)
      else .error (.unknownUnit (String.ofList p.unit) text)

/-- Adds the pairs to a total, from the left. -/
def addPairs (text : String) (total : Number.Double) : List Pair → Except Unreadable Number.Double
  | [] => .ok total
  | p :: ps => do addPairs text (total + (← p.seconds text)) ps

/-- Rounded to the nearest nanosecond; 2⁶⁴ seconds are too long. -/
def ofDouble? : Number.Double → Option Span
  | .infinite => none
  | .finite units =>
    if units < UInt64.size * Number.unitsPerOne then
      some ⟨Number.roundDiv (units * nanosPerSecond) Number.unitsPerOne⟩
    else none

def read (text : String) : Except Unreadable Span :=
  let cs := Text.trimChars text.toList
  if cs.isEmpty then .error .empty
  else if cs = ['0'] then .ok zero
  else do
    match ofDouble? (← addPairs text .zero (Pair.split cs)) with
    | some span => return span
    | none => .error (.invalid text)

def standard : Span := ofSeconds 600

def ofSetting (setting : Option String) : Span :=
  match setting.map read with
  | some (.ok span) => span
  | _ => standard

end Stowage.Span

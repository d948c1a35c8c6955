import Stowage.Document.Numeral
import Stowage.Table

/-! Documents: null, booleans, numbers, texts, arrays, and objects. The members of an object are a
table, so a document made with `ofMembers` has its keys in order and none twice. -/
namespace Stowage

inductive Document where
  | null
  | bool (value : Bool)
  | number (value : Numeral)
  | string (value : String)
  | array (items : List Document)
  | object (members : List (String × Document))

namespace Document

instance : Inhabited Document := ⟨null⟩

def ofMembers (members : List (String × Document)) : Document := object (Table.ofList members)

/-- Members that are there; the others are left out. -/
def ofPresent (members : List (String × Option Document)) : Document :=
  ofMembers (members.filterMap fun (name, d) => d.map (name, ·))

def nat (n : Nat) : Document := number (.natural n)

def int64 (n : Int64) : Document := number (.ofInt n.toInt)

def isObject : Document → Bool
  | object _ => true
  | _ => false

def isNull : Document → Bool
  | null => true
  | _ => false

/-- The members of an object; other documents have none. -/
def members : Document → List (String × Document)
  | object ms => ms
  | _ => []

def get? (name : String) (d : Document) : Option Document := Table.get? name d.members

def kind : Document → String
  | null => "null"
  | bool _ => "boolean"
  | number _ => "number"
  | string _ => "string"
  | array _ => "array"
  | object _ => "object"

mutual
/-- Documents agree when they have the same shape and their numbers agree. -/
def agrees : Document → Document → Bool
  | null, null => true
  | bool a, bool b => a = b
  | number a, number b => a.agrees b
  | string a, string b => a = b
  | array a, array b => agreesItems a b
  | object a, object b => agreesMembers a b
  | _, _ => false

def agreesItems : List Document → List Document → Bool
  | [], [] => true
  | a :: as, b :: bs => agrees a b && agreesItems as bs
  | _, _ => false

def agreesMembers : List (String × Document) → List (String × Document) → Bool
  | [], [] => true
  | (k, a) :: as, (l, b) :: bs => k = l && agrees a b && agreesMembers as bs
  | _, _ => false
end

instance : BEq Document := ⟨agrees⟩

mutual
theorem agrees_refl : (d : Document) → d.agrees d = true
  | null => rfl
  | bool _ => by simp [agrees]
  | number n => by simp [agrees, Numeral.agrees_refl]
  | string _ => by simp [agrees]
  | array items => by simp [agrees, agreesItems_refl items]
  | object ms => by simp [agrees, agreesMembers_refl ms]

theorem agreesItems_refl : (ds : List Document) → agreesItems ds ds = true
  | [] => rfl
  | d :: ds => by simp [agreesItems, agrees_refl d, agreesItems_refl ds]

theorem agreesMembers_refl : (ms : List (String × Document)) → agreesMembers ms ms = true
  | [] => rfl
  | (_, d) :: ms => by simp [agreesMembers, agrees_refl d, agreesMembers_refl ms]
end

end Document
end Stowage

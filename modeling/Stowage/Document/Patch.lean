import Stowage.Document.Basic

/-! Merge patches: the changes from one document to another, and their application. In a patch a null
takes a member away, and an object goes into the member of its name. -/
namespace Stowage.Document

mutual
/-- What has to be merged into `base` to change it into the target; nothing where the two agree. -/
def changes (base : Document) : Document → Option Document
  | object ts =>
    match base with
    | object bs =>
      let gone := bs.filterMap fun (k, _) => if (Table.get? k ts).isNone then some (k, null) else none
      match Table.ofList (memberChanges bs ts ++ gone) with
      | [] => none
      | ms => some (object ms)
    | _ => some (object ts)
  | target => if base == target then none else some target

def memberChanges (base : List (String × Document)) :
    List (String × Document) → List (String × Document)
  | [] => []
  | (k, t) :: ts =>
    match Table.get? k base with
    | none => (k, t) :: memberChanges base ts
    | some b =>
      if b == t then memberChanges base ts
      else if b.isObject && t.isObject then
        match changes b t with
        | none => memberChanges base ts
        | some patch => (k, patch) :: memberChanges base ts
      else (k, t) :: memberChanges base ts
end

mutual
/-- A patch that is no object replaces the document. -/
def merge (d : Document) : Document → Document
  | object ps => object (mergeMembers d.members ps)
  | patch => patch

def mergeMembers (table : List (String × Document)) :
    List (String × Document) → List (String × Document)
  | [] => table
  | (k, p) :: ps =>
    let table :=
      if p.isNull then Table.erase k table
      else Table.put k (merge ((Table.get? k table).getD null) p) table
    mergeMembers table ps
end

def mergeAll (d : Document) (patch : Option Document) : Document :=
  match patch with
  | none => d
  | some p => d.merge p

end Stowage.Document

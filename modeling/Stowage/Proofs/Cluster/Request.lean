import Mathlib.Data.List.TakeWhile
import Stowage.Cluster.Store
import Stowage.Proofs.Destination
import Stowage.Proofs.Filing
import Stowage.Proofs.Kinds

/-! Requests as a server reads them. The path tells the slot by its segments, and method and content type tell
what is to be done there. A call that is about names which can stand in a path is read as itself. -/
namespace Stowage

namespace Text

def joined (separator : Char) : List (List Char) → List Char
  | [] => []
  | [part] => part
  | part :: parts => part ++ separator :: joined separator parts

theorem mem_joined {separator c : Char} {parts : List (List Char)} (member : c ∈ joined separator parts) :
    c = separator ∨ ∃ part ∈ parts, c ∈ part := by
  induction parts with
  | nil => cases member
  | cons part parts ih =>
    cases parts with
    | nil => exact .inr ⟨part, .head _, member⟩
    | cons next parts =>
      rw [joined, List.mem_append, List.mem_cons] at member
      · rcases member with inside | same | later
        · exact .inr ⟨part, .head _, inside⟩
        · exact .inl same
        · refine (ih later).imp_right ?_
          rintro ⟨part, there, inside⟩
          exact ⟨part, .tail _ there, inside⟩
      · simp

theorem splitOn_joined {separator : Char} {parts : List (List Char)} (given : parts ≠ [])
    (apart : ∀ part ∈ parts, separator ∉ part) : splitOn separator (joined separator parts) = parts := by
  induction parts with
  | nil => exact absurd rfl given
  | cons part parts ih =>
    have first : separator ∉ part := apart part (.head _)
    cases parts with
    | nil => exact splitOn_of_none first
    | cons next parts =>
      have later := ih (by simp) fun part member => apart part (.tail _ member)
      rw [joined, splitOn_append first, later]
      simp

theorem cut_of_none {c : Char} {xs : List Char} (apart : c ∉ xs) : cut (· = c) xs = (xs, []) := by
  have keep : ∀ x ∈ xs, (!decide (x = c)) = true := by
    intro x member
    have differ : x ≠ c := fun same => apart (same ▸ member)
    simp [differ]
  rw [cut, List.takeWhile_eq_self_iff.mpr keep, List.dropWhile_eq_nil_iff.mpr keep]

theorem cut_of_first {c : Char} {xs : List Char} (apart : c ∉ xs) (ys : List Char) :
    cut (· = c) (xs ++ c :: ys) = (xs, c :: ys) := by
  induction xs with
  | nil => simp [cut]
  | cons x xs ih =>
    obtain ⟨differ, later⟩ := not_or.mp (mt List.mem_cons.mpr apart)
    have rest := ih later
    simp only [cut, Prod.mk.injEq] at rest ⊢
    simp [Ne.symm differ, rest]

end Text

namespace Cluster

/-- Characters that a name in a path can have: none that a path ends with or is put together with. -/
def isPlainChar (c : Char) : Bool :=
  isPathChar c && c ≠ '/' && c ≠ '?' && c ≠ '#' && c ≠ '%'

/-- A slot with a key that can stand in a path as it is, and that makes the target of no call about the slot longer
than a target may be. -/
structure Plain (slot : Slot) : Prop where
  named : slot.key.name ≠ ""
  namespaceChars : ∀ c ∈ slot.key.namespace.toList, isPlainChar c = true
  nameChars : ∀ c ∈ slot.key.name.toList, isPlainChar c = true
  short : ∀ c : Call, c.slot = slot → (draft c).target.utf8ByteSize ≤ 65534

inductive Intent where
  | get (slot : Slot)
  | create (slot : Slot) (d : Document)
  | patch (slot : Slot) (patch : Document)
  | patchStatus (slot : Slot) (patch : Document)

namespace Intent

def segments (target : String) : List String :=
  (Text.splitOn '/' (Text.cut (· = '?') target.toList).1).map String.ofList

def slot? (plural : String) (key : ObjectKey) : Option Slot :=
  if plural = ClusterObject.plural Resource then some (.resource key)
  else if plural = ClusterObject.plural ComponentDescriptor then some (.descriptor key)
  else if plural = ClusterObject.plural Snapshot then some (.snapshot key)
  else none

def givenName? (d : Document) : Option String :=
  match (d.get? "metadata").bind (·.get? "name") with
  | some (.string name) => some name
  | _ => none

def below? (r : Request) (plural ns : String) : List String → Option Intent
  | [] => do
    let d ← r.body
    let slot ← slot? plural ⟨ns, ← givenName? d⟩
    if r.method = "POST" then some (create slot d) else none
  | [name] => do
    let slot ← slot? plural ⟨ns, name⟩
    if r.method = "GET" then some (get slot)
    else if r.method = "PATCH" ∧ r.contentType = some "application/merge-patch+json" then
      patch slot <$> r.body
    else none
  | [name, part] => do
    let slot ← slot? plural ⟨ns, name⟩
    if r.method = "PATCH" ∧ r.contentType = some "application/merge-patch+json" ∧ part = "status" then
      patchStatus slot <$> r.body
    else none
  | _ => none

def read? (r : Request) : Option Intent :=
  match segments r.target with
  | root :: apis :: group :: version :: scope :: ns :: plural :: rest =>
    if [root, apis, group, version, scope] = ["", "apis", apiGroup, apiGroupVersion, "namespaces"] then
      below? r plural ns rest
    else none
  | _ => none

def ofCall : Call → Intent
  | .getResource key => get (.resource key)
  | .getDescriptor key => get (.descriptor key)
  | .getSnapshot key => get (.snapshot key)
  | .createSnapshot p => create (.snapshot p.key) p.document
  | .updateSnapshot key spec => patch (.snapshot key) (.ofMembers [("spec", spec.document)])
  | .patchStatus key changes => patchStatus (.resource key) changes

end Intent
/-- A target with these segments, and at most an empty query. -/
structure Laid (target : String) (parts : List String) : Prop where
  chars : ∃ query, (query = [] ∨ query = ['?']) ∧
    target.toList = Text.joined '/' (parts.map String.toList) ++ query
  given : parts ≠ []
  plain : ∀ part ∈ parts, ∀ c ∈ part.toList, isPlainChar c = true

namespace Laid

variable {target : String} {parts : List String}

theorem mem_joined (laid : Laid target parts) {c : Char}
    (member : c ∈ Text.joined '/' (parts.map String.toList)) : c = '/' ∨ isPlainChar c = true := by
  refine (Text.mem_joined member).imp_right ?_
  rintro ⟨_, there, inside⟩
  obtain ⟨part, here, rfl⟩ := List.mem_map.mp there
  exact laid.plain part here c inside

theorem cut_query (laid : Laid target parts) :
    Text.cut (· = '?') target.toList = (Text.joined '/' (parts.map String.toList), []) ∨
      Text.cut (· = '?') target.toList = (Text.joined '/' (parts.map String.toList), ['?']) := by
  have apart : '?' ∉ Text.joined '/' (parts.map String.toList) := fun member =>
    absurd (laid.mem_joined member) (by decide)
  obtain ⟨query, rfl | rfl, chars⟩ := laid.chars
  · rw [chars, List.append_nil]
    exact .inl (Text.cut_of_none apart)
  · rw [chars]
    exact .inr (Text.cut_of_first apart [])

theorem segments (laid : Laid target parts) : Intent.segments target = parts := by
  have path : (Text.cut (· = '?') target.toList).1 = Text.joined '/' (parts.map String.toList) := by
    rcases laid.cut_query with cut | cut <;> rw [cut]
  rw [Intent.segments, path, Text.splitOn_joined (by simpa using laid.given)]
  · simp [Function.comp_def]
  · intro _ member slash
    obtain ⟨part, here, rfl⟩ := List.mem_map.mp member
    exact absurd (laid.plain part here '/' slash) (by decide)

/-- Such a target is sent as it is. -/
theorem readTarget (laid : Laid target parts) (short : target.utf8ByteSize ≤ 65534) :
    Cluster.readTarget target = .ok target := by
  have path : ∀ c ∈ Text.joined '/' (parts.map String.toList), isPathChar c = true ∧ c ≠ '#' := by
    intro c member
    rcases laid.mem_joined member with rfl | plain
    · decide
    · simp only [isPlainChar, Bool.and_eq_true, decide_eq_true_eq] at plain
      exact ⟨plain.1.1.1.1, plain.1.2⟩
  have whole : Text.cut (· = '#') target.toList = (target.toList, []) := by
    apply Text.cut_of_none
    obtain ⟨query, query', chars⟩ := laid.chars
    rw [chars, List.mem_append]
    rintro (member | member)
    · exact (path _ member).2 rfl
    · rcases query' with rfl | rfl <;> simp at member
  have valid : (Text.joined '/' (parts.map String.toList)).all isPathChar = true :=
    List.all_eq_true.mpr fun c member => (path c member).1
  have fits : ¬ 65534 < target.utf8ByteSize := Nat.not_lt.mpr short
  rw [Cluster.readTarget, if_neg fits, whole]
  rcases laid.cut_query with cut | cut <;> simp [cut, valid, isQueryChar]

end Laid

def parts (c : Call) : List String :=
  ["", "apis", apiGroup, apiGroupVersion, "namespaces", c.key.namespace, plural c] ++
    match c with
    | .createSnapshot _ => []
    | .patchStatus .. => [c.key.name, "status"]
    | _ => [c.key.name]

theorem toList_collection (plural ns : String) : (collection plural ns).toList =
    Text.joined '/' (["", "apis", apiGroup, apiGroupVersion, "namespaces", ns, plural].map String.toList) := by
  change ("/apis/" ++ apiVersion ++ "/namespaces/" ++ ns ++ "/" ++ plural).toList = _
  simp [apiVersion, Text.joined, apiGroup, apiGroupVersion]

theorem toList_item (plural ns name : String) : (collection plural ns ++ "/" ++ name).toList =
    Text.joined '/'
      (["", "apis", apiGroup, apiGroupVersion, "namespaces", ns, plural, name].map String.toList) := by
  rw [String.toList_append, String.toList_append, toList_collection]
  simp [Text.joined]

theorem fixed_plain : ∀ part ∈ ["", "apis", apiGroup, apiGroupVersion, "namespaces", "resources",
    "componentdescriptors", "snapshots", "status"], ∀ c ∈ part.toList, isPlainChar c = true := by
  -- Letter by letter, as deciding it of all characters goes through each that there is.
  have plain : ∀ part ∈ ["", "apis", apiGroup, apiGroupVersion, "namespaces", "resources",
      "componentdescriptors", "snapshots", "status"], part.toList.all isPlainChar = true := by decide
  exact fun part member => List.all_eq_true.mp (plain part member)

theorem plural_mem (c : Call) : plural c ∈ ["resources", "componentdescriptors", "snapshots"] := by
  cases c <;> simp [plural, ClusterObject.plural]

variable {c : Call}

theorem parts_plain (plain : Plain c.slot) : ∀ part ∈ parts c, ∀ x ∈ part.toList, isPlainChar x = true := by
  have plural := plural_mem c
  have below : ∀ part ∈ parts c, part ∈ ["", "apis", apiGroup, apiGroupVersion, "namespaces",
      "resources", "componentdescriptors", "snapshots", "status"] ∨ part = c.key.namespace ∨
        part = c.key.name := by
    intro part member
    cases c <;> simp [parts] at member plural ⊢ <;> grind
  intro part member
  rcases below part member with there | rfl | rfl
  · exact fixed_plain part there
  · exact Slot.key_slot c ▸ plain.namespaceChars
  · exact Slot.key_slot c ▸ plain.nameChars

theorem draft_laid (plain : Plain c.slot) : Laid (draft c).target (parts c) where
  given := by simp [parts]
  plain := parts_plain plain
  chars := by
    cases c with
    | getResource | getDescriptor | getSnapshot => exact ⟨[], .inl rfl, by rw [List.append_nil]; exact toList_item ..⟩
    | createSnapshot p =>
      refine ⟨['?'], .inr rfl, ?_⟩
      change (collection _ _ ++ "?").toList = _
      rw [String.toList_append, toList_collection]
      rfl
    | updateSnapshot key spec =>
      refine ⟨['?'], .inr rfl, ?_⟩
      change (collection _ _ ++ "/" ++ _ ++ "?").toList = _
      rw [String.toList_append, toList_item]
      rfl
    | patchStatus key changes =>
      refine ⟨['?'], .inr rfl, ?_⟩
      change (collection _ _ ++ "/" ++ _ ++ "/status?").toList = _
      rw [String.toList_append, toList_item]
      simp [parts, Text.joined, Call.key, plural]

theorem size_collection (plural ns : String) :
    (collection plural ns).utf8ByteSize = 49 + ns.utf8ByteSize + plural.utf8ByteSize := by
  change ("/apis/" ++ apiVersion ++ "/namespaces/" ++ ns ++ "/" ++ plural).utf8ByteSize = _
  have start : ("/apis/" ++ apiVersion ++ "/namespaces/").utf8ByteSize = 48 := by decide
  have slash : "/".utf8ByteSize = 1 := by decide
  simp only [String.utf8ByteSize_append] at start ⊢
  omega

theorem draft_size (c : Call) :
    (draft c).target.utf8ByteSize ≤ 70 + c.key.namespace.utf8ByteSize + c.key.name.utf8ByteSize := by
  have resources : (ClusterObject.plural Resource).utf8ByteSize = 9 := by decide
  have descriptors : (ClusterObject.plural ComponentDescriptor).utf8ByteSize = 20 := by decide
  have snapshots : (ClusterObject.plural Snapshot).utf8ByteSize = 9 := by decide
  have slash : "/".utf8ByteSize = 1 := by decide
  have mark : "?".utf8ByteSize = 1 := by decide
  have status : "/status?".utf8ByteSize = 8 := by decide
  cases c <;>
    simp only [draft, mergePatch, plural, String.utf8ByteSize_append, size_collection, resources, descriptors,
      snapshots, slash, mark, status] <;>
    omega

/-- Names that are labels of domains are far from being too long. -/
theorem Plain.of_size {slot : Slot} (named : slot.key.name ≠ "")
    (namespaceChars : slot.key.namespace.toList.all isPlainChar = true)
    (nameChars : slot.key.name.toList.all isPlainChar = true)
    (size : slot.key.namespace.utf8ByteSize + slot.key.name.utf8ByteSize ≤ 65464) : Plain slot where
  named
  namespaceChars := List.all_eq_true.mp namespaceChars
  nameChars := List.all_eq_true.mp nameChars
  short := by
    rintro c rfl
    rw [Slot.key_slot] at size
    have bound := draft_size c
    omega

/-- A call about a plain key makes its request. -/
theorem request_eq (plain : Plain c.slot) : request c = .ok (draft c) := by
  have named : c.key.name.isEmpty = false := by
    simpa using plain.named
  have sent := (draft_laid plain).readTarget (plain.short c rfl)
  simp only [request, named, sent, Bool.and_false]
  rfl

/-- Without a name no request is made. -/
theorem request_nameless (needs : needsName c = true) (nameless : c.key.name = "") : request c = .error .noName := by
  simp [request, needs, nameless]

theorem givenName?_document {p : Snapshot} (given : p.metadata.name = some p.key.name) :
    Intent.givenName? p.document = some p.key.name := by
  have metadata : p.document.get? "metadata" = some p.metadata.document := get?_kindDocument ..
  have name : p.metadata.document.get? "name" = p.metadata.name.map .string :=
    Document.get?_ofPresent "name" (by simp [Table.keys])
  rw [Intent.givenName?, metadata, Option.bind_some, name, given]
  rfl

def NameGiven : Call → Prop
  | .createSnapshot p => p.metadata.name = some p.key.name
  | _ => True

/-- The request of a call is read as what the call comes down to. -/
theorem read?_draft (plain : Plain c.slot) (given : NameGiven c) :
    Intent.read? (draft c) = some (Intent.ofCall c) := by
  rw [Intent.read?, (draft_laid plain).segments]
  cases c with
  | createSnapshot p =>
    have name := givenName?_document given
    change Intent.below? (draft (.createSnapshot p)) _ _ [] = _
    simp only [Intent.below?, draft, Option.bind_eq_bind, Option.bind_some, name]
    rfl
  | getResource | getDescriptor | getSnapshot | updateSnapshot | patchStatus => rfl

end Cluster
end Stowage

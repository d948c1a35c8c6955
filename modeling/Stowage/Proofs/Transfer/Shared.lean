import Stowage.Command.Run
import Stowage.Proofs.Pass.Owned
import Stowage.Proofs.Transfer.Staged

/-! What a transfer depends on. Of an entry it is the version and the global access, of a resource the template
of the snapshot, so a transfer from flags is the same as that of a pass. -/
namespace Stowage

namespace Access

/-- A document with this repository and digest as its global access, next to anything else. -/
def Gives (access : GlobalAccess) (d : Document) : Prop :=
  ∃ ms, d.get? "globalAccess" = some (.object ms) ∧
    Table.get? "ref" ms = some (.string access.reference) ∧
    Table.get? "digest" ms = some (.string access.digest)

theorem requiredText_congr {field : String} {d d' : Document} (same : d.get? field = d'.get? field) :
    requiredText field d = requiredText field d' := by
  rw [requiredText, requiredText, same]

/-- Only an object has members. -/
theorem read_of_get? {d : Document} {ms : List (String × Document)}
    (found : d.get? "globalAccess" = some (.object ms)) :
    read d = (do
      let reference ← requiredText "ref" (.object ms)
      let digest ← requiredText "digest" (.object ms)
      return ⟨reference, digest⟩) := by
  cases d with
  | object members =>
    rw [read, found]
  | null | bool | number | string | array => cases found

/-- Documents that give the same access are read alike, and are refused alike. -/
theorem read_congr {access : GlobalAccess} {d d' : Document} (gives : Gives access d)
    (gives' : Gives access d') : read d = read d' := by
  obtain ⟨ms, found, reference, digest⟩ := gives
  obtain ⟨ms', found', reference', digest'⟩ := gives'
  have sameReference : requiredText "ref" (.object ms) = requiredText "ref" (.object ms') :=
    requiredText_congr (reference.trans reference'.symm)
  have sameDigest : requiredText "digest" (.object ms) = requiredText "digest" (.object ms') :=
    requiredText_congr (digest.trans digest'.symm)
  rw [read_of_get? found, read_of_get? found', sameReference, sameDigest]

theorem gives_document (access : GlobalAccess) : Gives access (document access) := by
  refine ⟨_, rfl, ?_, ?_⟩ <;> rfl

end Access

/-- An entry with this version and access, under any name and of any type. -/
structure ResourceEntry.Carries (access : GlobalAccess) (version : String) (entry : ResourceEntry) : Prop where
  version : entry.version = version
  access : Access.Gives access entry.access

theorem Command.flagEntry_carries (access : GlobalAccess) (version name : String) :
    (flagEntry access version name).Carries access version :=
  ⟨rfl, Access.gives_document access⟩

namespace Transfer

variable {entry entry' : ResourceEntry}

theorem plan_congr (destination : String) (version : entry.version = entry'.version)
    (access : Access.read entry.access = Access.read entry'.access) :
    plan destination entry = plan destination entry' := by
  rw [plan, plan, version, access]

/-- Past the plan, the entry is not looked at again. -/
theorem run_congr (registry : String) (scheme : Scheme) (destination : String)
    (version : entry.version = entry'.version)
    (access : Access.read entry.access = Access.read entry'.access) :
    run registry scheme destination entry = run registry scheme destination entry' := by
  have same : stages registry scheme destination entry = stages registry scheme destination entry' := by
    rw [stages, stages, plan_congr destination version access]
  rw [run, run, same]

theorem run_of_carries {access : GlobalAccess} {version : String} (registry : String) (scheme : Scheme)
    (destination : String) (carries : entry.Carries access version) (carries' : entry'.Carries access version) :
    run registry scheme destination entry = run registry scheme destination entry' :=
  run_congr registry scheme destination (carries.version.trans carries'.version.symm)
    (Access.read_congr carries.access carries'.access)

end Transfer

/-- The destination of a resource is that of its template. -/
theorem Resource.destination_congr {r : Resource} {name tag : String} (address : String)
    (template : r.spec.snapshotTemplate = ⟨name, tag⟩) :
    r.destination address = .of address name tag := by
  rw [destination, template]

namespace Pass

variable (registry : String) (fallback : Span) (key : ObjectKey)

/-- All transfers of a history are for the one resource that was loaded, to the destination of its template. -/
def Aimed (h : List Event) : Prop :=
  ∀ a ∈ attempts h, ∃ r, loaded h = [r] ∧ a.destination = (r.destination registry).reference

variable {registry key} in
theorem aimed_of_attempts {h : List Event} (none : attempts h = []) : Aimed registry h := by
  intro a member
  rw [none] at member
  cases member

variable {registry key} in
theorem Aimed.record {h : List Event} (aimed : Aimed registry h) (m : Meter) :
    Aimed registry (h ++ [⟨.record m, ()⟩]) := by
  intro a member
  have still : attempts [⟨.record m, ()⟩] = [] := rfl
  rw [attempts_append, still, List.append_nil] at member
  obtain ⟨r, loads, destination⟩ := aimed a member
  refine ⟨r, ?_, destination⟩
  rw [loaded_append, loads]
  rfl

variable {registry key} in
/-- With one resource loaded, settling it transfers to its destination. -/
theorem aimed_of_settled {h asked : List Event} {r : Resource} (loads : loaded h = [r])
    (none : attempts h = [])
    (settles : ∀ e ∈ asked, Handles r (r.destination registry) e.1 ∨
      ∃ patch, e.1 = .call (.patchStatus key patch)) : Aimed registry (h ++ asked) := by
  have quiet : loaded asked = [] := by
    rw [loaded, List.filterMap_eq_nil_iff]
    rintro ⟨q, a⟩ member
    rcases settles _ member with handles | ⟨patch, same⟩
    · rcases handles with _ | ⟨_ | _ | _ | _⟩ <;> rfl
    · cases same
      rfl
  intro a member
  refine ⟨r, by rw [loaded_append, loads, quiet, List.append_nil], ?_⟩
  rw [attempts_append, none, List.nil_append, attempts, List.mem_filterMap] at member
  obtain ⟨⟨q, result⟩, member, attempt⟩ := member
  rcases settles _ member with handles | ⟨patch, same⟩
  · rcases handles with entry | ⟨_ | _ | _ | _⟩
    · cases attempt
      rfl
    all_goals cases attempt
  · cases same
    cases attempt

theorem run_aimed :
    (run registry fallback key).Upholds (fun _ _ => True) (fun h _ => Aimed registry h) [] := by
  have converges : (converge registry fallback key).Upholds (fun _ _ => True)
      (fun h _ => Aimed registry h) [⟨.record .passes, ()⟩] := by
    rw [converge]
    refine ⟨trivial, ?_⟩
    rintro (e | _ | r)
    · exact aimed_of_attempts rfl
    · exact aimed_of_attempts rfl
    · refine ⟨trivial, ?_⟩
      rintro (e | _ | c)
      · exact aimed_of_attempts rfl
      · exact ⟨trivial, fun _ => aimed_of_attempts rfl⟩
      · refine Dialogue.Upholds.bind (d := settle registry key r c)
          ((settle_asks registry key r c).upholds (Dialogue.returns_true _) fun _ _ _ => trivial) ?_
        rintro h (e | _) ⟨⟨asked, rfl, settles⟩, -⟩ <;> exact aimed_of_settled rfl rfl settles
  rw [run]
  refine ⟨trivial, fun _ => ?_⟩
  refine Dialogue.Upholds.bind (d := converge registry fallback key) converges ?_
  rintro h (f | q) aimed
  · exact ⟨trivial, fun _ => ⟨trivial, fun _ => (aimed.record _).record _⟩⟩
  · exact ⟨trivial, fun _ => aimed.record _⟩

/-- Whatever a pass is answered, its transfers go to the destination of the resource that it loaded. -/
theorem destination_of_transfer {σ : Type} (answer : (q : Demand) → σ → q.Answer × σ) (s : σ)
    {destination : String} {entry : ResourceEntry} {result : Except TransferFault TransferReport} {r : Resource}
    (asked : ⟨.transfer destination entry, result⟩ ∈ (run registry fallback key).history answer s)
    (found : r ∈ loaded ((run registry fallback key).history answer s)) :
    destination = (r.destination registry).reference := by
  have aimed := (run_aimed registry fallback key).history answer s
  rw [List.nil_append] at aimed
  obtain ⟨r', loads, same⟩ := aimed ⟨destination, entry, result⟩
    (List.mem_filterMap.mpr ⟨_, asked, rfl⟩)
  rw [loads, List.mem_singleton] at found
  rw [found]
  exact same

end Pass

/-- A transfer that a pass makes for an entry is the transfer from flags with the version and the access of the
entry and the template of the resource. In any world the two connect to the same proxy, make the same request,
publish the same image to the same reference and come to the same report or fault. -/
theorem Transfer.same_from_flags (o : RegistryOptions) (fallback : Span) (key : ObjectKey) {σ τ : Type}
    (answer : (q : Demand) → σ → q.Answer × σ) (s : σ) (world : (e : Errand) → τ → e.Answer × τ) (t : τ)
    (r : Resource) (destination : String) (entry : ResourceEntry)
    (result : Except TransferFault TransferReport) (access : GlobalAccess) (version name tag : String)
    (found : r ∈ loaded ((Pass.run o.address fallback key).history answer s))
    (asked : ⟨.transfer destination entry, result⟩ ∈ (Pass.run o.address fallback key).history answer s)
    (template : r.spec.snapshotTemplate = ⟨name, tag⟩) (carries : entry.Carries access version) :
    let made := Transfer.run o.address o.pullScheme destination entry
    let flagged := Transfer.run o.address o.pullScheme (Destination.of o.address name tag).reference
      (Command.flagEntry access version name)
    made.history world t = flagged.history world t ∧ made.run world t = flagged.run world t ∧
    Contact.ofDemand o (.transfer destination entry) = Command.flagTransfer o access version name tag := by
  have aimed : destination = (Destination.of o.address name tag).reference := by
    rw [Pass.destination_of_transfer o.address fallback key answer s asked found,
      Resource.destination_congr o.address template]
  have same : Transfer.run o.address o.pullScheme destination entry =
      Transfer.run o.address o.pullScheme (Destination.of o.address name tag).reference
        (Command.flagEntry access version name) := by
    rw [aimed]
    exact run_of_carries o.address o.pullScheme _ carries (Command.flagEntry_carries access version name)
  refine ⟨by rw [same], by rw [same], ?_⟩
  rw [Contact.ofDemand, Contact.transfer, same, Command.flagTransfer, Contact.transfer]

namespace Example

def options : RegistryOptions := ⟨"registry:5000/", .http, .http, 300⟩

def richEntry : ResourceEntry where
  name := "chart"
  version := "1"
  type := some "helm"
  access := .ofMembers [
    ("globalAccess", .ofMembers [("ref", .string hashed.reference), ("digest", .string hashed.digest),
      ("mediaType", .string "application/gzip")]),
    ("localAccess", .null)]

theorem richEntry_carries : richEntry.Carries hashed "1" := by
  refine ⟨rfl, _, rfl, ?_, ?_⟩ <;> rfl

def catalogue : (q : Demand) → Unit → q.Answer × Unit
  | .call (.getResource _), _ => (.ok (some resource), ())
  | .call (.getDescriptor _), _ => (.ok (some { component with spec := ⟨none, [richEntry]⟩ }), ())
  | .call (.getSnapshot _), _ => (.ok none, ())
  | .call (.createSnapshot p), _ => (.ok p, ())
  | .call (.updateSnapshot _ spec), _ => (.ok ⟨{}, spec⟩, ())
  | .call (.patchStatus ..), _ => (.ok (), ())
  | .transfer .., _ => (.ok report, ())
  | .record _, _ => ((), ())

end Example

open Example in
/-- The entry is transferred as flags with its version and access would have it. -/
theorem Transfer.same_from_flags_of_richEntry :
    (⟨.transfer (resource.destination options.address).reference richEntry, .ok report⟩ : Event) ∈
      (Pass.run options.address .zero ⟨"shop", "web"⟩).history catalogue () ∧
    (Transfer.run options.address .http (resource.destination options.address).reference richEntry).history
        obliging () =
      (Transfer.run options.address .http (Destination.of options.address "web" "stable").reference
        (Command.flagEntry hashed "1" "web")).history obliging () ∧
    Contact.ofDemand options (.transfer (resource.destination options.address).reference richEntry) =
      Command.flagTransfer options hashed "1" "web" "stable" := by
  have found : resource ∈ loaded ((Pass.run options.address .zero ⟨"shop", "web"⟩).history catalogue ()) :=
    .head _
  have asked : (⟨.transfer (resource.destination options.address).reference richEntry, .ok report⟩ : Event) ∈
      (Pass.run options.address .zero ⟨"shop", "web"⟩).history catalogue () :=
    .tail _ (.tail _ (.tail _ (.head _)))
  obtain ⟨history, -, contacts⟩ := same_from_flags options .zero ⟨"shop", "web"⟩ catalogue () obliging ()
    resource _ richEntry (.ok report) hashed "1" "web" "stable" found asked rfl richEntry_carries
  exact ⟨asked, history, contacts⟩

end Stowage

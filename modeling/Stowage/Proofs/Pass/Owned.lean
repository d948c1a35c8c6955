import Stowage.Proofs.Pass.Frame
import Stowage.Proofs.Pass.Interleaved

/-! Whom a snapshot belongs to. Passes that run into each other create each snapshot once at most, for a
resource that one of them loaded, and nothing changes to whom it belongs. -/
namespace Stowage

namespace Pass

variable (registry : String) (fallback : Span) (key : ObjectKey)

/-- What a pass may ask after a history: of the resources it loads its own, and it creates snapshots only for
what it loaded. -/
def Grounded (h : List Event) : Demand → Prop
  | .call (.getResource k) => k = key
  | .call (.createSnapshot p) => ∃ r ∈ loaded h, ∃ spec, p = newSnapshot r spec
  | _ => True

theorem settle_asks (r : Resource) (c : ComponentDescriptor) :
    (settle registry key r c).AsksOnly fun q =>
      Handles r (r.destination registry) q ∨ ∃ patch, q = .call (.patchStatus key patch) := by
  rw [settle]
  refine Dialogue.AsksOnly.bind ((applyEntries_asks ..).mono fun _ => .inl) ?_
  rintro (e | status)
  · trivial
  · exact (patchStatus_asks ..).mono fun _ => .inr

variable {key} in
theorem Handles.grounded {r : Resource} {d : Destination} {q : Demand} {h : List Event}
    (handles : Handles r d q) (member : r ∈ loaded h) : Grounded key h q := by
  cases handles with
  | transfer => trivial
  | write writes =>
    cases writes with
    | get | update | record => trivial
    | create => exact ⟨r, member, _, rfl⟩

theorem run_grounded :
    (run registry fallback key).Upholds (Grounded key) (fun _ _ => True) [] := by
  rw [run]
  refine ⟨trivial, fun _ => ?_⟩
  have converges : (converge registry fallback key).Upholds (Grounded key) (fun _ _ => True)
      ([] ++ [⟨.record .passes, ()⟩]) := by
    rw [converge]
    refine ⟨rfl, ?_⟩
    rintro (e | _ | r)
    · trivial
    · trivial
    · refine ⟨trivial, ?_⟩
      rintro (e | _ | c)
      · trivial
      · exact ⟨trivial, fun _ => trivial⟩
      · refine Dialogue.Upholds.bind (d := settle registry key r c)
          ((settle_asks registry key r c).upholds (Dialogue.returns_true _) ?_) ?_
        · rintro asked q (handles | ⟨patch, rfl⟩)
          · exact handles.grounded (by rw [loaded_append]; exact List.mem_append_left _ (.head _))
          · trivial
        · rintro h (e | _) - <;> trivial
  refine Dialogue.Upholds.bind (d := converge registry fallback key) converges ?_
  rintro h (f | q) -
  · exact ⟨trivial, fun _ => ⟨trivial, fun _ => trivial⟩⟩
  · exact ⟨trivial, fun _ => trivial⟩

/-- A new snapshot is made of what does not change of a resource. -/
theorem newSnapshot_congr {r r' : Resource} (same : r.fixed = r'.fixed) (spec : SnapshotSpec) :
    newSnapshot r spec = newSnapshot r' spec := by
  obtain ⟨metadata, spec, status⟩ := r
  obtain ⟨metadata', spec', status'⟩ := r'
  cases same
  rfl

end Pass

/-- The resource is the one owner of a snapshot and does not control it. A resource that has no name or no uid
owns nothing. -/
def Snapshot.OwnedBy (p : Snapshot) (r : Resource) : Prop :=
  match r.metadata.name, r.metadata.uid with
  | some name, some uid => ∃ owner, p.metadata.ownerReferences = some [owner] ∧
      owner.apiVersion = apiVersion ∧ owner.kind = Resource.kind ∧
      owner.name = name ∧ owner.uid = uid ∧ owner.controller = none
  | _, _ => p.metadata.ownerReferences = none

theorem Snapshot.OwnedBy.of_new {p : Snapshot} {r : Resource} {spec : SnapshotSpec}
    (metadata : p.metadata = (Pass.newSnapshot r spec).metadata) : p.OwnedBy r := by
  unfold OwnedBy
  rw [metadata]
  simp only [Pass.newSnapshot, Resource.ownerReference?]
  cases r.metadata.name with
  | none => rfl
  | some name =>
    cases r.metadata.uid with
    | none => rfl
    | some uid => exact ⟨_, rfl, rfl, rfl, rfl, rfl, rfl⟩

/-- What a pass loaded is, apart from the status, what it would have found at the start. -/
structure Tied (key : ObjectKey) (o : Objects) (th : Thread (Except Failure Requeue)) : Prop where
  upholds : th.rest.Upholds (Pass.Grounded key) (fun _ _ => True) th.history
  loads : ∀ r ∈ loaded th.history,
    ∃ r₀, Table.get? key o.resources = some r₀ ∧ r.fixed = r₀.fixed

namespace Tied

variable {key : ObjectKey} {o : Objects} {th : Thread (Except Failure Requeue)} {s : MemoryStore}

/-- Only a resource that is there is loaded. -/
theorem loaded_answer {q : Demand} {w : Setting} {r : Resource}
    (member : r ∈ loaded [⟨q, (Setting.answer q w).1⟩]) :
    ∃ k, q = .call (.getResource k) ∧ Table.get? k w.store.resources = some r := by
  cases q with
  | transfer | record => cases member
  | call c =>
    cases c with
    | getDescriptor | getSnapshot | createSnapshot | updateSnapshot | patchStatus => cases member
    | getResource k =>
      refine ⟨k, rfl, ?_⟩
      simp only [Setting.answer] at member
      rcases w.store.answer_cases (.getResource k) with ⟨e, -, failed⟩ | performed
      · rw [failed] at member
        cases member
      · rw [performed, MemoryStore.perform, MemoryStore.noted_resources] at member
        cases found : Table.get? k w.store.resources with
        | none =>
          rw [found] at member
          cases member
        | some r' =>
          rw [found] at member
          rw [List.mem_singleton.mp member]

theorem advance (tied : Tied key o th) (frame : Frame o s.objects) : Tied key o (th.advance s).1 := by
  obtain ⟨_ | ⟨q, next⟩, outcomes, history⟩ := th
  · exact tied
  obtain ⟨may, upholds⟩ := tied.upholds
  refine ⟨upholds _, fun r member => ?_⟩
  change r ∈ loaded (history ++ [⟨q, (Setting.answer q ⟨s, outcomes⟩).1⟩]) at member
  rw [loaded_append] at member
  rcases List.mem_append.mp member with before | new
  · exact tied.loads r before
  · obtain ⟨k, rfl, found⟩ := loaded_answer new
    obtain rfl : k = key := may
    -- Other passes may have patched the status since the start, but nothing else of the resource.
    have same := frame.resources k
    rw [show Table.get? k s.objects.resources = some r from found, Option.map_some] at same
    obtain ⟨r₀, found₀, fixed⟩ := Option.map_eq_some_iff.mp same.symm
    exact ⟨r₀, found₀, fixed.symm⟩

/-- What a pass creates is a snapshot of its resource. -/
theorem created (tied : Tied key o th) {p : Snapshot} {a : (Call.createSnapshot p).Answer}
    (asked : th.asked s = [⟨.call (.createSnapshot p), a⟩]) :
    ∃ r spec, Table.get? key o.resources = some r ∧ p = Pass.newSnapshot r spec := by
  obtain ⟨_ | ⟨q, next⟩, outcomes, history⟩ := th
  · cases asked
  · obtain ⟨may, -⟩ := tied.upholds
    obtain rfl : q = .call (.createSnapshot p) := congrArg Sigma.fst (List.singleton_inj.mp asked)
    obtain ⟨r, member, spec, rfl⟩ := may
    obtain ⟨r₀, found, same⟩ := tied.loads r member
    exact ⟨r₀, spec, found, Pass.newSnapshot_congr same spec⟩

end Tied

/-- What stays true while passes run over the objects that they found. -/
structure Bound {n : Nat} (key : Fin n → ObjectKey) (o : Objects)
    (sc : Scene n (Except Failure Requeue)) : Prop where
  frame : Frame o sc.store.objects
  tied : ∀ i, Tied (key i) o (sc.threads i)
  made : ∀ k p, Table.get? k sc.store.snapshots = some p →
    (Table.get? k o.snapshots).isSome ∨ ∃ i r spec, Table.get? (key i) o.resources = some r ∧
      k = r.snapshotKey ∧ p.metadata = (Pass.newSnapshot r spec).metadata

namespace Bound

variable {n : Nat} {key : Fin n → ObjectKey} {o : Objects} {sc : Scene n (Except Failure Requeue)}

theorem step (bound : Bound key o sc) (m : Move n) : Bound key o (sc.step m) := by
  refine ⟨bound.frame.trans (sc.step_frame m), ?_, ?_⟩
  · cases m with
    | disturb failures => exact bound.tied
    | turn i =>
      intro j
      by_cases same : j = i
      · subst same
        rw [Scene.step, Scene.threads_advance_same]
        exact (bound.tied j).advance bound.frame
      · rw [Scene.step, Scene.threads_advance_other same]
        exact bound.tied j
  · cases m with
    | disturb failures => exact bound.made
    | turn i =>
      intro k p found
      rcases (sc.threads i).advance_change sc.store with ⟨same, -⟩ | ⟨c, a, asked, change⟩
      · exact bound.made k p ((congrArg (fun o => Table.get? k o.snapshots) same).symm.trans found)
      · obtain ⟨p', found', metadata⟩ | ⟨rfl, rfl⟩ := change.metadata_origin found
        · refine (bound.made k p' found').imp_right ?_
          rintro ⟨j, r, spec, stored, named, same⟩
          exact ⟨j, r, spec, stored, named, metadata.trans same⟩
        · obtain ⟨r, spec, stored, rfl⟩ := (bound.tied i).created asked
          exact .inr ⟨i, r, spec, stored, rfl, rfl⟩

theorem run (bound : Bound key o sc) (moves : List (Move n)) : Bound key o (sc.run moves) := by
  induction moves generalizing sc with
  | nil => exact bound
  | cons m moves ih => exact ih (bound.step m)

end Bound

namespace Turn

variable (registry : String) (fallback : Span) (s : MemoryStore) {n : Nat} (key : Fin n → ObjectKey)
  (outcomes : Fin n → Nat → Except TransferFault TransferReport)

theorem together_bound : Bound key s.objects (together registry fallback s key outcomes) where
  frame := .refl _
  tied i := ⟨Pass.run_grounded registry fallback (key i), fun _ member => nomatch member⟩
  made _ p found := .inl (Option.isSome_iff_exists.mpr ⟨p, found⟩)

/-- However passes run into each other and whatever fails, descriptors, specs and metadata stay as they are
and no snapshot goes, at every moment and from then on. No snapshot is created twice, and each one that was
created lies where a resource of the passes has it, and belongs to that resource. -/
theorem framed_together (moves later : List (Move n)) :
    let start := together registry fallback s key outcomes
    Frame s.objects (start.run moves).store.objects ∧
    Frame (start.run moves).store.objects (start.run (moves ++ later)).store.objects ∧
    (creations (start.trace moves)).Nodup ∧
    (∀ k, k ∈ creations (start.trace moves) ↔ Table.get? k s.snapshots = none ∧
      ∃ p, Table.get? k (start.run moves).store.snapshots = some p) ∧
    ∀ k p, Table.get? k s.snapshots = none → Table.get? k (start.run moves).store.snapshots = some p →
      ∃ i r, Table.get? (key i) s.resources = some r ∧
        k = ⟨r.metadata.anyNamespace, r.spec.snapshotTemplate.name⟩ ∧
        p.metadata.namespace = some k.namespace ∧ p.metadata.name = some k.name ∧ p.OwnedBy r := by
  dsimp only
  have bound := (together_bound registry fallback s key outcomes).run moves
  refine ⟨bound.frame, ?_, Scene.creations_nodup moves _, Scene.mem_creations_iff moves _, ?_⟩
  · rw [Scene.run_append]
    exact Scene.run_frame later _
  · intro k p absent found
    rcases bound.made k p found with before | ⟨i, r, spec, stored, rfl, metadata⟩
    · rw [show Table.get? k s.objects.snapshots = none from absent] at before
      cases before
    · exact ⟨i, r, stored, rfl, by rw [metadata]; rfl, by rw [metadata]; rfl, .of_new metadata⟩

end Turn

namespace Example

def owner : Resource := { resource with metadata := { resource.metadata with uid := some "7" } }

def racing : Scene 2 (Except Failure Requeue) :=
  Turn.together "registry.local/" .zero { store with resources := [(⟨"shop", "web"⟩, owner)] }
    (fun _ => ⟨"shop", "web"⟩) fun _ => through.outcomes

def race : List (Move 2) := (List.replicate 12 ((List.finRange 2).map .turn)).flatten

end Example

/-- Both passes see no snapshot; one of them creates it for the resource, and the other fails. -/
theorem Turn.framed_in_a_race :
    ((Example.racing.run Example.race).threads 0).result? = some (.ok (.after (.ofSeconds 600))) ∧
      ((Example.racing.run Example.race).threads 1).result? =
        some (.error ⟨.snapshot ⟨"shop", "web"⟩ (.alreadyExists "Snapshot" ⟨"shop", "web"⟩),
          .after (.ofSeconds 600)⟩) ∧
      ∃ p, Table.get? ⟨"shop", "web"⟩ (Example.racing.run Example.race).store.snapshots = some p ∧
        p.OwnedBy Example.owner := by
  obtain ⟨-, -, -, created, owned⟩ := framed_together "registry.local/" .zero
    { Example.store with resources := [(⟨"shop", "web"⟩, Example.owner)] }
    (fun _ : Fin 2 => ⟨"shop", "web"⟩) (fun _ => Example.through.outcomes) Example.race []
  have once : ⟨"shop", "web"⟩ ∈ creations (Example.racing.trace Example.race) := by decide +kernel
  obtain ⟨absent, p, found⟩ := (created _).mp once
  obtain ⟨i, r, stored, -, -, -, ownedBy⟩ := owned _ p absent found
  cases stored
  exact ⟨by decide +kernel, by decide +kernel, p, found, ownedBy⟩

end Stowage

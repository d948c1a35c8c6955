import Stowage.Proofs.Cluster.Held
import Stowage.Proofs.Setting

/-! A pass over a cluster beside the same pass over a store in memory. As long as the server does in each exchange
what is expected of it, the two passes ask the same, make the same transfers and come to the same result, and what
the server holds at the end tallies with the store. -/
namespace Stowage

namespace Cluster

structure Site (σ : Type) where
  server : σ
  outcomes : Nat → Except TransferFault TransferReport

section

variable {σ : Type} (serve : Request → σ → Reply × σ)

namespace Site

def answer : (q : Demand) → Site σ → q.Answer × Site σ
  | .call c, v => ((Cluster.answer serve c v.server).1, { v with server := (Cluster.answer serve c v.server).2 })
  | .transfer .., v => (v.outcomes 0, { v with outcomes := fun n => v.outcomes (n + 1) })
  | .record _, v => ((), v)

/-- A request that goes out for a call is served as it should be. -/
def Served (held : σ → Holdings) : Demand → Site σ → Prop
  | .call c, v => ∀ r a, request c = .ok r → Intent.read? r = some a →
      Serves (held v.server) a (serve r v.server).1 (held (serve r v.server).2)
  | _, _ => True

end Site

variable (held : σ → Holdings)

/-- Two dialogues, each in its surroundings. Where the one is served as it should be, both make the same
transfers, and their values and what they leave are related. -/
def Together {α β : Type} (post : α → β → Site σ → Setting → Prop) (d : Demands α) (v : Site σ) (d' : Demands β)
    (w : Setting) : Prop :=
  d.Along (Site.answer serve) (Site.Served serve held) v →
    post (d.run (Site.answer serve) v).1 (d'.run Setting.answer w).1 (d.run (Site.answer serve) v).2
      (d'.run Setting.answer w).2 ∧
    attempts (d.history (Site.answer serve) v) = attempts (d'.history Setting.answer w)

/-- A server that holds the objects of a store without failures, with the same transfers to come. `found` is what
lies under the key of the pass. -/
structure Abreast (key : ObjectKey) (found : Option Resource) (v : Site σ) (w : Setting) : Prop where
  outcomes : v.outcomes = w.outcomes
  calm : w.store.failures = []
  mirrors : Mirrors (held v.server) w.store.objects
  loaded : Table.get? key w.store.resources = found

def Tallied {α : Type} (a b : α) (v : Site σ) (w : Setting) : Prop :=
  a = b ∧ Pairs Slot.Tallies (held v.server) w.store.objects

end

variable {σ : Type} {serve : Request → σ → Reply × σ} {held : σ → Holdings} {v : Site σ} {w : Setting}

namespace Together

variable {α β γ δ : Type}

theorem done {post : α → β → Site σ → Setting → Prop} {a : α} {b : β} (related : post a b v w) :
    Together serve held post (.done a) v (.done b) w := fun _ => ⟨related, rfl⟩

theorem bind {mid : α → β → Site σ → Setting → Prop} {post : γ → δ → Site σ → Setting → Prop} {d : Demands α}
    {d' : Demands β} {f : α → Demands γ} {f' : β → Demands δ} (first : Together serve held mid d v d' w)
    (rest : ∀ a b v w, mid a b v w → Together serve held post (f a) v (f' b) w) :
    Together serve held post (Dialogue.bind d f) v (Dialogue.bind d' f') w := by
  intro served
  obtain ⟨before, after⟩ := Dialogue.along_bind.mp served
  obtain ⟨related, same⟩ := first before
  obtain ⟨ended, same'⟩ := rest _ _ _ _ related after
  rw [Dialogue.run_bind, Dialogue.run_bind, Dialogue.history_bind, Dialogue.history_bind, attempts_append,
    attempts_append, same, same']
  exact ⟨ended, rfl⟩

/-- What is recorded changes nothing. -/
theorem record {post : α → β → Site σ → Setting → Prop} (m : Meter) {f : Unit → Demands α} {f' : Unit → Demands β}
    (rest : Together serve held post (f ()) v (f' ()) w) :
    Together serve held post (Dialogue.bind (Pass.record m) f) v (Dialogue.bind (Pass.record m) f') w :=
  fun served => rest served.2

theorem transfer {post : Except TransferFault TransferReport → Except TransferFault TransferReport →
      Site σ → Setting → Prop} (destination : String) (entry : ResourceEntry) (same : v.outcomes = w.outcomes)
    (related : post (w.outcomes 0) (w.outcomes 0) ⟨v.server, fun n => v.outcomes (n + 1)⟩
      ⟨w.store, fun n => w.outcomes (n + 1)⟩) :
    Together serve held post (Pass.transfer destination entry) v (Pass.transfer destination entry) w := by
  intro _
  obtain ⟨server, outcomes⟩ := v
  obtain rfl : outcomes = w.outcomes := same
  exact ⟨related, rfl⟩

/-- A call about a plain key is answered by what the server replies to it. -/
theorem call {c : Call} {post : c.Answer → c.Answer → Site σ → Setting → Prop} (plain : Plain c.slot)
    (given : NameGiven c)
    (related : ∀ reply server, Serves (held v.server) (Intent.ofCall c) reply (held server) →
      post (interpret c reply) (w.store.answer c).1 ⟨server, v.outcomes⟩ ⟨(w.store.answer c).2, w.outcomes⟩) :
    Together serve held post (Pass.call c) v (Pass.call c) w := by
  rintro ⟨served, -⟩
  have exchange := served (draft c) _ (request_eq plain) (read?_draft plain given)
  have answered : Cluster.answer serve c v.server =
      (interpret c (serve (draft c) v.server).1, (serve (draft c) v.server).2) := by
    rw [Cluster.answer, request_eq plain]
  refine ⟨?_, rfl⟩
  change post (Cluster.answer serve c v.server).1 _ ⟨(Cluster.answer serve c v.server).2, _⟩ _
  rw [answered]
  exact related _ _ exchange

end Together

end Cluster

/-- Without failures, no call is made to fail. -/
theorem MemoryStore.of_calm {s : MemoryStore} (calm : s.failures = []) {c : Call} {failed : StoreError → Prop}
    {performed : Prop} (h : (∃ e, Injects s.failures c e ∧ failed e) ∨ performed) : performed := by
  rcases h with ⟨e, injected, -⟩ | h
  · rw [calm] at injected
    exact absurd injected (not_injects_nil c e)
  · exact h

namespace Cluster

section Calls

variable {σ : Type} {serve : Request → σ → Reply × σ} {held : σ → Holdings} {v : Site σ} {w : Setting}
  {key : ObjectKey} {found : Option Resource}

/-- A call that reads changes nothing on either side. -/
theorem Abreast.looked (abreast : Abreast held key found v w) {server : σ} (still : held server = held v.server)
    (c : Call) : Abreast held key found ⟨server, v.outcomes⟩ ⟨w.store.noted c, w.outcomes⟩ where
  outcomes := abreast.outcomes
  calm := abreast.calm
  mirrors := by
    rw [still]
    exact abreast.mirrors
  loaded := abreast.loaded

theorem together_getResource (abreast : Abreast held key found v w) (plain : Plain (.resource key)) :
    Together serve held (fun a b v w => a = .ok found ∧ b = .ok found ∧ Abreast held key found v w)
      (Pass.call (.getResource key)) v (Pass.call (.getResource key)) w := by
  refine Together.call (c := .getResource key) plain trivial ?_
  intro reply server serves
  have looked : w.store.answer (.getResource key) = (.ok found, w.store.noted (.getResource key)) := by
    rw [MemoryStore.of_calm abreast.calm (w.store.answer_cases _), MemoryStore.perform, MemoryStore.noted_resources,
      abreast.loaded]
  obtain ⟨still, what⟩ := abreast.mirrors.get serves
  rw [looked]
  refine ⟨?_, rfl, abreast.looked still _⟩
  rcases what with ⟨r, d, there, holds, granted⟩ | ⟨missing, refused⟩
  · obtain rfl : some r = found := there.symm.trans abreast.loaded
    exact interpret_getResource granted holds.read
  · obtain rfl : none = found := missing.symm.trans abreast.loaded
    exact interpret_getResource_missing refused

theorem together_getDescriptor (abreast : Abreast held key found v w) {dkey : ObjectKey}
    (plain : Plain (.descriptor dkey)) :
    Together serve held (fun a b v w => a = b ∧ (∃ c, a = .ok c) ∧ Abreast held key found v w)
      (Pass.call (.getDescriptor dkey)) v (Pass.call (.getDescriptor dkey)) w := by
  refine Together.call (c := .getDescriptor dkey) plain trivial ?_
  intro reply server serves
  have looked : w.store.answer (.getDescriptor dkey) =
      (.ok (Table.get? dkey w.store.descriptors), w.store.noted (.getDescriptor dkey)) := by
    rw [MemoryStore.of_calm abreast.calm (w.store.answer_cases _), MemoryStore.perform,
      MemoryStore.noted_descriptors]
  obtain ⟨still, what⟩ := abreast.mirrors.get serves
  have same : interpret (.getDescriptor dkey) reply = .ok (Table.get? dkey w.store.descriptors) := by
    rcases what with ⟨c, d, there, holds, granted⟩ | ⟨missing, refused⟩
    · have described : Table.get? dkey w.store.descriptors = some c := there
      rw [described]
      exact interpret_getDescriptor granted holds
    · have undescribed : Table.get? dkey w.store.descriptors = none := missing
      rw [undescribed]
      exact interpret_getDescriptor_missing refused
  rw [looked, same]
  exact ⟨rfl, ⟨_, rfl⟩, abreast.looked still _⟩

/-- What two stores say of a snapshot: it is in neither, or in both with the same reference. -/
def SameSnapshot (skey : ObjectKey) (a b : Except StoreError (Option Snapshot)) (w : Setting) : Prop :=
  (a = .ok none ∧ b = .ok none ∧ Table.get? skey w.store.snapshots = none) ∨
    ∃ p p' : Snapshot, a = .ok (some p) ∧ b = .ok (some p') ∧ p.spec = p'.spec ∧
      Table.get? skey w.store.snapshots = some p'

theorem together_getSnapshot (abreast : Abreast held key found v w) {skey : ObjectKey}
    (plain : Plain (.snapshot skey)) :
    Together serve held (fun a b v w => SameSnapshot skey a b w ∧ Abreast held key found v w)
      (Pass.call (.getSnapshot skey)) v (Pass.call (.getSnapshot skey)) w := by
  refine Together.call (c := .getSnapshot skey) plain trivial ?_
  intro reply server serves
  have looked : w.store.answer (.getSnapshot skey) =
      (.ok (Table.get? skey w.store.snapshots), w.store.noted (.getSnapshot skey)) := by
    rw [MemoryStore.of_calm abreast.calm (w.store.answer_cases _), MemoryStore.perform, MemoryStore.noted_snapshots]
  obtain ⟨still, what⟩ := abreast.mirrors.get serves
  rw [looked]
  refine ⟨?_, abreast.looked still _⟩
  rcases what with ⟨p, d, there, holds, granted⟩ | ⟨missing, refused⟩
  · obtain ⟨p', read, same, -⟩ := holds.read
    have there : Table.get? skey w.store.snapshots = some p := there
    exact .inr ⟨p', p, interpret_getSnapshot granted read,
      congrArg _ there, same, there⟩
  · have missing : Table.get? skey w.store.snapshots = none := missing
    exact .inl ⟨interpret_getSnapshot_missing refused, congrArg _ missing,
      missing⟩

/-- Both stores take a snapshot that neither has. -/
theorem together_createSnapshot (abreast : Abreast held key found v w) {p : Snapshot}
    (plain : Plain (.snapshot p.key)) (given : p.metadata.name = some p.key.name)
    (absent : Table.get? p.key w.store.snapshots = none) :
    Together serve held (fun a b v w => (∃ x, a = .ok x) ∧ (∃ y, b = .ok y) ∧ Abreast held key found v w)
      (Pass.call (.createSnapshot p)) v (Pass.call (.createSnapshot p)) w := by
  refine Together.call (c := .createSnapshot p) plain given ?_
  intro reply server serves
  have unheld : held v.server (.snapshot p.key) = none := abreast.mirrors.of_missing (.snapshot p.key) absent
  obtain ⟨d, stored, granted, after⟩ := serves.create_of_absent unheld
  have holds := Snapshot.heldBy_of_created stored
  obtain ⟨p', read, -⟩ := holds.read
  rw [MemoryStore.of_calm abreast.calm (MemoryStore.answer_createSnapshot absent)]
  refine ⟨⟨p', interpret_createSnapshot granted read⟩, ⟨p, rfl⟩,
    abreast.outcomes, abreast.calm, ?_, abreast.loaded⟩
  rw [after]
  exact abreast.mirrors.put (.snapshot p.key) (x := p) holds

/-- Both stores give a snapshot that they have another spec. -/
theorem together_updateSnapshot (abreast : Abreast held key found v w) {skey : ObjectKey} {p : Snapshot}
    (plain : Plain (.snapshot skey)) (there : Table.get? skey w.store.snapshots = some p) (spec : SnapshotSpec) :
    Together serve held (fun a b v w => (∃ x, a = .ok x) ∧ (∃ y, b = .ok y) ∧ Abreast held key found v w)
      (Pass.call (.updateSnapshot skey spec)) v (Pass.call (.updateSnapshot skey spec)) w := by
  refine Together.call (c := .updateSnapshot skey spec) plain trivial ?_
  intro reply server serves
  obtain ⟨base, heldBase, holds⟩ := abreast.mirrors.of_found (.snapshot skey) there
  obtain ⟨d, stored, granted, after⟩ := serves.patch_of_held heldBase
  have holds' := Snapshot.HeldBy.patched holds stored
  obtain ⟨p', read, -⟩ := holds'.read
  rw [MemoryStore.of_calm abreast.calm (MemoryStore.answer_updateSnapshot there spec)]
  refine ⟨⟨p', interpret_updateSnapshot granted read⟩, ⟨_, rfl⟩,
    abreast.outcomes, abreast.calm, ?_, abreast.loaded⟩
  rw [after]
  exact abreast.mirrors.put (.snapshot skey) (x := { p with spec }) holds'

/-- Both stores patch the status, and the result tallies. -/
theorem together_patchStatus {r : Resource} (abreast : Abreast held key (some r) v w) (plain : Plain (.resource key))
    {before after : ResourceStatus} {patch : Document} (loaded : r.status.getD {} = before)
    (changed : before.patch? after = some patch) :
    Together serve held (Tallied held) (Pass.call (.patchStatus key patch)) v
      (Pass.call (.patchStatus key patch)) w := by
  refine Together.call (c := .patchStatus key patch) plain trivial ?_
  intro reply server serves
  obtain ⟨base, heldBase, holds⟩ := abreast.mirrors.of_found (.resource key) abreast.loaded
  obtain ⟨d, stored, granted, ended⟩ := serves.patchStatus_of_held heldBase
  obtain ⟨r', read, same⟩ := Resource.HeldBy.patched holds loaded changed stored
  rw [MemoryStore.of_calm abreast.calm (MemoryStore.answer_patchStatus abreast.loaded loaded changed),
    interpret_patchStatus granted read]
  refine ⟨rfl, ?_⟩
  rw [ended]
  exact abreast.mirrors.tallies.put (.resource key)
    (x := { r with status := some after }) ⟨r', read, same⟩

/-- Both sides leave the snapshot with the reference of the destination. -/
theorem together_writeSnapshot (abreast : Abreast held key found v w) (r : Resource) (d : Destination)
    (plain : Plain (.snapshot r.snapshotKey)) :
    Together serve held (fun a b v w => a = b ∧ Abreast held key found v w) (Pass.writeSnapshot r d) v
      (Pass.writeSnapshot r d) w := by
  rw [Pass.writeSnapshot]
  simp only [Dialogue.bind_eq]
  refine (together_getSnapshot abreast plain).bind ?_
  rintro _ _ v w ⟨⟨rfl, rfl, absent⟩ | ⟨p, p', rfl, rfl, same, there⟩, abreast⟩
  · refine (together_createSnapshot abreast (p := Pass.newSnapshot r ⟨d.snapshotRef⟩) plain rfl absent).bind ?_
    rintro _ _ v w ⟨⟨x, rfl⟩, ⟨y, rfl⟩, abreast⟩
    exact .record .snapshotsCreated (.done ⟨rfl, abreast⟩)
  · simp only [same]
    by_cases current : p'.spec = ⟨d.snapshotRef⟩
    · simp only [current, if_true]
      exact .done ⟨rfl, abreast⟩
    · simp only [current, if_false]
      refine (together_updateSnapshot abreast plain there ⟨d.snapshotRef⟩).bind ?_
      rintro _ _ v w ⟨⟨x, rfl⟩, ⟨y, rfl⟩, abreast⟩
      exact .record .snapshotsUpdated (.done ⟨rfl, abreast⟩)

/-- Entry by entry the two sides stay abreast. -/
theorem together_applyEntries (abreast : Abreast held key found v w) (r : Resource) (d : Destination)
    (plain : Plain (.snapshot r.snapshotKey)) (status : ResourceStatus) (entries : List ResourceEntry) :
    Together serve held (fun a b v w => a = b ∧ Abreast held key found v w) (Pass.applyEntries r d status entries) v
      (Pass.applyEntries r d status entries) w := by
  induction entries generalizing status v w with
  | nil => exact .done ⟨rfl, abreast⟩
  | cons entry rest ih =>
    rw [Pass.applyEntries]
    simp only [Dialogue.bind_eq]
    have transferred : Together serve held (fun a b v w => a = b ∧ Abreast held key found v w)
        (Pass.transfer d.reference entry) v (Pass.transfer d.reference entry) w := by
      refine .transfer _ _ abreast.outcomes ⟨rfl, ?_, abreast.calm, abreast.mirrors, abreast.loaded⟩
      exact congrArg (fun outcomes n => outcomes (n + 1)) abreast.outcomes
    refine transferred.bind ?_
    rintro (fault | report) _ v w ⟨rfl, abreast⟩
    · exact .done ⟨rfl, abreast⟩
    · refine (together_writeSnapshot abreast r d plain).bind ?_
      rintro (e | _) _ v w ⟨rfl, abreast⟩
      · exact .done ⟨rfl, abreast⟩
      · exact ih abreast { status with lastAppliedVersion := some entry.version }

theorem Abreast.tallied {α : Type} (abreast : Abreast held key found v w) (a : α) : Tallied held a a v w :=
  ⟨rfl, abreast.mirrors.tallies⟩

theorem together_settle {r : Resource} (abreast : Abreast held key (some r) v w) (plain : Plain (.resource key))
    (plain' : Plain (.snapshot r.snapshotKey)) (registry : String) (c : ComponentDescriptor) :
    Together serve held (Tallied held) (Pass.settle registry key r c) v (Pass.settle registry key r c) w := by
  rw [Pass.settle]
  simp only [Dialogue.bind_eq]
  refine (together_applyEntries abreast r _ plain' _ _).bind ?_
  rintro (e | status) _ v w ⟨rfl, abreast⟩
  · exact .done (abreast.tallied _)
  · simp only [Pass.patchStatus]
    cases changed : (r.status.getD {}).patch? (Pass.observed r status) with
    | none => exact .done (abreast.tallied _)
    | some patch =>
      simp only [Dialogue.bind_eq]
      refine (together_patchStatus abreast plain rfl changed).bind ?_
      rintro (e | _) _ v w ⟨rfl, tallied⟩
      · exact .done ⟨rfl, tallied⟩
      · exact .done ⟨rfl, tallied⟩

theorem together_converge (abreast : Abreast held key found v w) (plain : Plain (.resource key))
    (named : ∀ r, found = some r → Plain (.descriptor r.descriptorKey) ∧ Plain (.snapshot r.snapshotKey))
    (registry : String) (fallback : Span) :
    Together serve held (Tallied held) (Pass.converge registry fallback key) v
      (Pass.converge registry fallback key) w := by
  rw [Pass.converge]
  simp only [Dialogue.bind_eq]
  refine (together_getResource abreast plain).bind ?_
  rintro _ _ v w ⟨rfl, rfl, abreast⟩
  cases found with
  | none => exact .done (abreast.tallied _)
  | some r =>
    obtain ⟨descriptorPlain, snapshotPlain⟩ := named r rfl
    refine (together_getDescriptor abreast descriptorPlain).bind ?_
    rintro _ _ v w ⟨rfl, ⟨_ | c, rfl⟩, abreast⟩
    · exact .record .descriptorsPending (.done (abreast.tallied _))
    · refine (together_settle abreast plain snapshotPlain registry c).bind ?_
      rintro (e | _) _ v w ⟨rfl, tallied⟩
      · exact .done ⟨rfl, tallied⟩
      · exact .done ⟨rfl, tallied⟩

theorem together_run (abreast : Abreast held key found v w) (plain : Plain (.resource key))
    (named : ∀ r, found = some r → Plain (.descriptor r.descriptorKey) ∧ Plain (.snapshot r.snapshotKey))
    (registry : String) (fallback : Span) :
    Together serve held (Tallied held) (Pass.run registry fallback key) v (Pass.run registry fallback key) w := by
  rw [Pass.run]
  simp only [Dialogue.bind_eq]
  refine .record .passes ((together_converge abreast plain named registry fallback).bind ?_)
  rintro result _ v w ⟨rfl, tallied⟩
  refine .record .passLatency ?_
  cases result with
  | ok requeue => exact .done ⟨rfl, tallied⟩
  | error failure => exact .record .passErrors (.done ⟨rfl, tallied⟩)

end Calls

/-- A pass over a cluster comes to the same as a pass over a store in memory that holds the same objects and no
failures: the same result and the same transfers with the same outcomes, and statuses, references and owners are
the same at the end. What is asked of the server is that each request of the pass is served as it should be. -/
theorem run_as_in_memory {σ : Type} (serve : Request → σ → Reply × σ) (held : σ → Holdings) (registry : String)
    (fallback : Span) (key : ObjectKey) (v : Site σ) (s : MemoryStore) (calm : s.failures = [])
    (mirrors : Mirrors (held v.server) s.objects) (plain : Plain (.resource key))
    (named : ∀ r, Table.get? key s.resources = some r →
      Plain (.descriptor r.descriptorKey) ∧ Plain (.snapshot r.snapshotKey))
    (served : (Pass.run registry fallback key).Along (Site.answer serve) (Site.Served serve held) v) :
    ((Pass.run registry fallback key).run (Site.answer serve) v).1 =
        ((Pass.run registry fallback key).run Setting.answer ⟨s, v.outcomes⟩).1 ∧
      attempts ((Pass.run registry fallback key).history (Site.answer serve) v) =
        attempts ((Pass.run registry fallback key).history Setting.answer ⟨s, v.outcomes⟩) ∧
      Pairs Slot.Tallies (held ((Pass.run registry fallback key).run (Site.answer serve) v).2.server)
        ((Pass.run registry fallback key).run Setting.answer ⟨s, v.outcomes⟩).2.store.objects := by
  have abreast : Abreast held key (Table.get? key s.resources) v ⟨s, v.outcomes⟩ := ⟨rfl, calm, mirrors, rfl⟩
  obtain ⟨⟨result, tallies⟩, transfers⟩ := together_run abreast plain named registry fallback served
  exact ⟨result, transfers, tallies⟩

end Cluster

/-- A text is read as what is found by scanning its characters. -/
theorem Decoder.readText_ofList {α : Type} {decoder : Decoder α} {cs : List Char} {a : α}
    (read : (decoder.scan Reader.depthLimit ⟨cs, 0⟩).map
      (fun (d, c) => (decoder.read d, c.trimmed.rest.isEmpty)) = .ok (.ok a, true)) :
    decoder.readText (String.ofList cs) = .ok a := by
  cases scanned : decoder.scan Reader.depthLimit ⟨cs, 0⟩ with
  | error failure => rw [scanned] at read; cases read
  | ok found =>
    rw [scanned] at read
    obtain ⟨made, ended⟩ := Prod.mk.inj (Except.ok.inj read)
    simp only [readText, Reader.whole, String.toList_ofList, scanned, ended, bind, Except.bind, if_true, pure,
      Except.pure, made]
    rfl

namespace Example

open Cluster

/-- A server that makes set replies, and with each comes to hold other documents. -/
structure Script where
  holdings : Holdings
  exchanges : List (Reply × Holdings)

def Script.serve (_ : Cluster.Request) (s : Script) : Reply × Script :=
  match s.exchanges with
  | [] => (.failed "no reply left", s)
  | (reply, holdings) :: rest => (reply, ⟨holdings, rest⟩)

section Exchange

variable {α : Type} {c : Call} {next : c.Answer → Demands α} {o o' : Holdings} {reply : Reply}
  {rest : List (Reply × Holdings)} {outcomes : Nat → Except TransferFault TransferReport} {x : c.Answer}

theorem answer_exchange (plain : Plain c.slot) (answered : interpret c reply = x) :
    Site.answer Script.serve (.call c) ⟨⟨o, (reply, o') :: rest⟩, outcomes⟩ = (x, ⟨⟨o', rest⟩, outcomes⟩) := by
  have answered' : Cluster.answer Script.serve c ⟨o, (reply, o') :: rest⟩ = (x, ⟨o', rest⟩) := by
    rw [Cluster.answer, request_eq plain, ← answered]
    rfl
  simp only [Site.answer, answered']
  rfl

theorem served_exchange (plain : Plain c.slot) (given : NameGiven c) (serves : Serves o (Intent.ofCall c) reply o') :
    Site.Served Script.serve Script.holdings (.call c) ⟨⟨o, (reply, o') :: rest⟩, outcomes⟩ := by
  intro r intent made read
  obtain rfl : draft c = r := Except.ok.inj ((request_eq plain).symm.trans made)
  obtain rfl : Intent.ofCall c = intent := Option.some.inj ((read?_draft plain given).symm.trans read)
  exact serves

theorem along_exchange (plain : Plain c.slot) (given : NameGiven c) (serves : Serves o (Intent.ofCall c) reply o')
    (answered : interpret c reply = x)
    (later : (next x).Along (Site.answer Script.serve) (Site.Served Script.serve Script.holdings)
      ⟨⟨o', rest⟩, outcomes⟩) :
    Dialogue.Along (Site.answer Script.serve) (Site.Served Script.serve Script.holdings)
      (.ask (Demand.call c) next) ⟨⟨o, (reply, o') :: rest⟩, outcomes⟩ := by
  refine ⟨served_exchange plain given serves, ?_⟩
  rw [answer_exchange plain answered]
  exact later

end Exchange

/-- A reply with a text that is read as the object of the slot. -/
theorem grants_of_read (slot : Slot) {d : Document} {x : slot.Content} {text : String}
    (read : slot.decoder.read d = .ok x) (told : slot.decoder.readText text = .ok x) :
    Grants slot (.response 200 text) d := by
  refine .response (by decide) ?_
  intro y read'
  obtain rfl : x = y := Except.ok.inj (read.symm.trans read')
  exact told

def webKey : ObjectKey := ⟨"shop", "web"⟩

def appKey : ObjectKey := ⟨"shop", "app"⟩

theorem plain_web {slot : Slot} (web : slot.key = webKey) : Plain slot := by
  apply Plain.of_size <;> rw [web] <;> decide

theorem plain_app {slot : Slot} (app : slot.key = appKey) : Plain slot := by
  apply Plain.of_size <;> rw [app] <;> decide

def fresh (component : String) : Resource where
  metadata := { name := some "web", «namespace» := some "shop" }
  spec :=
    { interval := none
      componentRef := ⟨component, "shop"⟩
      resource := ⟨"chart"⟩
      snapshotTemplate := ⟨"web", "v1"⟩ }
  status := none

def catalog : ComponentDescriptor where
  metadata := { name := some "app", «namespace» := some "shop" }
  spec := ⟨none, [{ name := "chart", version := "1.0" }]⟩

def taken : Snapshot := Pass.newSnapshot (fresh "app") ⟨"web:v1"⟩

def progress : Document := .ofMembers [("status", .ofMembers [("lastAppliedResourceVersion", .string "1.0")])]

def current : Resource := { fresh "app" with status := some ⟨none, some "1.0"⟩ }

def shipped : TransferReport where
  remote := "acme.org/app@sha256:0"
  destination := "local:5000/snapshots/web:v1"
  layerDigest := "sha256:0"
  bytes := 1
  manifestUrl := "https://local:5000/v2/snapshots/web/manifests/v1"

def shelf (component : String) : MemoryStore where
  resources := [(webKey, fresh component)]
  descriptors := [(appKey, catalog)]

theorem read_named (name : String) :
    Metadata.decoder.read (Metadata.document { name := some name, «namespace» := some "shop" }) =
      .ok { name := some name, «namespace» := some "shop" } :=
  Metadata.read_document ⟨nofun, nofun, nofun, nofun, nofun⟩

theorem shelf_mirrored (component : String) :
    Mirrors (documents (shelf component).objects) (shelf component).objects := by
  apply mirrors_documents
  intro slot x found
  cases slot with
  | resource key =>
    obtain ⟨-, rfl⟩ := Prod.mk.inj (List.mem_singleton.mp (Table.mem_of_get? found))
    exact read_named "web"
  | descriptor key =>
    obtain ⟨-, rfl⟩ := Prod.mk.inj (List.mem_singleton.mp (Table.mem_of_get? found))
    exact read_named "app"
  | snapshot key => cases found

def told (kind name : String) (rest : List String) : String :=
  String.ofList ((["\x7b\"apiVersion\":\"delivery.ocm.software/v1alpha1\",\"kind\":\"", kind,
    "\",\"metadata\":\x7b\"name\":\"", name, "\",\"namespace\":\"shop\"\x7d,\"spec\":\x7b"] ++ rest).flatMap
      String.toList)

def toldFresh (component status : String) : String :=
  told "Resource" "web" ["\"componentRef\":\x7b\"name\":\"", component, "\",\"namespace\":\"shop\"\x7d,",
    "\"resource\":\x7b\"name\":\"chart\"\x7d,", "\"snapshotTemplate\":\x7b\"name\":\"web\",\"tag\":\"v1\"\x7d\x7d",
    status, "\x7d"]

def toldStatus : String := ",\"status\":\x7b\"lastAppliedResourceVersion\":\"1.0\"\x7d"

def toldCatalog : String :=
  told "ComponentDescriptor" "app" ["\"resources\":[\x7b\"name\":\"chart\",\"version\":\"1.0\"\x7d]\x7d\x7d"]

def toldTaken : String := told "Snapshot" "web" ["\"ref\":\"web:v1\"\x7d\x7d"]

def toldMissing : String :=
  "\x7b\"status\":\"Failure\",\"message\":\"none\",\"reason\":\"NotFound\",\"code\":404\x7d"

section Texts

set_option maxRecDepth 100000

theorem read_fresh : Resource.decoder.readText (toldFresh "app" "") = .ok (fresh "app") :=
  Decoder.readText_ofList rfl

theorem read_unlinked : Resource.decoder.readText (toldFresh "" "") = .ok (fresh "") :=
  Decoder.readText_ofList rfl

theorem read_current : Resource.decoder.readText (toldFresh "app" toldStatus) = .ok current :=
  Decoder.readText_ofList rfl

theorem read_catalog : ComponentDescriptor.decoder.readText toldCatalog = .ok catalog :=
  Decoder.readText_ofList rfl

theorem read_taken : Snapshot.decoder.readText toldTaken = .ok taken := Decoder.readText_ofList rfl

theorem read_missing : readBody refusal toldMissing = .ok (.refused "Failure" "none" "NotFound" 404) := rfl

end Texts

def between : Holdings := Function.update (documents (shelf "app").objects) (.snapshot webKey) (some taken.document)

def ended : Holdings :=
  Function.update between (.resource webKey) (some ((fresh "app").document.merge progress))

def script : Script where
  holdings := documents (shelf "app").objects
  exchanges := [
    (.response 200 (toldFresh "app" ""), documents (shelf "app").objects),
    (.response 200 toldCatalog, documents (shelf "app").objects),
    (.response 404 toldMissing, documents (shelf "app").objects),
    (.response 200 toldTaken, between),
    (.response 200 (toldFresh "app" toldStatus), ended)]

theorem descriptorKey_fresh : (fresh "app").descriptorKey = appKey := by decide +kernel

theorem stored_taken : Stores (fun name => taken.document.get? name) taken.document where
  object := rfl
  others _ _ := rfl
  metadata := by
    have metadata : taken.document.get? "metadata" = some taken.metadata.document := get?_kindDocument ..
    exact ⟨_, _, _, metadata, metadata, read_named "web", fun _ _ => rfl⟩

theorem stored_current :
    Stores (withStatus (fresh "app").document progress) ((fresh "app").document.merge progress) where
  object := rfl
  others name _ := by
    rw [withStatus]
    split
    · rfl
    next apart => exact Document.get?_merge_other apart
  metadata := by
    have metadata : (fresh "app").document.get? "metadata" = some (fresh "app").metadata.document :=
      get?_kindDocument ..
    have metadata' : ((fresh "app").document.merge progress).get? "metadata" =
        some (fresh "app").metadata.document := (Document.get?_merge_other (by decide)).trans metadata
    exact ⟨_, _, _, metadata, metadata', read_named "web", fun _ _ => rfl⟩

theorem script_served : (Pass.run "local:5000" (.ofSeconds 300) webKey).Along (Site.answer Script.serve)
    (Site.Served Script.serve Script.holdings) ⟨script, fun _ => .ok shipped⟩ := by
  have resource : Resource.decoder.read (fresh "app").document = .ok (fresh "app") :=
    Resource.read_document (read_named "web")
  have component : ComponentDescriptor.decoder.read catalog.document = .ok catalog :=
    ComponentDescriptor.read_document (read_named "app")
  have snapshot : Snapshot.decoder.read taken.document = .ok taken := Snapshot.read_document (read_named "web")
  have status : Resource.decoder.read ((fresh "app").document.merge progress) = .ok current := rfl
  have granted := grants_of_read (.resource webKey) resource read_fresh
  have granted₁ := grants_of_read (.descriptor (fresh "app").descriptorKey) component read_catalog
  have refused : Refuses (.response 404 toldMissing) "NotFound" 404 := .response read_missing
  have granted₂ := grants_of_read (.snapshot webKey) snapshot read_taken
  have granted₃ := grants_of_read (.resource webKey) status read_current
  -- The pass is counted, loads the resource and the descriptor, transfers the chart and looks for the snapshot.
  refine ⟨trivial, ?_⟩
  refine along_exchange (plain_web rfl) trivial (.found rfl granted) (interpret_getResource granted resource) ?_
  refine along_exchange (plain_app descriptorKey_fresh) trivial (.found (descriptorKey_fresh ▸ rfl) granted₁)
    (interpret_getDescriptor granted₁ component) ?_
  refine ⟨trivial, ?_⟩
  refine along_exchange (plain_web rfl) trivial (.missing rfl refused) (interpret_getSnapshot_missing refused) ?_
  -- The snapshot is created, which is counted, and the status is patched.
  refine along_exchange (plain_web rfl) rfl (.created rfl stored_taken granted₂)
    (interpret_createSnapshot granted₂ snapshot) ?_
  refine ⟨trivial, ?_⟩
  refine along_exchange (plain_web rfl) trivial (.statusPatched rfl stored_current granted₃)
    (interpret_patchStatus granted₃ status) ?_
  exact ⟨trivial, trivial⟩

def unlinked : Script where
  holdings := documents (shelf "").objects
  exchanges := [(.response 200 (toldFresh "" ""), documents (shelf "").objects)]

end Example

open Example Cluster in
theorem Cluster.run_as_in_memory_of_fresh :
    ((Pass.run "local:5000" (.ofSeconds 300) webKey).run (Site.answer Script.serve)
        ⟨script, fun _ => .ok shipped⟩).1 = .ok (.after (.ofSeconds 300)) ∧
      (attempts ((Pass.run "local:5000" (.ofSeconds 300) webKey).history (Site.answer Script.serve)
        ⟨script, fun _ => .ok shipped⟩)).map (fun a => (a.destination, a.entry.version, a.result)) =
          [("local:5000/snapshots/web:v1", "1.0", .ok shipped)] ∧
      Pairs Slot.Tallies
        (Script.holdings ((Pass.run "local:5000" (.ofSeconds 300) webKey).run (Site.answer Script.serve)
          ⟨script, fun _ => .ok shipped⟩).2.server)
        ((Pass.run "local:5000" (.ofSeconds 300) webKey).run Setting.answer
          ⟨shelf "app", fun _ => .ok shipped⟩).2.store.objects := by
  have named : ∀ r, Table.get? webKey (shelf "app").resources = some r →
      Plain (.descriptor r.descriptorKey) ∧ Plain (.snapshot r.snapshotKey) := by
    intro r found
    obtain ⟨-, rfl⟩ := Prod.mk.inj (List.mem_singleton.mp (Table.mem_of_get? found))
    exact ⟨plain_app descriptorKey_fresh, plain_web rfl⟩
  obtain ⟨result, transfers, tallies⟩ := run_as_in_memory Script.serve Script.holdings "local:5000" (.ofSeconds 300)
    webKey ⟨script, fun _ => .ok shipped⟩ (shelf "app") rfl (shelf_mirrored "app") (plain_web rfl) named script_served
  refine ⟨result.trans (by decide +kernel), ?_, tallies⟩
  rw [transfers]
  decide +kernel

open Example Cluster in
/-- Under a key without a name there is nothing in memory, while a cluster is not even asked; in the same way a
component without a name is missing in memory, and fails the pass over a cluster. -/
theorem Cluster.nameless_passes_differ :
    (Mirrors script.holdings (shelf "app").objects ∧
      (Pass.run "local:5000" (.ofSeconds 300) ⟨"shop", ""⟩).Along (Site.answer Script.serve)
        (Site.Served Script.serve Script.holdings) ⟨script, fun _ => .ok shipped⟩ ∧
      ((Pass.run "local:5000" (.ofSeconds 300) ⟨"shop", ""⟩).run Setting.answer
        ⟨shelf "app", fun _ => .ok shipped⟩).1 = .ok .never ∧
      ((Pass.run "local:5000" (.ofSeconds 300) ⟨"shop", ""⟩).run (Site.answer Script.serve)
        ⟨script, fun _ => .ok shipped⟩).1 =
          .error ⟨.loadResource ⟨"shop", ""⟩ (.backend "Resource" ⟨"shop", ""⟩ Fault.noName.message), .never⟩) ∧
    Mirrors unlinked.holdings (shelf "").objects ∧
      (Pass.run "local:5000" (.ofSeconds 300) webKey).Along (Site.answer Script.serve)
        (Site.Served Script.serve Script.holdings) ⟨unlinked, fun _ => .ok shipped⟩ ∧
      ((Pass.run "local:5000" (.ofSeconds 300) webKey).run Setting.answer
        ⟨shelf "", fun _ => .ok shipped⟩).1 = .ok (.after (.ofSeconds 300)) ∧
      ((Pass.run "local:5000" (.ofSeconds 300) webKey).run (Site.answer Script.serve)
        ⟨unlinked, fun _ => .ok shipped⟩).1 =
          .error ⟨.loadDescriptor ⟨"shop", ""⟩ (.backend "ComponentDescriptor" ⟨"shop", ""⟩ Fault.noName.message),
            .after (.ofSeconds 300)⟩ := by
  have unserved (c : Call) (v : Site Script) (needs : needsName c = true) (nameless : c.key.name = "") :
      Site.Served Script.serve Script.holdings (.call c) v := by
    intro r intent made
    rw [request_nameless needs nameless] at made
    cases made
  have recorded (m : Meter) (v : Site Script) : (Pass.record m).run (Site.answer Script.serve) v = ((), v) := rfl
  have unlinkedKey : (fresh "").descriptorKey = ⟨"shop", ""⟩ := by decide +kernel
  have resource : Resource.decoder.read (fresh "").document = .ok (fresh "") :=
    Resource.read_document (read_named "web")
  have granted := grants_of_read (.resource webKey) resource read_unlinked
  have loaded : (Pass.call (.getResource webKey)).run (Site.answer Script.serve) ⟨unlinked, fun _ => .ok shipped⟩ =
      (.ok (some (fresh "")), ⟨⟨documents (shelf "").objects, []⟩, fun _ => .ok shipped⟩) :=
    answer_exchange (plain_web rfl) (interpret_getResource granted resource)
  have lost (v : Site Script) : (Pass.call (.getDescriptor (fresh "").descriptorKey)).run (Site.answer Script.serve) v =
      (.error (.backend "ComponentDescriptor" ⟨"shop", ""⟩ Fault.noName.message), v) := by
    rw [unlinkedKey]
    rfl
  refine ⟨⟨shelf_mirrored "app", ?_, by decide +kernel, by decide +kernel⟩, shelf_mirrored "", ?_,
    by decide +kernel, ?_⟩
  · exact ⟨trivial, unserved _ _ rfl rfl, trivial, trivial, trivial⟩
  · have served : Site.Served Script.serve Script.holdings (.call (.getResource webKey))
        ⟨unlinked, fun _ => .ok shipped⟩ := served_exchange (plain_web rfl) trivial (.found rfl granted)
    simp only [Pass.run, Pass.converge, Dialogue.bind_eq, Dialogue.along_bind, Dialogue.run_bind, recorded, loaded,
      lost]
    exact ⟨⟨trivial, trivial⟩, ⟨⟨served, trivial⟩, ⟨unserved _ _ rfl (congrArg _ unlinkedKey), trivial⟩, trivial⟩,
      ⟨trivial, trivial⟩, trivial, trivial⟩
  · simp only [Pass.run, Pass.converge, Dialogue.bind_eq, Dialogue.run_bind, recorded, loaded, lost]
    decide +kernel

end Stowage

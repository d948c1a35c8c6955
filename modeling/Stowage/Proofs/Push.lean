import Mathlib.Control.Monad.Basic
import Stowage.Command.Contact
import Stowage.Proofs.Dialogue

/-! What a push sends. Its uploads put no manifest anywhere, and a push that goes through has put just one, that of
the image, and had it stored. -/
namespace Stowage

abbrev Message := Σ c : Contact, c.Answer

def manifestPuts (history : List Message) : List Http.Request :=
  history.filterMap fun
    | ⟨.exchange _ r, _⟩ =>
      if r.method = "PUT" ∧ Http.Headers.first? "content-type" r.headers = some Manifest.mediaType then some r
      else none
    | _ => none

@[simp] theorem manifestPuts_append (first second : List Message) :
    manifestPuts (first ++ second) = manifestPuts first ++ manifestPuts second := List.filterMap_append

def Http.Request.PutsNone (r : Http.Request) : Prop :=
  ¬ (r.method = "PUT" ∧ Http.Headers.first? "content-type" r.headers = some Manifest.mediaType)

def Contact.PutsNone : Contact → Prop
  | exchange _ r => r.PutsNone
  | now | cluster _ => True

theorem manifestPuts_eq_nil {history : List Message} (none : ∀ e ∈ history, e.1.PutsNone) :
    manifestPuts history = [] := by
  rw [manifestPuts, List.filterMap_eq_nil_iff]
  rintro ⟨_ | ⟨_, r⟩ | _, _⟩ member
  · rfl
  · exact if_neg (none _ member)
  · rfl

namespace Dialogue

variable {Q : Type} {A : Q → Type} {ε α β σ : Type} {allowed : Q → Prop}

theorem AsksOnly.run_bind {d : ExceptT ε (Dialogue Q A) α} {f : α → ExceptT ε (Dialogue Q A) β}
    (first : AsksOnly allowed d.run) (rest : ∀ a, AsksOnly allowed (f a).run) : AsksOnly allowed (d >>= f).run := by
  rw [ExceptT.run_bind]
  refine AsksOnly.bind (d := d.run) first fun result => ?_
  cases result with
  | ok a => exact rest a
  | error e => trivial

theorem AsksOnly.run_tryCatch {d : ExceptT ε (Dialogue Q A) α} {f : ε → ExceptT ε (Dialogue Q A) α}
    (first : AsksOnly allowed d.run) (rest : ∀ e, AsksOnly allowed (f e).run) :
    AsksOnly allowed (tryCatch d f).run := by
  refine AsksOnly.bind (d := d.run) first fun result => ?_
  cases result with
  | ok a => trivial
  | error e => exact rest e

/-- A step that goes through goes on where it ended. -/
theorem run_bind_ok {answer : (q : Q) → σ → A q × σ} {d : ExceptT ε (Dialogue Q A) α}
    {f : α → ExceptT ε (Dialogue Q A) β} {s : σ} {b : β} (ended : ((d >>= f).run.run answer s).1 = .ok b) :
    ∃ a s', ((f a).run.run answer s').1 = .ok b ∧
      (d >>= f).run.history answer s = d.run.history answer s ++ (f a).run.history answer s' := by
  rw [ExceptT.run_bind] at ended ⊢
  rw [bind_eq] at ended ⊢
  rw [run_bind] at ended
  rw [history_bind]
  cases first : (run answer d.run s).1 with
  | ok a =>
    rw [first] at ended
    exact ⟨a, _, ended, rfl⟩
  | error e =>
    rw [first] at ended
    cases ended

end Dialogue

namespace Http.Request

theorem putsNone_of_method {r : Http.Request} (other : r.method ≠ "PUT") : r.PutsNone := fun put => other put.1

theorem putsNone_of_type {r : Http.Request}
    (other : Http.Headers.first? "content-type" r.headers ≠ some Manifest.mediaType) : r.PutsNone :=
  fun put => other put.2

end Http.Request

namespace Push

open Contact (transport)
open Http.Request (putsNone_of_method putsNone_of_type)

variable (t : Target)

section

variable {allowed : Contact → Prop}

theorem readUrl_asks (text : String) : (readUrl (m := Contacts) text).run.AsksOnly allowed := by
  rw [readUrl]
  cases Url.read text <;> trivial

theorem throw_asks {α : Type} (fault : Fault) : (throw fault : Steps Contacts α).run.AsksOnly allowed := trivial

theorem exchange_asks {proxy : Option Proxy} {r : Http.Request} (may : allowed (.exchange proxy r)) :
    (ExceptT.lift (ε := Fault) (transport proxy r)).run.AsksOnly allowed := ⟨may, fun _ => trivial⟩

end

theorem send_asks {due : Nat} {r : Http.Request} (puts : r.PutsNone) :
    (send (transport none) t due r).run.AsksOnly Contact.PutsNone := by
  rw [send]
  refine (readUrl_asks _).run_bind fun greeting => ?_
  refine (exchange_asks (putsNone_of_method (by simp))).run_bind fun _ => ?_
  refine (exchange_asks puts).run_bind fun answer => ?_
  cases answer with
  | error => trivial
  | ok response =>
    dsimp only
    cases accept t due r.url response <;> trivial

theorem sendPieces_asks (pieces : List Bytes) (place : String) (start : Nat) :
    (sendPieces (transport none) t place start pieces).run.AsksOnly Contact.PutsNone := by
  induction pieces generalizing place start with
  | nil => trivial
  | cons piece pieces ih =>
    rw [sendPieces]
    refine (readUrl_asks _).run_bind fun url => ?_
    exact (send_asks t (putsNone_of_method (by simp))).run_bind fun next => ih next _

/-- A blob without data goes no further. -/
theorem ite_asks {α : Type} {allowed : Contact → Prop} {data : Bytes} {next : Steps Contacts α}
    (rest : next.run.AsksOnly allowed) :
    (if data.isEmpty then throw Fault.noData >>= fun _ : Unit => next else next).run.AsksOnly allowed := by
  split
  · exact (throw_asks Fault.noData).run_bind fun _ => rest
  · exact rest

theorem noContent_type : Http.Headers.first? "content-type" [noContent] ≠ some Manifest.mediaType := by decide

theorem uploadPieces_asks (data : Bytes) :
    (uploadPieces (transport none) t data).run.AsksOnly Contact.PutsNone := by
  rw [uploadPieces]
  refine (readUrl_asks _).run_bind fun url => ?_
  refine (send_asks t (putsNone_of_method (by simp))).run_bind fun place => ?_
  refine ite_asks ?_
  refine (sendPieces_asks t _ _ _).run_bind fun place => ?_
  refine (readUrl_asks _).run_bind fun url => ?_
  exact send_asks t (putsNone_of_type noContent_type)

theorem uploadWhole_asks (data : Bytes) :
    (uploadWhole (transport none) t data).run.AsksOnly Contact.PutsNone := by
  have other : Http.Headers.first? "content-type" [("content-length", toString data.length), octets] ≠
      some Manifest.mediaType := by
    simp [Http.Headers.first?, Http.Headers.values, octets, Manifest.mediaType]
  rw [uploadWhole]
  refine (readUrl_asks _).run_bind fun url => ?_
  refine (send_asks t (putsNone_of_method (by simp))).run_bind fun place => ?_
  refine (readUrl_asks _).run_bind fun url => ?_
  exact ite_asks (send_asks t (putsNone_of_type other))

theorem upload_asks (data : Bytes) : (upload (transport none) t data).run.AsksOnly Contact.PutsNone := by
  refine (uploadPieces_asks t data).run_tryCatch fun fault => ?_
  cases fault with
  | unexpected => exact uploadWhole_asks t data
  | badUrl | unanswered | refused | noLocation | noData => trivial

def manifestRequest (url : Url) (manifest : Manifest) : Http.Request where
  method := "PUT"
  url
  headers := [("content-type", Manifest.mediaType)]
  body := manifest.data

/-- A location is asked for in the response that is due, and in no other. -/
theorem accept_due {due : Nat} {url : Url} {r : Http.Response}
    (accepted : (∃ place, accept t due url r = .ok place) ∨ accept t due url r = .error .noLocation) :
    r.status = due := by
  by_contra other
  rw [accept, if_neg other] at accepted
  split at accepted
  · simp at accepted
  · cases body : r.body <;> simp [body] at accepted

/-- What comes of a request once it is answered. -/
def outcome (due : Nat) (r : Http.Request) : Except TransportFault Http.Response → Except Fault String
  | .error _ => .error (.unanswered r.url.text)
  | .ok response => accept t due r.url response

theorem send_eq {due : Nat} {r : Http.Request} {greeting : Url} (located : Url.read t.root = .ok greeting) :
    (send (transport none) t due r).run =
      .ask (.exchange none { url := greeting }) fun _ => .ask (.exchange none r) fun told =>
        .done (outcome t due r told) := by
  have pointed : (readUrl (m := Contacts) t.root).run = .done (.ok greeting) := by
    rw [readUrl, located]
    rfl
  rw [send, ExceptT.run_bind, pointed]
  refine congrArg (Dialogue.ask _) (funext fun _ => congrArg (Dialogue.ask _) (funext fun told => ?_))
  cases told with
  | error => rfl
  | ok response =>
    rw [outcome]
    dsimp only [Dialogue.bind, ExceptT.bindCont, Function.comp_apply]
    cases accept t due r.url response <;> rfl

theorem send_unlocated {due : Nat} {r : Http.Request} {cause : UrlFault} (unread : Url.read t.root = .error cause) :
    (send (transport none) t due r).run = .done (.error (.badUrl cause)) := by
  have pointed : (readUrl (m := Contacts) t.root).run = .done (.error (.badUrl cause)) := by
    rw [readUrl, unread]
    rfl
  rw [send, ExceptT.run_bind, pointed]
  rfl

variable {σ : Type} {answer : (c : Contact) → σ → c.Answer × σ} {s : σ}

/-- A request that is told a location, or is told none where one is due, has been granted. -/
theorem send_due {due : Nat} {r : Http.Request}
    (ended : (∃ place, ((send (transport none) t due r).run.run answer s).1 = .ok place) ∨
      ((send (transport none) t due r).run.run answer s).1 = .error .noLocation) :
    ∃ greeting told response, (send (transport none) t due r).run.history answer s =
      [⟨.exchange none { url := greeting }, told⟩, ⟨.exchange none r, .ok response⟩] ∧ response.status = due := by
  cases located : Url.read t.root with
  | error cause => simp [send_unlocated t located] at ended
  | ok greeting =>
    rw [send_eq t located] at *
    simp only [Dialogue.run_ask, Dialogue.run_done, Dialogue.history_ask, Dialogue.history_done] at *
    generalize (answer (.exchange none r) _).1 = told at *
    cases told with
    | error fault => simp [outcome] at ended
    | ok response => exact ⟨greeting, _, response, rfl, accept_due t ended⟩

/-- A registry that stores a manifest need not say where. -/
def settled (manifest : Manifest) : Except Fault String → Except Fault String
  | .error .noLocation => .ok (t.manifest manifest.digest)
  | result => result

theorem putManifest_located {manifest : Manifest} {url : Url} (located : Url.read (t.manifest t.name) = .ok url) :
    (putManifest (transport none) t manifest).run =
      Dialogue.bind (send (transport none) t 201 (manifestRequest url manifest)).run fun result =>
        .done (settled t manifest result) := by
  rw [putManifest, ExceptT.run_bind, readUrl, located]
  refine congrArg (Dialogue.bind (send (transport none) t 201 (manifestRequest url manifest)).run)
    (funext fun result => ?_)
  cases result with
  | ok place => rfl
  | error fault => cases fault <;> rfl

theorem putManifest_unlocated {manifest : Manifest} {cause : UrlFault}
    (unread : Url.read (t.manifest t.name) = .error cause) :
    (putManifest (transport none) t manifest).run = .done (.error (.badUrl cause)) := by
  rw [putManifest, ExceptT.run_bind, readUrl, unread]
  rfl

theorem settled_ok {manifest : Manifest} {result : Except Fault String} {place : String}
    (fine : settled t manifest result = .ok place) :
    (∃ place, result = .ok place) ∨ result = .error .noLocation := by
  cases result with
  | ok place => exact .inl ⟨place, rfl⟩
  | error fault =>
    cases fault with
    | noLocation => exact .inr rfl
    | badUrl | unanswered | refused | unexpected | noData => cases fine

/-- Just one manifest is put where all goes through, and it is stored. -/
theorem putManifest_ok {manifest : Manifest} {place : String}
    (ended : ((putManifest (transport none) t manifest).run.run answer s).1 = .ok place) :
    ∃ url response, Url.read (t.manifest t.name) = .ok url ∧ response.status = 201 ∧
      ⟨.exchange none (manifestRequest url manifest), .ok response⟩ ∈
        (putManifest (transport none) t manifest).run.history answer s ∧
      manifestPuts ((putManifest (transport none) t manifest).run.history answer s) =
        [manifestRequest url manifest] := by
  cases located : Url.read (t.manifest t.name) with
  | error cause =>
    rw [putManifest_unlocated t located] at ended
    cases ended
  | ok url =>
    rw [putManifest_located t located] at *
    rw [Dialogue.run_bind] at ended
    obtain ⟨greeting, told, response, history, stored⟩ := send_due t (settled_ok t ended)
    rw [Dialogue.history_bind, Dialogue.history_done, List.append_nil, history]
    exact ⟨url, response, rfl, stored, List.mem_cons_of_mem _ List.mem_cons_self, rfl⟩

theorem upload_quiet (data : Bytes) :
    manifestPuts ((upload (transport none) t data).run.history answer s) = [] :=
  manifestPuts_eq_nil ((upload_asks t data).history answer s)

/-- The manifest of an image is put once, after all uploads, and it is stored. -/
theorem steps_ok {i : Image} {place : String}
    (ended : ((steps (transport none) t i).run.run answer s).1 = .ok place) :
    ∃ url response, Url.read (t.manifest t.name) = .ok url ∧ response.status = 201 ∧
      ⟨.exchange none (manifestRequest url (.ofImage i)), .ok response⟩ ∈
        (steps (transport none) t i).run.history answer s ∧
      manifestPuts ((steps (transport none) t i).run.history answer s) = [manifestRequest url (.ofImage i)] := by
  rw [steps] at ended ⊢
  obtain ⟨_, s₁, ended, layer⟩ := Dialogue.run_bind_ok ended
  obtain ⟨_, s₂, ended, config⟩ := Dialogue.run_bind_ok ended
  obtain ⟨url, response, located, stored, member, puts⟩ := putManifest_ok t ended
  refine ⟨url, response, located, stored, ?_, ?_⟩
  · rw [layer, config]
    exact List.mem_append_right _ (List.mem_append_right _ member)
  · rw [layer, config, manifestPuts_append, manifestPuts_append, upload_quiet, upload_quiet, puts]
    rfl

/-- A push that goes through has stored the manifest of its image, and put no other. -/
theorem run_ok {scheme : Scheme} {target : Reference} {i : Image} {place : String}
    (ended : ((run (transport none) scheme target i).run answer s).1 = .ok place) :
    ∃ url response, Url.read ((Target.of scheme target).manifest (Target.of scheme target).name) = .ok url ∧
      response.status = 201 ∧
      ⟨.exchange none (manifestRequest url (.ofImage i)), .ok response⟩ ∈
        (run (transport none) scheme target i).history answer s ∧
      manifestPuts ((run (transport none) scheme target i).history answer s) =
        [manifestRequest url (.ofImage i)] := by
  have told : run (transport none) scheme target i =
      Dialogue.bind (steps (transport none) (.of scheme target) i).run fun result =>
        .done (result.mapError fun fault => .publish target.text fault.message) := rfl
  rw [told, Dialogue.run_bind] at ended
  rw [told, Dialogue.history_bind, Dialogue.history_done, List.append_nil]
  cases went : ((steps (transport none) (.of scheme target) i).run.run answer s).1 with
  | ok place => exact steps_ok _ went
  | error fault =>
    rw [went] at ended
    cases ended

end Push
end Stowage

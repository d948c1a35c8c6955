import Mathlib.Control.Monad.Basic
import Stowage.Proofs.Pass.Course

/-! Passes one after another over the same store. Each has its own failures and its own outcomes of the
transfers; between them nothing changes the objects. -/
namespace Stowage

/-- A pass over a key, with the failures that are set for it and the outcomes of its transfers. -/
structure Turn where
  key : ObjectKey
  failures : List (Operation × String)
  outcomes : Nat → Except TransferFault TransferReport

namespace Turn

/-- A pass in which nothing fails. -/
def undisturbed (key : ObjectKey) (reports : Nat → TransferReport) : Turn :=
  ⟨key, [], fun n => .ok (reports n)⟩

section

variable (t : Turn) (registry : String) (fallback : Span) (s : MemoryStore)

def setting : Setting := ⟨{ s with failures := t.failures }, t.outcomes⟩

def result : Except Failure Requeue :=
  ((Pass.run registry fallback t.key).run Setting.answer (t.setting s)).1

def store : MemoryStore :=
  ((Pass.run registry fallback t.key).run Setting.answer (t.setting s)).2.store

def attempts : List Attempt :=
  Stowage.attempts ((Pass.run registry fallback t.key).history Setting.answer (t.setting s))

end

variable (registry : String) (fallback : Span)

def after (turns : List Turn) (s : MemoryStore) : MemoryStore :=
  turns.foldl (fun s t => t.store registry fallback s) s

def made : List Turn → MemoryStore → List Attempt
  | [], _ => []
  | t :: turns, s => t.attempts registry fallback s ++ made turns (t.store registry fallback s)

@[simp] theorem after_nil (s : MemoryStore) : after registry fallback [] s = s := rfl

@[simp] theorem after_cons (t : Turn) (turns : List Turn) (s : MemoryStore) :
    after registry fallback (t :: turns) s =
      after registry fallback turns (t.store registry fallback s) := rfl

theorem after_concat (turns : List Turn) (t : Turn) (s : MemoryStore) :
    after registry fallback (turns ++ [t]) s =
      t.store registry fallback (after registry fallback turns s) := by
  simp [after]

@[simp] theorem made_nil (s : MemoryStore) : made registry fallback [] s = [] := rfl

@[simp] theorem made_cons (t : Turn) (turns : List Turn) (s : MemoryStore) :
    made registry fallback (t :: turns) s =
      t.attempts registry fallback s ++
        made registry fallback turns (t.store registry fallback s) := rfl

theorem course (t : Turn) (s : MemoryStore) :
    Pass.Course registry fallback t.key (t.setting s) (t.result registry fallback s)
      (t.store registry fallback s).objects (t.attempts registry fallback s) :=
  Pass.run_course registry fallback t.key (t.setting s)

end Turn

namespace Example

def resource : Resource where
  metadata := { name := some "web", «namespace» := some "shop", generation := some 2 }
  spec :=
    { interval := some "10m"
      componentRef := ⟨"acme.org/app", "catalog"⟩
      resource := ⟨"chart"⟩
      snapshotTemplate := ⟨"web", "stable"⟩ }
  status := some ⟨some 1, some "0.9"⟩

def component : ComponentDescriptor where
  metadata := { name := some "acme.org-app", «namespace» := some "catalog" }
  spec := ⟨none, [{ name := "chart", version := "1.0" }, { name := "image", version := "7" },
    { name := "chart", version := "1.1" }]⟩

def store : MemoryStore where
  resources := [(⟨"shop", "web"⟩, resource)]
  descriptors := [(⟨"catalog", "acme.org-app"⟩, component)]

def report : TransferReport where
  remote := "acme.org/app@sha256:0"
  destination := "registry.local/snapshots/web:stable"
  layerDigest := "sha256:0"
  bytes := 1
  manifestUrl := "https://registry.local/v2/snapshots/web/manifests/stable"

def broken : Turn :=
  ⟨⟨"shop", "web"⟩, [], fun n => if n = 1 then .error (.status "https://acme.org" 503) else .ok report⟩

def unpatched : Turn := ⟨⟨"shop", "web"⟩, [(.patchStatus, "conflict")], fun _ => .ok report⟩

def through : Turn := .undisturbed ⟨"shop", "web"⟩ fun _ => report

end Example
end Stowage

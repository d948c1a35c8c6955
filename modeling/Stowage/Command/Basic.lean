import Stowage.Access
import Stowage.ObjectKey
import Stowage.Scheme

/-! What the program can be told to do. -/
namespace Stowage

inductive Format where
  | human | json
deriving DecidableEq, Repr

def Format.read? (text : String) : Option Format :=
  if text = "human" then some .human else if text = "json" then some .json else none

structure RegistryOptions where
  /-- Proxy of all pulls, target of all pushes, root of all snapshots. -/
  address : String
  pullScheme : Scheme
  pushScheme : Scheme
  /-- Seconds that a pull may take. -/
  timeout : Nat
deriving DecidableEq, Repr

inductive Command where
  /-- Follows the resources of a namespace, or all. -/
  | run (registry : RegistryOptions) («namespace» : Option String)
  /-- One pass over one resource. -/
  | reconcile (registry : RegistryOptions) (key : ObjectKey)
  /-- One transfer, without a cluster. -/
  | transfer (registry : RegistryOptions) (access : GlobalAccess) (version name tag : String)
  /-- Prints the definitions of the kinds. -/
  | crd
deriving DecidableEq, Repr

structure Invocation where
  format : Format
  logJson : Bool
  command : Command
deriving DecidableEq, Repr

end Stowage

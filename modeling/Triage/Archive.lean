import Triage.Store.Backend

/-!
This module contains archives, through which runs and records are kept as well as can be: what a backend
refuses is not kept, and nobody fails because of it.
-/

namespace Triage

/--
An archive with a backend, or one that keeps nothing.
-/
structure Archive (τ : Type) where
  backend : Option (Store.Backend τ)

namespace Archive

variable {τ : Type}

/--
The number of runs in a history, unless another one is asked for.
-/
def historyLimit : UInt32 := 10

def disabled : Archive τ := ⟨none⟩

def ofBackend (backend : Store.Backend τ) : Archive τ := ⟨some backend⟩

def isEnabled (a : Archive τ) : Bool :=
  a.backend.isSome

def granted {α : Type} : Except Store.Error α → Option α
  | .ok a => some a
  | .error _ => none

def saveRun (a : Archive τ) (r : Run) (s : τ) : Bool × τ :=
  match a.backend with
  | none => (false, s)
  | some backend =>
    let (result, s) := backend.saveRun r s
    ((granted result).getD false, s)

def saveRecord (a : Archive τ) (r : Record) (s : τ) : Bool × τ :=
  match a.backend with
  | none => (false, s)
  | some backend =>
    let (result, s) := backend.saveRecord r s
    ((granted result).isSome, s)

/--
The runs of a ticket, the latest first and at most `limit` of them; none if they cannot be read.
-/
def history (a : Archive τ) (now : Timestamp) (tenant ticket : String) (limit : UInt32) (s : τ) : List Run :=
  match a.backend with
  | none => []
  | some backend => (granted (backend.runs? now tenant ticket limit s)).getD []

/--
The record of an id, if it belongs to the tenant and can be read.
-/
def record? (a : Archive τ) (now : Timestamp) (id tenant : String) (s : τ) : Option Record :=
  match a.backend with
  | none => none
  | some backend => (granted (backend.record? now id tenant s)).join

end Archive
end Triage

import Triage.Json.Members

/-!
This module contains catalogs, which keep what was loaded under a name until they are cleared.
-/

namespace Triage

/--
What was loaded, by name.
-/
structure Catalog (α : Type) where
  loaded : Members α

namespace Catalog

variable {α ε : Type}

def empty : Catalog α := ⟨[]⟩

/--
What stands under a name: what was loaded before, or else what `fetch` gives now, which is kept unless it is
an error.
-/
def load (fetch : String → Except ε α) (c : Catalog α) (name : String) : Except ε α × Catalog α :=
  match c.loaded.get? name with
  | some a => (.ok a, c)
  | none =>
    match fetch name with
    | .ok a => (.ok a, ⟨(name, a) :: c.loaded⟩)
    | .error e => (.error e, c)

def count (c : Catalog α) : Nat :=
  c.loaded.length

end Catalog
end Triage

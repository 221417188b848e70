import Depot.Keyed
import Depot.Repository.Basic

/-! Credentials by repository. The table has one entry per identifier, the one that was added last.
-/

namespace Depot

/-- Credentials by the identifier of the repository that asks for them. -/
structure Credentials where
  entries : List (String × Authentication) := []
deriving DecidableEq, Repr

namespace Credentials

instance : Inhabited Credentials := ⟨{}⟩

def get? (c : Credentials) (id : String) : Option Authentication :=
  c.entries.lookup id

/-- The table in which the identifier has these credentials. -/
def add (c : Credentials) (id : String) (authentication : Authentication) : Credentials :=
  ⟨Keyed.store c.entries id authentication⟩

@[simp] theorem get?_add (c : Credentials) (id : String) (authentication : Authentication)
    (asked : String) :
    (c.add id authentication).get? asked =
      if asked = id then some authentication else c.get? asked :=
  Keyed.lookup_store ..

def contains (c : Credentials) (id : String) : Bool :=
  (c.get? id).isSome

def size (c : Credentials) : Nat :=
  c.entries.length

def select? (c : Credentials) (r : RemoteRepository) : Option Authentication :=
  c.get? r.id

end Credentials

end Depot

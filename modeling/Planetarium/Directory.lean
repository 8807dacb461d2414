/-!
# Directories

A directory holds at most one value under each key. An entry whose key is already there replaces the old
value in its place; any other entry goes to the end.
-/

namespace Planetarium

/-- Values by key, in the order in which the keys came. -/
structure Directory (κ α : Type) where
  entries : List (κ × α) := []

namespace Directory

variable {κ α : Type} [DecidableEq κ]

/-- The value under a key. -/
def get? (d : Directory κ α) (k : κ) : Option α := (d.entries.find? (·.1 = k)).map (·.2)

/-- The entries with `v` under `k`. -/
def put (k : κ) (v : α) : List (κ × α) → List (κ × α)
  | [] => [(k, v)]
  | e :: es => if e.1 = k then (k, v) :: es else e :: put k v es

/-- The directory with `v` under `k`. -/
def insert (d : Directory κ α) (k : κ) (v : α) : Directory κ α := ⟨put k v d.entries⟩

/-- The number of keys. -/
def size (d : Directory κ α) : Nat := d.entries.length

/-- The values under the keys. -/
def values (d : Directory κ α) : List α := d.entries.map (·.2)

/-- The directory with the given entries; of two under one key the later one stays. -/
def ofList (entries : List (κ × α)) : Directory κ α :=
  entries.foldl (fun d e => d.insert e.1 e.2) {}

@[simp] theorem get?_empty (k : κ) : (⟨[]⟩ : Directory κ α).get? k = none := rfl

/-- **Look-up after an insertion.** The new value stands under its key, and all else is as before. -/
theorem get?_insert (d : Directory κ α) (k k' : κ) (v : α) :
    (d.insert k v).get? k' = if k = k' then some v else d.get? k' := by
  obtain ⟨es⟩ := d
  simp only [insert, get?]
  induction es with
  | nil => by_cases h : k = k' <;> simp [put, h]
  | cons e es ih => by_cases he : e.1 = k <;> grind [put]

end Directory

end Planetarium

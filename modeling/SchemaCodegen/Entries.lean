/-!
# Entries in the order of their first insertion

A finite map from texts whose order shows: the members of a JSON object, the rules of a naming
convention, rendered units, HTTP headers. Writing an existing key keeps its place.
-/

namespace SchemaCodegen

/-- Keys with their values; the order is that in which the keys were first written. -/
abbrev Entries (α : Type u) := List (String × α)

namespace Entries

variable {α : Type u} {β : Type v}

/-- The value at a key. -/
def get? : Entries α → String → Option α
  | [], _ => none
  | (k, v) :: rest, key => if k = key then some v else get? rest key

/-- Whether there is a value at the key. -/
def has (entries : Entries α) (key : String) : Bool := (entries.get? key).isSome

/-- Writes a value at a key, at the end if the key is new. -/
def put : Entries α → String → α → Entries α
  | [], key, value => [(key, value)]
  | (k, v) :: rest, key, value =>
    if k = key then (k, value) :: rest else (k, v) :: put rest key value

/-- The keys in order. -/
def keys (entries : Entries α) : List String := entries.map Prod.fst

/-- The entries that a sequence of writes leaves. -/
def ofWrites (writes : List (String × α)) : Entries α :=
  writes.foldl (fun entries (key, value) => entries.put key value) []

/-- The same keys with other values. -/
def mapValues (f : α → β) (entries : Entries α) : Entries β := entries.map fun (k, v) => (k, f v)

@[simp] theorem get?_nil (key : String) : get? ([] : Entries α) key = none := rfl

theorem get?_cons (k : String) (v : α) (rest : Entries α) (key : String) :
    get? ((k, v) :: rest) key = if k = key then some v else get? rest key := rfl

@[simp] theorem get?_put (entries : Entries α) (key key' : String) (value : α) :
    (entries.put key value).get? key' = if key = key' then some value else entries.get? key' := by
  induction entries with
  | nil => simp [put, get?]
  | cons entry rest ih =>
    obtain ⟨k, v⟩ := entry
    by_cases h : k = key <;> by_cases h' : k = key' <;> simp_all [put, get?] <;> grind

theorem keys_put (entries : Entries α) (key : String) (value : α) :
    (entries.put key value).keys = if key ∈ entries.keys then entries.keys else entries.keys ++ [key] := by
  induction entries with
  | nil => rfl
  | cons entry rest ih =>
    obtain ⟨k, v⟩ := entry
    simp only [keys] at ih
    by_cases h : k = key <;> simp_all [put, keys] <;> grind

theorem has_iff {entries : Entries α} {key : String} :
    entries.has key = true ↔ key ∈ entries.keys := by
  induction entries with
  | nil => simp [has, keys]
  | cons entry rest ih =>
    obtain ⟨k, v⟩ := entry
    by_cases same : k = key
    · simp [has, keys, get?, same]
    · have other : key ≠ k := fun h => same h.symm
      simpa [has, keys, get?, same, other] using ih

/-- Entries that are left out by their keys leave the others as they are. -/
theorem get?_filter (entries : Entries α) (keep : String → Bool) (key : String) :
    get? (entries.filter fun entry => keep entry.1) key =
      if keep key then entries.get? key else none := by
  induction entries with
  | nil => simp
  | cons entry rest ih =>
    obtain ⟨k, v⟩ := entry
    by_cases same : k = key
    · subst same
      cases kept : keep k
      · simp [kept, ih]
      · simp [kept, get?]
    · cases kept : keep k
      · simp [kept, ih, get?, same]
      · simp [kept, ih, get?, same]

theorem keys_filter (entries : Entries α) (keep : String → Bool) :
    keys (entries.filter fun entry => keep entry.1) = entries.keys.filter keep := by
  rw [keys, keys, List.filter_map]
  rfl

@[simp] theorem keys_mapValues (f : α → β) (entries : Entries α) :
    (entries.mapValues f).keys = entries.keys := by
  simp [mapValues, keys]

end Entries

end SchemaCodegen

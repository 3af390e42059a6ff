/-!
Catalogs: values under distinct names, in the order in which the names first came.

A lexicon of words, the variables of a session and the details of a log record are all catalogs.
`insert` writes over the value of a name that is there, without moving it, and puts a new name
behind all others (`names_insert`, `get?_insert_self`, `get?_insert_of_ne`).
-/

namespace WordSpace

/-! ## Association lists -/

namespace Entries

variable {α : Type}

/-- Writes `value` over the first entry called `name`, or behind all entries if there is none. -/
def insert (name : String) (value : α) : List (String × α) → List (String × α)
  | [] => [(name, value)]
  | entry :: rest =>
    if entry.1 = name then (name, value) :: rest else entry :: insert name value rest

/-- A write keeps the names of the entries, and adds the name it writes if it is new. -/
theorem map_fst_insert (name : String) (value : α) (entries : List (String × α)) :
    (insert name value entries).map Prod.fst =
      if name ∈ entries.map Prod.fst then entries.map Prod.fst
      else entries.map Prod.fst ++ [name] := by
  induction entries with
  | nil => simp [insert]
  | cons entry rest ih =>
    by_cases same : entry.1 = name
    · simp [insert, same]
    · have other : name ≠ entry.1 := fun h => same h.symm
      by_cases old : name ∈ rest.map Prod.fst
      · simp only [insert, same, if_false, List.map_cons, ih, List.mem_cons, old, or_true,
          if_true]
      · simp only [insert, same, if_false, List.map_cons, ih, List.mem_cons, other, old,
          or_self, List.cons_append]

/-- After a write the name has the value that was written. -/
theorem lookup_insert_self (name : String) (value : α) (entries : List (String × α)) :
    (insert name value entries).lookup name = some value := by
  induction entries with
  | nil => simp [insert]
  | cons entry rest ih =>
    by_cases same : entry.1 = name
    · simp [insert, same]
    · have other : (name == entry.1) = false := by simpa using fun h => same h.symm
      rcases entry with ⟨key, old⟩
      simp only [insert, same, if_false, List.lookup_cons, other, ih]

/-- A write leaves the values of all other names as they are. -/
theorem lookup_insert_of_ne {name other : String} (different : other ≠ name) (value : α)
    (entries : List (String × α)) :
    (insert name value entries).lookup other = entries.lookup other := by
  have apart : (other == name) = false := by simpa using different
  induction entries with
  | nil => simpa [insert] using different
  | cons entry rest ih =>
    rcases entry with ⟨key, old⟩
    by_cases same : key = name
    · subst same
      simp [insert, List.lookup_cons, apart]
    · simp only [insert, same, if_false, List.lookup_cons, ih]

theorem lookup_eq_some_iff {name : String} {value : α} {entries : List (String × α)}
    (distinct : (entries.map Prod.fst).Nodup) :
    entries.lookup name = some value ↔ (name, value) ∈ entries := by
  induction entries with
  | nil => simp
  | cons entry rest ih =>
    rcases entry with ⟨key, first⟩
    rw [List.map_cons, List.nodup_cons] at distinct
    rw [List.lookup_cons, List.mem_cons, Prod.mk.injEq]
    cases same : name == key with
    | true =>
      rw [beq_iff_eq] at same
      subst same
      have new : (name, value) ∉ rest := fun member =>
        distinct.1 (List.mem_map.2 ⟨(name, value), member, rfl⟩)
      simp [new, eq_comm]
    | false =>
      have other : name ≠ key := by simpa using same
      rw [ih distinct.2]
      simp [other]

end Entries

/-! ## Catalogs -/

/-- Values under distinct names, in the order in which the names first came. -/
structure Catalog (α : Type) where
  entries : List (String × α)
  distinct : (entries.map Prod.fst).Nodup

namespace Catalog

variable {α : Type}

/-- The catalog without entries. -/
def empty : Catalog α := ⟨[], by simp⟩

instance : EmptyCollection (Catalog α) := ⟨empty⟩

instance : Inhabited (Catalog α) := ⟨empty⟩

/-- The names, in the order in which they first came. -/
def names (catalog : Catalog α) : List String := catalog.entries.map Prod.fst

/-- The number of names. -/
def size (catalog : Catalog α) : Nat := catalog.entries.length

/-- Whether there is no entry. -/
def isEmpty (catalog : Catalog α) : Bool := catalog.entries.isEmpty

/-- The value under a name. -/
def get? (catalog : Catalog α) (name : String) : Option α := catalog.entries.lookup name

/-- Whether a name has a value. -/
def contains (catalog : Catalog α) (name : String) : Bool := (catalog.get? name).isSome

/-- Puts `value` under `name`: over the value it has, or behind all entries. -/
def insert (catalog : Catalog α) (name : String) (value : α) : Catalog α where
  entries := Entries.insert name value catalog.entries
  distinct := by
    rw [Entries.map_fst_insert]
    split
    · exact catalog.distinct
    · rename_i new
      exact List.nodup_append.2 ⟨catalog.distinct, by simp, by
        intro a mem b memb
        rcases List.mem_singleton.1 memb with rfl
        exact fun h => new (h ▸ mem)⟩

/-- Inserts pairs one after the other: a repeated name keeps its first place and its last value. -/
def insertAll (catalog : Catalog α) (pairs : List (String × α)) : Catalog α :=
  pairs.foldl (fun c pair => c.insert pair.1 pair.2) catalog

/-- The catalog of a list of pairs. -/
def ofList (pairs : List (String × α)) : Catalog α := empty.insertAll pairs

@[simp] theorem names_empty : (empty : Catalog α).names = [] := rfl

@[simp] theorem get?_empty (name : String) : (empty : Catalog α).get? name = none := rfl

/-- An insertion adds its name behind the others if it is new, and moves none. -/
theorem names_insert (catalog : Catalog α) (name : String) (value : α) :
    (catalog.insert name value).names =
      if name ∈ catalog.names then catalog.names else catalog.names ++ [name] :=
  Entries.map_fst_insert name value catalog.entries

@[simp] theorem get?_insert_self (catalog : Catalog α) (name : String) (value : α) :
    (catalog.insert name value).get? name = some value :=
  Entries.lookup_insert_self name value catalog.entries

theorem get?_insert_of_ne (catalog : Catalog α) {name other : String} (different : other ≠ name)
    (value : α) : (catalog.insert name value).get? other = catalog.get? other :=
  Entries.lookup_insert_of_ne different value catalog.entries

/-- The entries are the names with their values. -/
theorem get?_eq_some_iff {catalog : Catalog α} {name : String} {value : α} :
    catalog.get? name = some value ↔ (name, value) ∈ catalog.entries :=
  Entries.lookup_eq_some_iff catalog.distinct

theorem length_names (catalog : Catalog α) : catalog.names.length = catalog.size := by
  simp [names, size]

theorem nodup_names (catalog : Catalog α) : catalog.names.Nodup := catalog.distinct

end Catalog

end WordSpace

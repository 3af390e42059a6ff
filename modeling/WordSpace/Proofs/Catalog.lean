import Mathlib
import WordSpace.Catalog

/-!
Catalogs made from lists of pairs.

Of several pairs with one name the first gives the place (`Catalog.names_ofList`) and the last gives
the value (`Catalog.get?_ofList`). A catalog of other pairs behind those that are there already goes
by the same rule. Pairs with distinct names are kept as they are (`Catalog.entries_ofList`).
-/

namespace WordSpace

/-- A member that comes again is dropped. -/
theorem eraseDups_append_of_mem {α : Type} [BEq α] [LawfulBEq α] {known rest : List α} {a : α}
    (old : a ∈ known) : (known ++ a :: rest).eraseDups = (known ++ rest).eraseDups := by
  rw [List.eraseDups_append, List.eraseDups_append]
  congr 2
  simp [List.removeAll, old]

theorem eraseDups_eq_self {α : Type} [BEq α] [LawfulBEq α] {xs : List α} (distinct : xs.Nodup) :
    xs.eraseDups = xs := by
  induction xs with
  | nil => rfl
  | cons x xs ih =>
    rcases List.nodup_cons.1 distinct with ⟨new, distinct⟩
    have others : xs.filter (fun y => !y == x) = xs := by
      refine List.filter_eq_self.2 fun y member => ?_
      have apart : y ≠ x := fun same => new (same ▸ member)
      simpa using apart
    rw [List.eraseDups_cons, others, ih distinct]

theorem Entries.insert_of_new {α : Type} {name : String} (value : α)
    {entries : List (String × α)} (new : name ∉ entries.map Prod.fst) :
    Entries.insert name value entries = entries ++ [(name, value)] := by
  induction entries with
  | nil => rfl
  | cons entry rest ih =>
    rcases List.ne_and_not_mem_of_not_mem_cons new with ⟨apart, new⟩
    rw [Entries.insert, if_neg (Ne.symm apart), ih new, List.cons_append]

namespace Catalog

variable {α : Type}

theorem insertAll_cons (catalog : Catalog α) (pair : String × α) (pairs : List (String × α)) :
    catalog.insertAll (pair :: pairs) = (catalog.insert pair.1 pair.2).insertAll pairs := rfl

theorem names_insertAll (catalog : Catalog α) (pairs : List (String × α)) :
    (catalog.insertAll pairs).names = (catalog.names ++ pairs.map Prod.fst).eraseDups := by
  induction pairs generalizing catalog with
  | nil =>
    rw [List.map_nil, List.append_nil, eraseDups_eq_self catalog.nodup_names]
    rfl
  | cons pair pairs ih =>
    rw [insertAll_cons, ih, names_insert, List.map_cons]
    split
    · rename_i old
      rw [eraseDups_append_of_mem old]
    · rw [List.append_assoc, List.singleton_append]

theorem get?_insertAll (catalog : Catalog α) (pairs : List (String × α)) (name : String) :
    (catalog.insertAll pairs).get? name = (pairs.reverse.lookup name).or (catalog.get? name) := by
  induction pairs generalizing catalog with
  | nil => rfl
  | cons pair pairs ih =>
    rw [insertAll_cons, ih, List.reverse_cons, List.lookup_append, Option.or_assoc]
    congr 1
    by_cases same : name = pair.1
    · subst same
      rw [get?_insert_self, List.lookup_cons, beq_self_eq_true]
      rfl
    · have apart : (name == pair.1) = false := by simpa using same
      rw [get?_insert_of_ne _ same, List.lookup_cons, apart]
      rfl

/-- The names of a list of pairs stand in the order in which they first come. -/
theorem names_ofList (pairs : List (String × α)) :
    (ofList pairs).names = (pairs.map Prod.fst).eraseDups :=
  names_insertAll empty pairs

/-- Of several values for one name the last one counts. -/
theorem get?_ofList (pairs : List (String × α)) (name : String) :
    (ofList pairs).get? name = pairs.reverse.lookup name := by
  rw [ofList, get?_insertAll, get?_empty, Option.or_none]

theorem contains_iff {catalog : Catalog α} {name : String} :
    catalog.contains name = true ↔ name ∈ catalog.names := by
  rw [contains, Option.isSome_iff_exists, names, List.mem_map]
  constructor
  · rintro ⟨value, found⟩
    exact ⟨(name, value), get?_eq_some_iff.1 found, rfl⟩
  · rintro ⟨⟨_, value⟩, member, rfl⟩
    exact ⟨value, get?_eq_some_iff.2 member⟩

theorem get?_eq_none_iff {catalog : Catalog α} {name : String} :
    catalog.get? name = none ↔ name ∉ catalog.names := by
  rw [← contains_iff, contains, Option.not_isSome_iff_eq_none]

/-- Of several pairs with one name the last one is the one that counts. -/
theorem get?_ofList_eq_some_iff {pairs : List (String × α)} {name : String} {value : α} :
    (ofList pairs).get? name = some value ↔
      ∃ before behind, pairs = before ++ (name, value) :: behind ∧
        ∀ pair ∈ behind, name ≠ pair.1 := by
  rw [get?_ofList, List.lookup_eq_some_iff]
  constructor
  · rintro ⟨behind, before, reversed, new⟩
    refine ⟨before.reverse, behind.reverse, ?_, fun pair member => ?_⟩
    · rw [← List.reverse_reverse pairs, reversed]
      simp
    · simpa using new pair (List.mem_reverse.1 member)
  · rintro ⟨before, behind, rfl, new⟩
    refine ⟨behind.reverse, before.reverse, by simp, fun pair member => ?_⟩
    simpa using new pair (List.mem_reverse.1 member)

/-- The value of one pair does not matter to the other names. -/
theorem get?_ofList_append_cons {name other : String} (apart : other ≠ name) (value : α)
    (before behind : List (String × α)) :
    (ofList (before ++ (name, value) :: behind)).get? other =
      (ofList (before ++ behind)).get? other := by
  have skip : (other == name) = false := beq_eq_false_iff_ne.2 apart
  rw [get?_ofList, get?_ofList, List.reverse_append, List.reverse_append, List.reverse_cons,
    List.lookup_append, List.lookup_append, List.lookup_append, List.lookup_cons, skip]
  simp

/-- Pairs with new names come behind the entries as they are. -/
theorem entries_insertAll_of_new {catalog : Catalog α} {pairs : List (String × α)}
    (distinct : (catalog.names ++ pairs.map Prod.fst).Nodup) :
    (catalog.insertAll pairs).entries = catalog.entries ++ pairs := by
  induction pairs generalizing catalog with
  | nil =>
    rw [List.append_nil]
    rfl
  | cons pair pairs ih =>
    have new : pair.1 ∉ catalog.names := fun old =>
      (List.nodup_append.1 distinct).2.2 pair.1 old pair.1 (by simp) rfl
    have step : (catalog.insert pair.1 pair.2).entries = catalog.entries ++ [pair] :=
      Entries.insert_of_new pair.2 new
    have names : (catalog.insert pair.1 pair.2).names = catalog.names ++ [pair.1] := by
      rw [names_insert, if_neg new]
    rw [insertAll_cons, ih, step, List.append_assoc, List.singleton_append]
    rw [names, List.append_assoc, List.singleton_append]
    exact distinct

/-- Pairs with distinct names are the entries of their catalog. -/
theorem entries_ofList {pairs : List (String × α)} (distinct : (pairs.map Prod.fst).Nodup) :
    (ofList pairs).entries = pairs :=
  entries_insertAll_of_new distinct

end Catalog

end WordSpace

import Ployz.Base.Exec

/-!
# Ordered maps and sets

`BTreeMap` is the extensional tree map of the standard library: two maps are equal when
they hold the same entries, and `toList` lists the entries by ascending key. The operations
here are the ones the code builds from `entry(..).or_default()` and from indexing; each
comes with what a lookup sees after it. `BTreeSet` is a `Finset`, iterated by `ascending`.
-/

namespace Ployz

open List

/-- `BTreeMap<K, V>`. -/
abbrev OrdMap (κ ν : Type) [Ord κ] := Std.ExtTreeMap κ ν compare

namespace OrdMap

variable {κ ν α ε : Type} [Ord κ] [Std.TransOrd κ] [Std.LawfulEqOrd κ]

/-- `map[key]`, which panics on an absent key. -/
def index (map : OrdMap κ ν) (key : κ) : Exec ε ν := Exec.expect map[key]?

/-- `map.entry(key).or_default().push(item)`. -/
def push (map : OrdMap κ (List ν)) (key : κ) (item : ν) : OrdMap κ (List ν) :=
  map.insert key (map.getD key [] ++ [item])

/-- `map.entry(key).or_default().insert(item)`, for a map of sets. -/
def enter [DecidableEq α] (map : OrdMap κ (Finset α)) (key : κ) (item : α) :
    OrdMap κ (Finset α) :=
  map.insert key (insert item (map.getD key ∅))

variable {map : OrdMap κ ν} {key : κ}

omit [Std.LawfulEqOrd κ] in
theorem index_of_getElem? {value : ν} (found : map[key]? = some value) :
    (map.index key : Exec ε ν) = .ok value := by
  rw [index, found]
  rfl

theorem getElem?_insert_eq [DecidableEq κ] (map : OrdMap κ ν) (key other : κ) (value : ν) :
    (map.insert key value)[other]? = if key = other then some value else map[other]? := by
  rw [Std.ExtTreeMap.getElem?_insert]
  simp only [Std.LawfulEqCmp.compare_eq_iff_eq]

theorem getD_insert_eq [DecidableEq κ] (map : OrdMap κ ν) (key other : κ) (value fallback : ν) :
    (map.insert key value).getD other fallback =
      if key = other then value else map.getD other fallback := by
  rw [Std.ExtTreeMap.getD_insert]
  simp only [Std.LawfulEqCmp.compare_eq_iff_eq]

theorem mem_insert_eq (map : OrdMap κ ν) (key other : κ) (value : ν) :
    other ∈ map.insert key value ↔ key = other ∨ other ∈ map := by
  rw [Std.ExtTreeMap.mem_insert, Std.LawfulEqCmp.compare_eq_iff_eq]

theorem mem_insert_of_mem (known : key ∈ map) (other : κ) (value : ν) :
    other ∈ map.insert key value ↔ other ∈ map := by
  rw [mem_insert_eq]
  exact or_iff_right_of_imp fun same => same ▸ known

omit [Std.LawfulEqOrd κ] in
theorem getElem?_of_mem (known : key ∈ map) (fallback : ν) :
    map[key]? = some (map.getD key fallback) := by
  rw [Std.ExtTreeMap.getElem?_eq_some_getElem known]
  exact congrArg some (Std.ExtTreeMap.getElem_eq_getD fallback)

omit [Std.LawfulEqOrd κ] in
theorem index_of_mem (known : key ∈ map) (fallback : ν) :
    (map.index key : Exec ε ν) = .ok (map.getD key fallback) :=
  index_of_getElem? (getElem?_of_mem known fallback)

omit [Std.LawfulEqOrd κ] in
/-- Indexing returns the entry that is there, and panics exactly when there is none. -/
theorem ends_index (map : OrdMap κ ν) (key : κ) (fallback : ν) :
    Ends (map.index key : Exec ε ν) (fun value => key ∈ map ∧ value = map.getD key fallback)
      (fun fault => fault = .panic ∧ key ∉ map) := by
  by_cases known : key ∈ map
  · rw [index_of_mem known fallback]
    exact ⟨known, rfl⟩
  · have absent : map[key]? = none := Std.ExtTreeMap.getElem?_eq_none known
    rw [index, absent]
    exact ⟨rfl, known⟩

theorem getD_push [DecidableEq κ] (map : OrdMap κ (List ν)) (key other : κ) (item : ν) :
    (map.push key item).getD other [] =
      if key = other then map.getD other [] ++ [item] else map.getD other [] := by
  rw [push, getD_insert_eq]
  split
  · rename_i same
    rw [same]
  · rfl

theorem mem_push (map : OrdMap κ (List ν)) (key other : κ) (item : ν) :
    other ∈ map.push key item ↔ key = other ∨ other ∈ map :=
  mem_insert_eq map key other _

theorem mem_getD_enter [DecidableEq α] (map : OrdMap κ (Finset α)) (key other : κ)
    (item sought : α) : sought ∈ (map.enter key item).getD other ∅ ↔
      (key = other ∧ sought = item) ∨ sought ∈ map.getD other ∅ := by
  classical
  rw [enter, getD_insert_eq]
  split
  · rename_i same
    simp [same]
  · rename_i differ
    simp [differ]

theorem mem_enter [DecidableEq α] (map : OrdMap κ (Finset α)) (key other : κ) (item : α) :
    other ∈ map.enter key item ↔ key = other ∨ other ∈ map :=
  mem_insert_eq map key other _

theorem mem_toList {value : ν} : (key, value) ∈ map.toList ↔ map[key]? = some value :=
  Std.ExtTreeMap.mem_toList_iff_getElem?_eq_some

omit [Std.LawfulEqOrd κ] in
theorem nodup_keys_toList (map : OrdMap κ ν) : (map.toList.map Prod.fst).Nodup := by
  rw [Std.ExtTreeMap.map_fst_toList_eq_keys]
  exact Std.ExtTreeMap.nodup_keys

theorem mem_map_fst_toList : key ∈ map.toList.map Prod.fst ↔ key ∈ map := by
  rw [Std.ExtTreeMap.map_fst_toList_eq_keys]
  exact Std.ExtTreeMap.mem_keys

theorem flatMap_filter_toList [DecidableEq κ] (map : OrdMap κ (List ν)) (key : κ) :
    (map.toList.filter fun entry => entry.1 = key).flatMap Prod.snd = map.getD key [] := by
  by_cases known : key ∈ map
  · have entry := mem_toList.mpr (getElem?_of_mem known [])
    obtain ⟨before, after, split⟩ := append_of_mem entry
    have distinct := map.nodup_keys_toList
    rw [split, map_append, map_cons, nodup_append, nodup_cons] at distinct
    have early : before.filter (fun entry => entry.1 = key) = [] := by
      refine filter_eq_nil_iff.mpr fun other inside => ?_
      have differs := distinct.2.2 other.1 (mem_map_of_mem inside) key mem_cons_self
      simpa using differs
    have late : after.filter (fun entry => entry.1 = key) = [] := by
      refine filter_eq_nil_iff.mpr fun other inside => ?_
      have differs : other.1 ≠ key := by
        rintro rfl
        exact distinct.2.1.1 (mem_map.mpr ⟨other, inside, rfl⟩)
      simpa using differs
    rw [split, filter_append, early, filter_cons_of_pos (by simp), late]
    simp
  · have none : map.toList.filter (fun entry => entry.1 = key) = [] := by
      refine filter_eq_nil_iff.mpr fun other inside => ?_
      have differs : other.1 ≠ key := by
        rintro rfl
        exact known (mem_map_fst_toList.mp (mem_map.mpr ⟨other, inside, rfl⟩))
      simpa using differs
    rw [none, Std.ExtTreeMap.getD_eq_fallback known]
    rfl

theorem getD_foldl_insert [DecidableEq κ] (keys : List κ) (map : OrdMap κ ν) (value : ν)
    (other : κ) (fallback : ν) :
    (keys.foldl (fun map key => map.insert key value) map).getD other fallback =
      if other ∈ keys then value else map.getD other fallback := by
  induction keys generalizing map with
  | nil => simp
  | cons key keys ih =>
    rw [foldl_cons, ih, getD_insert_eq]
    by_cases later : other ∈ keys
    · simp [later]
    · by_cases same : key = other
      · simp [same]
      · simp [later, same, Ne.symm same]

theorem mem_foldl_insert {keys : List κ} (value : ν) (known : ∀ key ∈ keys, key ∈ map) (other : κ) :
    other ∈ keys.foldl (fun map key => map.insert key value) map ↔ other ∈ map := by
  induction keys generalizing map with
  | nil => rfl
  | cons key keys ih =>
    have first : key ∈ map := known key mem_cons_self
    rw [foldl_cons, ih, mem_insert_of_mem first]
    intro later inside
    exact (mem_insert_of_mem first later value).mpr (known later (mem_cons_of_mem _ inside))

theorem getD_foldl_push [DecidableEq κ] (keys : List κ) (distinct : keys.Nodup) (pass : κ → Bool)
    (map : OrdMap κ (List ν)) (item : ν) (other : κ) :
    (keys.foldl (fun map key => if pass key then map else map.push key item) map).getD other [] =
      map.getD other [] ++ if other ∈ keys ∧ pass other = false then [item] else [] := by
  induction keys generalizing map with
  | nil => simp
  | cons key keys ih =>
    obtain ⟨fresh, distinct'⟩ := nodup_cons.mp distinct
    rw [foldl_cons, ih distinct']
    by_cases same : key = other
    · subst same
      by_cases passed : pass key = true
      · simp [fresh, passed]
      · simp [fresh, passed, getD_push]
    · by_cases passed : pass key = true
      · simp [passed, Ne.symm same]
      · simp [passed, getD_push, same, Ne.symm same]

/-- Every list of the map has an item. -/
def Occupied (map : OrdMap κ (List ν)) : Prop := ∀ key, key ∈ map ↔ map.getD key [] ≠ []

theorem Occupied.push {map : OrdMap κ (List ν)} (occupied : Occupied map) (key : κ)
    (item : ν) : Occupied (map.push key item) := by
  classical
  intro other
  rw [mem_push, getD_push, occupied]
  split_ifs with same
  · simp [same]
  · simp [same]

theorem Occupied.foldl_push {map : OrdMap κ (List ν)} (occupied : Occupied map)
    (keys : List κ) (pass : κ → Bool) (item : ν) : Occupied
      (keys.foldl (fun map key => if pass key then map else map.push key item) map) := by
  induction keys generalizing map with
  | nil => exact occupied
  | cons key keys ih =>
    rw [foldl_cons]
    split_ifs
    · exact ih occupied
    · exact ih (occupied.push key item)

/-- Items pushed one after another, each under its key. -/
def pushAll (map : OrdMap κ (List ν)) (entries : List (κ × ν)) : OrdMap κ (List ν) :=
  entries.foldl (fun map entry => map.push entry.1 entry.2) map

/-- The items pushed under a key stand in the order they were pushed in. -/
theorem getD_pushAll [DecidableEq κ] (map : OrdMap κ (List ν)) (entries : List (κ × ν))
    (key : κ) : (map.pushAll entries).getD key [] =
      map.getD key [] ++ (entries.filter fun entry => entry.1 = key).map Prod.snd := by
  induction entries generalizing map with
  | nil => exact (append_nil _).symm
  | cons entry entries ih =>
    refine (ih _).trans ?_
    rw [getD_push]
    by_cases same : entry.1 = key
    · simp [same]
    · simp [same]

theorem mem_pushAll (map : OrdMap κ (List ν)) (entries : List (κ × ν)) (key : κ) :
    key ∈ map.pushAll entries ↔ key ∈ map ∨ key ∈ entries.map Prod.fst := by
  induction entries generalizing map with
  | nil => simp [pushAll]
  | cons entry entries ih =>
    refine (ih _).trans ?_
    rw [mem_push, map_cons, mem_cons, eq_comm]
    tauto

/-- Pushed in another order, the items under a key are the same up to their order. -/
theorem pushAll_perm {entries other : List (κ × ν)} (same : entries.Perm other) (key : κ) :
    (pushAll (∅ : OrdMap κ (List ν)) entries)[key]?.map Multiset.ofList =
      (pushAll (∅ : OrdMap κ (List ν)) other)[key]?.map Multiset.ofList := by
  classical
  by_cases pushed : key ∈ entries.map Prod.fst
  · have also : key ∈ other.map Prod.fst := (same.map _).mem_iff.mp pushed
    rw [getElem?_of_mem ((mem_pushAll _ _ _).mpr (.inr pushed)) [],
      getElem?_of_mem ((mem_pushAll _ _ _).mpr (.inr also)) [], getD_pushAll, getD_pushAll,
      Option.map_some, Option.map_some, Option.some_inj]
    apply Multiset.coe_eq_coe.mpr
    exact (((same.filter _).map _).append_left _)
  · have neither : key ∉ other.map Prod.fst := fun also => pushed ((same.map _).mem_iff.mpr also)
    have first : key ∉ pushAll (∅ : OrdMap κ (List ν)) entries := by simp [mem_pushAll, pushed]
    have second : key ∉ pushAll (∅ : OrdMap κ (List ν)) other := by simp [mem_pushAll, neither]
    rw [Std.ExtTreeMap.getElem?_eq_none first, Std.ExtTreeMap.getElem?_eq_none second]

section Shrinking

variable [DecidableEq κ]

/-- Total size of the sets of a map. -/
def weight (map : OrdMap κ (Finset α)) : Nat :=
  ∑ key ∈ map.keys.toFinset, (map.getD key ∅).card

/-- The same keys, each with a smaller set. -/
structure Shrinks (after before : OrdMap κ (Finset α)) : Prop where
  keys : ∀ key, key ∈ after ↔ key ∈ before
  subset : ∀ key, after.getD key ∅ ⊆ before.getD key ∅

omit [Std.LawfulEqOrd κ] [DecidableEq κ] in
theorem Shrinks.refl (map : OrdMap κ (Finset α)) : Shrinks map map :=
  ⟨fun _ => Iff.rfl, fun _ => Finset.Subset.refl _⟩

variable {after before : OrdMap κ (Finset α)}

omit [Std.LawfulEqOrd κ] [DecidableEq κ] in
theorem Shrinks.trans {mid : OrdMap κ (Finset α)} (second : Shrinks after mid)
    (first : Shrinks mid before) : Shrinks after before :=
  ⟨fun key => (second.keys key).trans (first.keys key),
    fun key => (second.subset key).trans (first.subset key)⟩

/-- A shrinking that makes one set strictly smaller makes the map lighter. -/
theorem Shrinks.weight_lt (shrinks : Shrinks after before)
    (strict : (after.getD key ∅).card < (before.getD key ∅).card) :
    after.weight < before.weight := by
  have sameKeys : after.keys.toFinset = before.keys.toFinset := by
    ext other
    simp only [mem_toFinset, Std.ExtTreeMap.mem_keys]
    exact shrinks.keys other
  have known : key ∈ before := by
    by_contra absent
    rw [Std.ExtTreeMap.getD_eq_fallback absent] at strict
    exact absurd strict (Nat.not_lt_zero _)
  rw [weight, weight, sameKeys]
  refine Finset.sum_lt_sum (fun other _ => Finset.card_le_card (shrinks.subset other)) ?_
  exact ⟨key, by simpa using known, strict⟩

end Shrinking

end OrdMap

section Sets

variable {α : Type} [LinearOrder α]

/-- Iteration over a `BTreeSet`. Sorting by insertion keeps it computable in the kernel. -/
def ascending (set : Finset α) : List α :=
  Quotient.liftOn set.val (fun members => members.insertionSort (· ≤ ·)) fun left right perm => by
    have same : (left.insertionSort (· ≤ ·)).Perm (right.insertionSort (· ≤ ·)) :=
      (perm_insertionSort _ left).trans
        (List.Perm.trans perm (perm_insertionSort _ right).symm)
    exact same.eq_of_sortedLE (sortedLE_insertionSort) (sortedLE_insertionSort)

theorem mem_ascending {set : Finset α} {member : α} : member ∈ ascending set ↔ member ∈ set := by
  obtain ⟨members, distinct⟩ := set
  induction members using Quotient.inductionOn
  exact mem_insertionSort _

theorem nodup_ascending (set : Finset α) : (ascending set).Nodup := by
  obtain ⟨members, distinct⟩ := set
  induction members using Quotient.inductionOn
  exact (perm_insertionSort _ _).nodup_iff.mpr distinct

end Sets

end Ployz

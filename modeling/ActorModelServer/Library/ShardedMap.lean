/-
**One map kept in shards.**

A hash map per shard, where inserting a key that is present changes nothing (`Table.insertNew`), and
a function `home` that says which shard a key belongs to.

* `Represents` — every key is in its own shard only, with the value that one map gives it. The empty
  shards represent the empty map, and inserting, erasing and clearing a shard keep this.
* `Each` — every entry has a property; inserting an entry that has it, erasing and clearing keep
  this.
* `size` — the number of entries over all shards, and what each operation does to it.
-/

import ActorModelServer.Library.ThreadTable
import Mathlib.Data.List.AList

namespace ShardedMap

open ThreadTable (tally tally_update tally_eq_zero)

universe u v w

/-- A hash map. -/
abbrev Table (Key : Type v) (Value : Type w) := AList (fun _ : Key => Value)

/-- A hash map in each shard. -/
abbrev Shards (Shard : Type u) (Key : Type v) (Value : Type w) := Shard → Table Key Value

/-! ### The operations -/

section Operations

variable {Shard : Type u} {Key : Type v} {Value : Type w} [DecidableEq Shard]

/-- Emptying one shard. -/
def clear (shards : Shards Shard Key Value) (shard : Shard) : Shards Shard Key Value :=
  Function.update shards shard ∅

theorem clear_of_ne (shards : Shards Shard Key Value) {shard place : Shard}
    (different : place ≠ shard) : clear shards shard place = shards place :=
  Function.update_of_ne different _ _

theorem clear_self (shards : Shards Shard Key Value) (shard : Shard) :
    clear shards shard shard = ∅ :=
  Function.update_self _ _ _

variable [DecidableEq Key]

/-- Insertion into a hash map; a key that is present keeps its value. -/
def Table.insertNew (table : Table Key Value) (key : Key) (value : Value) : Table Key Value :=
  if key ∈ table then table else AList.insert key value table

theorem Table.insertNew_of_mem {table : Table Key Value} {key : Key} (value : Value)
    (present : key ∈ table) : table.insertNew key value = table :=
  if_pos present

theorem Table.insertNew_of_notMem {table : Table Key Value} {key : Key} (value : Value)
    (absent : key ∉ table) : table.insertNew key value = AList.insert key value table :=
  if_neg absent

theorem Table.lookup_insertNew_ne {table : Table Key Value} {key other : Key} (value : Value)
    (different : other ≠ key) :
    AList.lookup other (table.insertNew key value) = AList.lookup other table := by
  by_cases present : key ∈ table
  · rw [insertNew_of_mem value present]
  · rw [insertNew_of_notMem value present, AList.lookup_insert_ne different]

/-- Inserting the value a key has, or a value for a key that has none. -/
theorem Table.lookup_insertNew_self {table : Table Key Value} {key : Key} {value : Value}
    (same : ∀ old, AList.lookup key table = some old → old = value) :
    AList.lookup key (table.insertNew key value) = some value := by
  by_cases present : key ∈ table
  · rw [insertNew_of_mem value present]
    obtain ⟨old, found⟩ := Option.isSome_iff_exists.mp (AList.lookup_isSome.mpr present)
    rw [found, same old found]
  · rw [insertNew_of_notMem value present, AList.lookup_insert]

/-- Insertion into one shard. -/
def insertNew (shards : Shards Shard Key Value) (shard : Shard) (key : Key) (value : Value) :
    Shards Shard Key Value :=
  Function.update shards shard ((shards shard).insertNew key value)

/-- Erasing a key of one shard. -/
def erase (shards : Shards Shard Key Value) (shard : Shard) (key : Key) :
    Shards Shard Key Value :=
  Function.update shards shard (AList.erase key (shards shard))

theorem insertNew_of_mem {shards : Shards Shard Key Value} {shard : Shard} {key : Key}
    (value : Value) (present : key ∈ shards shard) : insertNew shards shard key value = shards := by
  rw [insertNew, Table.insertNew_of_mem value present, Function.update_eq_self]

theorem erase_of_notMem {shards : Shards Shard Key Value} {shard : Shard} {key : Key}
    (absent : key ∉ shards shard) : erase shards shard key = shards := by
  have same : AList.erase key (shards shard) = shards shard :=
    AList.ext (List.kerase_of_notMem_keys fun member => absent (AList.mem_keys.mpr member))
  rw [erase, same, Function.update_eq_self]

/-! A lookup that an operation is not about. -/

theorem lookup_insertNew_ne (shards : Shards Shard Key Value) (shard place : Shard)
    {key other : Key} (value : Value) (different : other ≠ key) :
    AList.lookup other (insertNew shards shard key value place) =
      AList.lookup other (shards place) := by
  rw [insertNew]
  by_cases here : place = shard
  · rw [here, Function.update_self, Table.lookup_insertNew_ne value different]
  · rw [Function.update_of_ne here]

theorem lookup_erase_ne (shards : Shards Shard Key Value) (shard place : Shard)
    {key other : Key} (different : other ≠ key) :
    AList.lookup other (erase shards shard key place) = AList.lookup other (shards place) := by
  rw [erase]
  by_cases here : place = shard
  · rw [here, Function.update_self, AList.lookup_erase_ne different]
  · rw [Function.update_of_ne here]

/-! Every lookup after an operation. -/

theorem lookup_insertNew_of_notMem {shards : Shards Shard Key Value} {shard : Shard} {key : Key}
    (value : Value) (absent : key ∉ shards shard) (place : Shard) (other : Key) :
    AList.lookup other (insertNew shards shard key value place) =
      if place = shard ∧ other = key then some value else AList.lookup other (shards place) := by
  by_cases isKey : other = key
  · subst isKey
    by_cases here : place = shard
    · subst here
      rw [insertNew, Function.update_self, Table.insertNew_of_notMem value absent,
        AList.lookup_insert, if_pos ⟨rfl, rfl⟩]
    · rw [insertNew, Function.update_of_ne here, if_neg fun both => here both.1]
  · rw [lookup_insertNew_ne shards shard place value isKey, if_neg fun both => isKey both.2]

theorem lookup_erase (shards : Shards Shard Key Value) (shard place : Shard) (key other : Key) :
    AList.lookup other (erase shards shard key place) =
      if place = shard ∧ other = key then none else AList.lookup other (shards place) := by
  by_cases isKey : other = key
  · subst isKey
    by_cases here : place = shard
    · subst here
      rw [erase, Function.update_self, AList.lookup_erase, if_pos ⟨rfl, rfl⟩]
    · rw [erase, Function.update_of_ne here, if_neg fun both => here both.1]
  · rw [lookup_erase_ne shards shard place isKey, if_neg fun both => isKey both.2]

end Operations

/-! ### The map the shards represent -/

section Represents

variable {Shard : Type u} {Key : Type v} {Value : Type w} [DecidableEq Shard] [DecidableEq Key]

/-- Each key is in its own shard, with the value the map gives it, and in no other. -/
def Represents (home : Key → Shard) (shards : Shards Shard Key Value) (map : Key → Option Value) :
    Prop :=
  ∀ shard key, AList.lookup key (shards shard) = if shard = home key then map key else none

variable {home : Key → Shard} {shards : Shards Shard Key Value} {map : Key → Option Value}

theorem Represents.empty : Represents home (fun _ => (∅ : Table Key Value)) fun _ => none := by
  intro shard key
  rw [AList.lookup_empty, ite_self]

/-- The shard of a key gives its value. -/
theorem Represents.lookup_home (represents : Represents home shards map) (key : Key) :
    AList.lookup key (shards (home key)) = map key := by
  rw [represents, if_pos rfl]

/-- An entry is in the shard of its key. -/
theorem Represents.lookup_eq_some_iff (represents : Represents home shards map) {shard : Shard}
    {key : Key} {value : Value} :
    AList.lookup key (shards shard) = some value ↔ shard = home key ∧ map key = some value := by
  rw [represents shard key]
  by_cases own : shard = home key
  · simp [own]
  · simp [own]

/-- **Insertion** into the shard of the key updates the map, when it does not exchange a value. -/
theorem Represents.insertNew (represents : Represents home shards map) {key : Key} {value : Value}
    (same : ∀ old, map key = some old → old = value) :
    Represents home (insertNew shards (home key) key value)
      (Function.update map key (some value)) := by
  intro shard other
  rw [ShardedMap.insertNew]
  by_cases atHome : shard = home key
  · subst atHome
    rw [Function.update_self]
    by_cases isKey : other = key
    · subst isKey
      rw [Function.update_self, if_pos rfl]
      exact Table.lookup_insertNew_self fun old found =>
        same old (by rw [← represents.lookup_home, found])
    · rw [Function.update_of_ne isKey, Table.lookup_insertNew_ne value isKey, represents]
  · rw [Function.update_of_ne atHome, represents]
    by_cases isKey : other = key
    · subst isKey
      rw [if_neg atHome, if_neg atHome]
    · rw [Function.update_of_ne isKey]

/-- **Erasing** a key in its shard erases it from the map. -/
theorem Represents.erase (represents : Represents home shards map) (key : Key) :
    Represents home (erase shards (home key) key) (Function.update map key none) := by
  intro shard other
  rw [ShardedMap.erase]
  by_cases atHome : shard = home key
  · subst atHome
    rw [Function.update_self]
    by_cases isKey : other = key
    · subst isKey
      rw [Function.update_self, AList.lookup_erase, ite_self]
    · rw [Function.update_of_ne isKey, AList.lookup_erase_ne isKey, represents]
  · rw [Function.update_of_ne atHome, represents]
    by_cases isKey : other = key
    · subst isKey
      rw [if_neg atHome, if_neg atHome]
    · rw [Function.update_of_ne isKey]

/-- **Clearing** a shard erases the keys that belong to it. -/
theorem Represents.clear (represents : Represents home shards map) (cleared : Shard) :
    Represents home (clear shards cleared) fun key => if home key = cleared then none else map key
    := by
  intro shard key
  rw [ShardedMap.clear]
  by_cases here : shard = cleared
  · subst here
    rw [Function.update_self, AList.lookup_empty]
    by_cases own : shard = home key
    · rw [if_pos own]
      exact (if_pos own.symm).symm
    · rw [if_neg own]
  · rw [Function.update_of_ne here, represents]
    by_cases own : shard = home key
    · rw [if_pos own, if_pos own]
      exact (if_neg fun equal => here (own.trans equal)).symm
    · rw [if_neg own, if_neg own]

end Represents

/-! ### A property of the entries -/

section Each

variable {Shard : Type u} {Key : Type v} {Value : Type w}

/-- Every entry of every shard has the property. -/
def Each (Holds : Shard → Key → Value → Prop) [DecidableEq Key] (shards : Shards Shard Key Value) :
    Prop :=
  ∀ shard key value, AList.lookup key (shards shard) = some value → Holds shard key value

variable {Holds : Shard → Key → Value → Prop} {shards : Shards Shard Key Value} [DecidableEq Key]

theorem Each.empty : Each Holds fun _ => (∅ : Table Key Value) := by
  intro shard key value found
  rw [AList.lookup_empty] at found
  cases found

variable [DecidableEq Shard]

/-- A key that is present keeps its value. -/
theorem Each.insertNew (each : Each Holds shards) {shard : Shard} {key : Key} {value : Value}
    (holds : Holds shard key value) : Each Holds (insertNew shards shard key value) := by
  by_cases present : key ∈ shards shard
  · rw [insertNew_of_mem value present]
    exact each
  · intro place other stored found
    rw [lookup_insertNew_of_notMem value present] at found
    split at found
    · rename_i here
      obtain ⟨rfl, rfl⟩ := here
      obtain rfl := Option.some.inj found
      exact holds
    · exact each place other stored found

theorem Each.erase (each : Each Holds shards) (shard : Shard) (key : Key) :
    Each Holds (erase shards shard key) := by
  intro place other stored found
  rw [lookup_erase] at found
  exact each place other stored (Option.ite_none_left_eq_some.mp found).2

theorem Each.clear (each : Each Holds shards) (shard : Shard) :
    Each Holds (clear shards shard) := by
  intro place other stored found
  by_cases here : place = shard
  · subst here
    rw [clear_self, AList.lookup_empty] at found
    cases found
  · rw [clear_of_ne shards here] at found
    exact each place other stored found

end Each

/-! ### Counting the entries -/

section Size

variable {Shard : Type u} {Key : Type v} {Value : Type w} [Fintype Shard]

/-- The number of entries of all shards. -/
def size (shards : Shards Shard Key Value) : ℕ := tally (fun table => table.keys.length) shards

@[simp] theorem size_empty : size (fun _ : Shard => (∅ : Table Key Value)) = 0 :=
  tally_eq_zero.mpr fun _ => rfl

variable [DecidableEq Shard]

/-- Clearing a shard leaves what the other shards hold. -/
theorem size_clear_eq_zero {shards : Shards Shard Key Value} {shard : Shard} :
    size (clear shards shard) = 0 ↔ ∀ other, other ≠ shard → (shards other).keys = [] := by
  rw [size, tally_eq_zero]
  constructor
  · intro empty other different
    have none := empty other
    rw [clear, Function.update_of_ne different] at none
    exact List.length_eq_zero_iff.mp none
  · intro empty other
    rw [clear]
    by_cases here : other = shard
    · rw [here, Function.update_self]
      rfl
    · rw [Function.update_of_ne here, empty other here]
      rfl

variable [DecidableEq Key]

/-- A new entry counts. -/
theorem size_insertNew_of_notMem {shards : Shards Shard Key Value} {shard : Shard} {key : Key}
    (value : Value) (absent : key ∉ shards shard) :
    size (insertNew shards shard key value) = size shards + 1 := by
  have exchange := tally_update (fun table : Table Key Value => table.keys.length) shards shard
    ((shards shard).insertNew key value)
  have longer : ((shards shard).insertNew key value).keys.length =
      (shards shard).keys.length + 1 := by
    rw [Table.insertNew_of_notMem value absent, AList.keys_insert, List.length_cons,
      List.erase_of_not_mem fun member => absent (AList.mem_keys.mpr member)]
  unfold size insertNew
  omega

/-- An entry that is erased counts no more. -/
theorem size_erase_of_mem {shards : Shards Shard Key Value} {shard : Shard} {key : Key}
    (present : key ∈ shards shard) : size (erase shards shard key) + 1 = size shards := by
  have exchange := tally_update (fun table : Table Key Value => table.keys.length) shards shard
    (AList.erase key (shards shard))
  have shorter : (AList.erase key (shards shard)).keys.length + 1 =
      (shards shard).keys.length := by
    rw [AList.keys_erase]
    exact List.length_erase_add_one (AList.mem_keys.mp present)
  unfold size erase
  omega

end Size

end ShardedMap

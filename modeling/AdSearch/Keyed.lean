/-!
# Keyed tables

A table is a list of entries in the order in which their keys first came.  Putting a value at a key
that is already there replaces the value and keeps the place.
-/

namespace AdSearch.Keyed

variable {α β : Type}

def get? (key : String) : List (String × α) → Option α
  | [] => none
  | (k, a) :: rest => if k = key then some a else get? key rest

/-- The table with a value at a key. -/
def put (key : String) (value : α) : List (String × α) → List (String × α)
  | [] => [(key, value)]
  | (k, a) :: rest => if k = key then (k, value) :: rest else (k, a) :: put key value rest

/-- The table of entries that come one after another, the later value at a key winning. -/
def ofEntries (entries : List (String × α)) : List (String × α) :=
  entries.foldl (fun table entry => put entry.1 entry.2 table) []

def keys (table : List (String × α)) : List String := table.map (·.1)

def values (table : List (String × α)) : List α := table.map (·.2)

theorem get?_put_self (key : String) (value : α) (table : List (String × α)) :
    get? key (put key value table) = some value := by
  induction table with
  | nil => simp [put, get?]
  | cons entry rest ih =>
    obtain ⟨k, a⟩ := entry
    by_cases h : k = key <;> simp [put, get?, h, ih]

theorem get?_put_of_ne {key other : String} (h : other ≠ key) (value : α)
    (table : List (String × α)) : get? other (put key value table) = get? other table := by
  induction table with
  | nil => simp [put, get?, Ne.symm h]
  | cons entry rest ih =>
    obtain ⟨k, a⟩ := entry
    by_cases hk : k = key
    · have : k ≠ other := fun he => h (he ▸ hk)
      simp [put, get?, hk, Ne.symm h]
    · by_cases ho : k = other <;> simp [put, get?, hk, ho, h, ih]

theorem put_eq_self {key : String} {value : α} {table : List (String × α)}
    (h : get? key table = some value) : put key value table = table := by
  induction table with
  | nil => simp [get?] at h
  | cons entry rest ih =>
    obtain ⟨k, a⟩ := entry
    by_cases hk : k = key
    · simp_all [get?, put]
    · rw [get?, if_neg hk] at h
      rw [put, if_neg hk, ih h]

theorem keys_put (key : String) (value : α) (table : List (String × α)) :
    keys (put key value table) = if key ∈ keys table then keys table else keys table ++ [key] := by
  induction table with
  | nil => simp [put, keys]
  | cons entry rest ih =>
    obtain ⟨k, a⟩ := entry
    by_cases hk : k = key
    · simp [put, keys, hk]
    · simp only [keys] at ih
      by_cases hm : key ∈ rest.map (·.1) <;> simp_all [put, keys, Ne.symm hk]

theorem nodup_keys_put {table : List (String × α)} (h : (keys table).Nodup) (key : String)
    (value : α) : (keys (put key value table)).Nodup := by
  rw [keys_put]
  split
  · exact h
  · rename_i hm
    exact List.nodup_append.mpr ⟨h, by simp, fun a ha b hb hab => hm (by simp_all)⟩

theorem nodup_keys_ofEntries (entries : List (String × α)) :
    (keys (ofEntries entries)).Nodup := by
  unfold ofEntries
  exact List.foldlRecOn (motive := fun table => (keys table).Nodup) entries _ (by simp [keys])
    fun _ h entry _ => nodup_keys_put h entry.1 entry.2

end AdSearch.Keyed

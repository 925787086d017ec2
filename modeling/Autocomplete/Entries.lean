namespace Autocomplete.Entries

variable {κ α : Type} [DecidableEq κ]

def find? (key : κ) : List (κ × α) → Option α
  | [] => none
  | (k, value) :: rest => if k = key then some value else find? key rest

/-- The entries with a value under a key, in the place of the old one or else at the end. -/
def insert (key : κ) (value : α) : List (κ × α) → List (κ × α)
  | [] => [(key, value)]
  | (k, v) :: rest => if k = key then (k, value) :: rest else (k, v) :: insert key value rest

def erase (key : κ) (entries : List (κ × α)) : List (κ × α) :=
  entries.filter fun entry => entry.1 ≠ key

theorem find?_insert (key key' : κ) (value : α) (entries : List (κ × α)) :
    find? key' (insert key value entries) =
      if key = key' then some value else find? key' entries := by
  induction entries with
  | nil => rfl
  | cons entry rest ih =>
    obtain ⟨k, v⟩ := entry
    by_cases hk : k = key <;> by_cases hk' : k = key' <;> by_cases h : key = key' <;>
      simp_all [insert, find?]

@[simp] theorem find?_insert_self (key : κ) (value : α) (entries : List (κ × α)) :
    find? key (insert key value entries) = some value := by
  rw [find?_insert, if_pos rfl]

theorem find?_insert_of_ne {key key' : κ} (h : key ≠ key') (value : α) (entries : List (κ × α)) :
    find? key' (insert key value entries) = find? key' entries := by
  rw [find?_insert, if_neg h]

end Autocomplete.Entries

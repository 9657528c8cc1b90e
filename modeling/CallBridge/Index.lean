/-!
Indexes: lists of keys with their values, read with `List.lookup`. Adding a key replaces the entry
it had, so each key occurs at most once.
-/

namespace CallBridge.Index

variable {κ ν : Type} [DecidableEq κ]

def erase (k : κ) (index : List (κ × ν)) : List (κ × ν) := index.filter (·.1 != k)

def put (k : κ) (v : ν) (index : List (κ × ν)) : List (κ × ν) := (k, v) :: erase k index

theorem lookup_cons (k j : κ) (v : ν) (index : List (κ × ν)) :
    ((k, v) :: index).lookup j = if j = k then some v else index.lookup j := by
  by_cases h : j = k
  · simp [h]
  · simp [List.lookup_cons, beq_eq_false_iff_ne.2 h, h]

theorem lookup_filter (p : κ → Bool) (j : κ) (index : List (κ × ν)) :
    (index.filter fun entry => p entry.1).lookup j = if p j then index.lookup j else none := by
  induction index with
  | nil => simp
  | cons entry rest ih =>
    obtain ⟨i, v⟩ := entry
    rw [List.filter_cons]
    by_cases hi : p i = true
    · rw [if_pos hi, lookup_cons, lookup_cons, ih]
      by_cases hj : j = i
      · simp [hj, hi]
      · simp [hj]
    · rw [if_neg hi, lookup_cons, ih]
      by_cases hj : j = i
      · simp [hj, hi]
      · simp [hj]

theorem lookup_map {ν' : Type} (f : κ → ν → ν') (j : κ) (index : List (κ × ν)) :
    (index.map fun (k, v) => (k, f k v)).lookup j = (index.lookup j).map (f j) := by
  induction index with
  | nil => rfl
  | cons entry rest ih =>
    obtain ⟨i, v⟩ := entry
    rw [List.map_cons, lookup_cons, lookup_cons, ih]
    by_cases hj : j = i
    · simp [hj]
    · simp [hj]

theorem lookup_erase (k j : κ) (index : List (κ × ν)) :
    (erase k index).lookup j = if j = k then none else index.lookup j := by
  rw [erase, lookup_filter (· != k)]
  by_cases h : j = k <;> simp [h]

theorem lookup_put (k j : κ) (v : ν) (index : List (κ × ν)) :
    (put k v index).lookup j = if j = k then some v else index.lookup j := by
  rw [put, lookup_cons, lookup_erase]
  by_cases h : j = k <;> simp [h]

/-- Erasing a key that does not occur changes nothing. -/
theorem erase_of_lookup {k : κ} {index : List (κ × ν)} (h : index.lookup k = none) :
    erase k index = index := by
  induction index with
  | nil => rfl
  | cons entry rest ih =>
    obtain ⟨i, v⟩ := entry
    rw [lookup_cons] at h
    by_cases hk : k = i
    · simp [hk] at h
    · rw [if_neg hk] at h
      have hrest := ih h
      unfold erase at hrest ⊢
      rw [List.filter_cons_of_pos (by simp [Ne.symm hk]), hrest]

/-- A key that is added and erased again leaves no trace. -/
theorem erase_put {k : κ} (v : ν) {index : List (κ × ν)} (h : index.lookup k = none) :
    erase k (put k v index) = index := by
  rw [put, erase_of_lookup h, erase, List.filter_cons_of_neg (by simp)]
  exact erase_of_lookup h

end CallBridge.Index

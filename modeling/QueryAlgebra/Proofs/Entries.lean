import QueryAlgebra.Entries
import QueryAlgebra.Json.Basic
import Mathlib.Data.List.Nodup

/-!
# Laws of entries

Setting a key changes the value of that key and nothing else: the other entries
keep their values and their order, and the key keeps its place, or gets the last one
if it is new.  The fields of an object follow the same laws.

Main results:

- Theorems `map_fst_set` and `filter_set`: what setting a key does to the keys and to
  the other entries.
- Theorems `get?_set_self` and `get?_set_of_ne`: what is found after a key was set.
- Theorem `get?_eq_some_iff`: what is found among entries with different keys.
- Theorem `ofList_of_nodup`: entries with different keys are kept as they are.
- Theorems `Json.setField_eq_set` and `Json.field?_eq_get?`: fields are entries.
- Theorems `Json.field?_setField_self` and `Json.field?_setField_of_ne`: what is found
  after a field was set.
-/

namespace QueryAlgebra
namespace Entries

variable {κ ν : Type}

/-- The key of an entry is not among those before it, if no two entries have the same key. -/
theorem not_mem_of_nodup {before after : List (κ × ν)} {entry : κ × ν}
    (hkeys : ((before ++ entry :: after).map Prod.fst).Nodup) :
    entry.1 ∉ before.map Prod.fst := by
  rw [List.map_append, List.map_cons] at hkeys
  exact fun hmem => (List.nodup_append.mp hkeys).2.2 _ hmem _ List.mem_cons_self rfl

variable [DecidableEq κ]

/-- A new key is set at the end. -/
theorem set_of_not_mem {key : κ} (value : ν) {entries : List (κ × ν)}
    (hkey : key ∉ entries.map Prod.fst) : set key value entries = entries ++ [(key, value)] := by
  induction entries with
  | nil => rfl
  | cons entry rest ih =>
      obtain ⟨k, v⟩ := entry
      simp only [List.map_cons, List.mem_cons, not_or] at hkey
      rw [set, if_neg (Ne.symm hkey.1), ih hkey.2, List.cons_append]

/-- Setting a key that is there keeps the keys. -/
theorem map_fst_set_of_mem {key : κ} (value : ν) {entries : List (κ × ν)}
    (hkey : key ∈ entries.map Prod.fst) :
    (set key value entries).map Prod.fst = entries.map Prod.fst := by
  induction entries with
  | nil => simp at hkey
  | cons entry rest ih =>
      obtain ⟨k, v⟩ := entry
      by_cases hk : k = key
      · simp [set, hk]
      · have hrest : key ∈ rest.map Prod.fst := by simpa [Ne.symm hk] using hkey
        rw [set, if_neg hk, List.map_cons, List.map_cons, ih hrest]

/-- Setting a key keeps the keys in their order and adds the key if it is new. -/
theorem map_fst_set (key : κ) (value : ν) (entries : List (κ × ν)) :
    (set key value entries).map Prod.fst =
      if key ∈ entries.map Prod.fst then entries.map Prod.fst
      else entries.map Prod.fst ++ [key] := by
  split
  · next hkey => exact map_fst_set_of_mem value hkey
  · next hkey => rw [set_of_not_mem value hkey, List.map_append, List.map_singleton]

/-- Setting a key repeats none. -/
theorem nodup_set {entries : List (κ × ν)} (hkeys : (entries.map Prod.fst).Nodup) (key : κ)
    (value : ν) : ((set key value entries).map Prod.fst).Nodup := by
  rw [map_fst_set]
  split
  · exact hkeys
  · next hkey =>
    rw [← List.concat_eq_append]
    exact hkeys.concat hkey

/-- Setting a key changes no other entry. -/
theorem filter_set (p : κ → Bool) {key : κ} (hkey : p key = false) (value : ν)
    (entries : List (κ × ν)) :
    (set key value entries).filter (fun entry => p entry.1) =
      entries.filter fun entry => p entry.1 := by
  induction entries with
  | nil => simp [set, hkey]
  | cons entry rest ih =>
      obtain ⟨k, v⟩ := entry
      by_cases hk : k = key
      · subst hk
        simp [set, hkey]
      · simp [set, hk, List.filter_cons, ih]

/-- A key that was set has the value it was set to. -/
@[simp] theorem get?_set_self (key : κ) (value : ν) (entries : List (κ × ν)) :
    get? key (set key value entries) = some value := by
  induction entries with
  | nil => simp [set, get?]
  | cons entry rest ih =>
      obtain ⟨k, v⟩ := entry
      by_cases hk : k = key <;> simp [set, get?, hk, ih]

/-- Setting a key leaves the values of the others. -/
theorem get?_set_of_ne {key other : κ} (hne : other ≠ key) (value : ν)
    (entries : List (κ × ν)) : get? other (set key value entries) = get? other entries := by
  induction entries with
  | nil => simp [set, get?, Ne.symm hne]
  | cons entry rest ih =>
      obtain ⟨k, v⟩ := entry
      by_cases hk : k = key
      · subst hk
        simp [set, get?, Ne.symm hne]
      · rw [set, if_neg hk, get?, get?, ih]

/-- A value that is found is there under its key. -/
theorem mem_of_get? {key : κ} {value : ν} {entries : List (κ × ν)}
    (hfound : get? key entries = some value) : (key, value) ∈ entries := by
  induction entries with
  | nil => simp [get?] at hfound
  | cons entry rest ih =>
      obtain ⟨k, v⟩ := entry
      by_cases hk : k = key
      · simp_all [get?]
      · rw [get?, if_neg hk] at hfound
        exact List.mem_cons_of_mem _ (ih hfound)

/-- The keys of entries that are all different find their own values. -/
theorem get?_eq_some_iff {entries : List (κ × ν)} (hkeys : (entries.map Prod.fst).Nodup)
    {key : κ} {value : ν} : get? key entries = some value ↔ (key, value) ∈ entries := by
  refine ⟨mem_of_get?, fun hmem => ?_⟩
  induction entries with
  | nil => exact absurd hmem List.not_mem_nil
  | cons entry rest ih =>
      obtain ⟨k, v⟩ := entry
      rw [List.map_cons, List.nodup_cons] at hkeys
      rcases List.mem_cons.mp hmem with hfirst | hrest
      · cases hfirst
        simp [get?]
      · have hne : k ≠ key := by
          rintro rfl
          exact hkeys.1 (List.mem_map.mpr ⟨_, hrest, rfl⟩)
        rw [get?, if_neg hne, ih hkeys.2 hrest]

/-- Setting a key adds no other entry. -/
theorem mem_of_mem_set {key : κ} {value : ν} {entries : List (κ × ν)} {entry : κ × ν}
    (hentry : entry ∈ set key value entries) : entry = (key, value) ∨ entry ∈ entries := by
  induction entries with
  | nil => exact Or.inl (List.mem_singleton.mp hentry)
  | cons first rest ih =>
      obtain ⟨k, v⟩ := first
      by_cases hk : k = key
      · rw [set, if_pos hk, hk] at hentry
        rcases List.mem_cons.mp hentry with hnew | hrest
        · exact Or.inl hnew
        · exact Or.inr (List.mem_cons_of_mem _ hrest)
      · rw [set, if_neg hk] at hentry
        rcases List.mem_cons.mp hentry with rfl | hrest
        · exact Or.inr List.mem_cons_self
        · exact (ih hrest).imp_right (List.mem_cons_of_mem _)

/-- Every entry was given. -/
theorem mem_of_mem_foldl_set {given entries : List (κ × ν)} {entry : κ × ν}
    (hentry : entry ∈ given.foldl (fun entries entry => set entry.1 entry.2 entries) entries) :
    entry ∈ entries ∨ entry ∈ given := by
  induction given generalizing entries with
  | nil => exact Or.inl hentry
  | cons first rest ih =>
      rcases ih hentry with hset | hrest
      · rcases mem_of_mem_set hset with rfl | hentries
        · exact Or.inr List.mem_cons_self
        · exact Or.inl hentries
      · exact Or.inr (List.mem_cons_of_mem _ hrest)

/-- Entries are not made up. -/
theorem mem_of_mem_ofList {given : List (κ × ν)} {entry : κ × ν}
    (hentry : entry ∈ ofList given) : entry ∈ given := by
  rcases mem_of_mem_foldl_set hentry with hnone | hgiven
  · exact absurd hnone List.not_mem_nil
  · exact hgiven

/-- Setting keys that are all different adds the entries at the end. -/
theorem foldl_set_of_nodup {before after : List (κ × ν)}
    (hkeys : ((before ++ after).map Prod.fst).Nodup) :
    after.foldl (fun entries entry => set entry.1 entry.2 entries) before = before ++ after := by
  induction after generalizing before with
  | nil => simp
  | cons entry rest ih =>
      rw [List.foldl_cons, set_of_not_mem entry.2 (not_mem_of_nodup hkeys),
        ih (by simpa using hkeys)]
      simp

/-- Entries of which no two have the same key are kept as they are. -/
theorem ofList_of_nodup {given : List (κ × ν)} (hkeys : (given.map Prod.fst).Nodup) :
    ofList given = given :=
  foldl_set_of_nodup hkeys

end Entries

namespace Json

/-- Setting a field of an object is setting an entry. -/
theorem setField_eq_set (key : String) (value : Json) (fields : List (String × Json)) :
    setField key value fields = Entries.set key value fields := by
  induction fields with
  | nil => rfl
  | cons field rest ih => rw [setField, Entries.set, ih]

/-- Finding a field of an object is finding an entry. -/
theorem field?_eq_get? (key : String) (fields : List (String × Json)) :
    field? key fields = Entries.get? key fields := by
  induction fields with
  | nil => rfl
  | cons field rest ih => rw [field?, Entries.get?, ih]

/-- A field that was set has the value it was set to. -/
@[simp] theorem field?_setField_self (key : String) (value : Json)
    (fields : List (String × Json)) : field? key (setField key value fields) = some value := by
  rw [setField_eq_set, field?_eq_get?, Entries.get?_set_self]

/-- Setting a field leaves the others. -/
theorem field?_setField_of_ne {key other : String} (hne : other ≠ key) (value : Json)
    (fields : List (String × Json)) :
    field? other (setField key value fields) = field? other fields := by
  rw [setField_eq_set, field?_eq_get?, field?_eq_get?, Entries.get?_set_of_ne hne]

end Json
end QueryAlgebra

import ViewAtlas.Text.Basic
/-!
# Tables

A table maps texts to values and keeps its keys in the order in which they were first set.  Setting a key again
replaces its value at its place.
-/
namespace ViewAtlas

/-- **A table**: its entries, in order. -/
abbrev Table (α : Type) := List (Text × α)

namespace Table

variable {α : Type}

def set (key : Text) (value : α) : Table α → Table α
  | [] => [(key, value)]
  | (k, v) :: rest => if k = key then (key, value) :: rest else (k, v) :: set key value rest

def get? (key : Text) : Table α → Option α
  | [] => none
  | (k, v) :: rest => if k = key then some v else get? key rest

/-- The table with the entries of another set in order. -/
def merge (t : Table α) (entries : List (Text × α)) : Table α := entries.foldl (fun t e => t.set e.1 e.2) t

/-- The table that the entries make when they are set in order. -/
def ofList (entries : List (Text × α)) : Table α := merge [] entries

def keys (t : Table α) : List Text := t.map (·.1)

def hasKey (t : Table α) (key : Text) : Bool := (t.get? key).isSome

theorem get?_set (t : Table α) (key key' : Text) (value : α) :
    (t.set key value).get? key' = if key = key' then some value else t.get? key' := by
  induction t with
  | nil => simp [set, get?]
  | cons e t ih =>
    obtain ⟨k, v⟩ := e
    by_cases hk : k = key
    · subst hk
      by_cases h : k = key' <;> simp [set, get?, h]
    · by_cases h : k = key'
      · subst h
        simp [set, get?, hk, Ne.symm hk]
      · simp [set, get?, hk, h, ih]

theorem keys_set (t : Table α) (key : Text) (value : α) :
    (t.set key value).keys = if key ∈ t.keys then t.keys else t.keys ++ [key] := by
  induction t with
  | nil => simp [set, keys]
  | cons e t ih =>
    obtain ⟨k, v⟩ := e
    by_cases hk : k = key
    · subst hk
      simp [set, keys]
    · have hk' : key ≠ k := Ne.symm hk
      simp only [keys] at ih
      by_cases hm : key ∈ t.map (·.1) <;> simp_all [set, keys]

theorem mem_set {t : Table α} {key : Text} {value : α} {e : Text × α} (h : e ∈ t.set key value) :
    e = (key, value) ∨ e ∈ t := by
  induction t with
  | nil => simpa [set] using h
  | cons d t ih =>
    obtain ⟨k, v⟩ := d
    by_cases hk : k = key
    · simp only [set, hk, if_true, List.mem_cons] at h ⊢
      rcases h with h | h
      · exact .inl h
      · exact .inr (.inr h)
    · simp only [set, hk, if_false, List.mem_cons] at h ⊢
      rcases h with h | h
      · exact .inr (.inl h)
      · rcases ih h with h | h
        · exact .inl h
        · exact .inr (.inr h)

theorem mem_merge {entries : List (Text × α)} :
    ∀ {t : Table α} {e : Text × α}, e ∈ merge t entries → e ∈ t ∨ e ∈ entries := by
  induction entries with
  | nil => exact fun h => .inl h
  | cons d entries ih =>
    intro t e h
    rcases ih (t := t.set d.1 d.2) h with h | h
    · rcases mem_set h with h | h
      · exact .inr (List.mem_cons.2 (.inl h))
      · exact .inl h
    · exact .inr (List.mem_cons_of_mem _ h)

theorem mem_of_mem_ofList {entries : List (Text × α)} {e : Text × α} (h : e ∈ ofList entries) : e ∈ entries := by
  rcases mem_merge h with h | h
  · simp at h
  · exact h

theorem mem_of_get? {t : Table α} {key : Text} {value : α} (h : t.get? key = some value) : (key, value) ∈ t := by
  induction t with
  | nil => simp [get?] at h
  | cons d t ih =>
    obtain ⟨k, v⟩ := d
    by_cases hk : k = key
    · simp only [get?, hk, if_true, Option.some.injEq] at h
      simp [hk, h]
    · simp only [get?, hk, if_false] at h
      exact List.mem_cons_of_mem _ (ih h)

theorem get?_of_mem : ∀ {t : Table α} {key : Text} {value : α}, t.keys.Nodup → (key, value) ∈ t →
    t.get? key = some value
  | (k, v) :: t, key, value, hnodup, hmem => by
    rw [keys, List.map_cons, List.nodup_cons] at hnodup
    rcases List.mem_cons.1 hmem with heq | hmem
    · cases heq
      rw [get?, if_pos rfl]
    · have hne : k ≠ key := fun h => hnodup.1 (List.mem_map.2 ⟨(key, value), hmem, h.symm⟩)
      rw [get?, if_neg hne, get?_of_mem hnodup.2 hmem]

theorem get?_eq_none_iff {t : Table α} {key : Text} : t.get? key = none ↔ key ∉ t.keys := by
  induction t with
  | nil => simp [get?, keys]
  | cons e t ih =>
    obtain ⟨k, v⟩ := e
    by_cases hk : k = key
    · simp [get?, keys, hk]
    · have hk' : key ≠ k := Ne.symm hk
      simp only [keys] at ih
      simp [get?, keys, hk, hk', ih]

theorem set_of_notMem {key : Text} {value : α} : ∀ {t : Table α}, key ∉ t.keys → t.set key value = t ++ [(key, value)]
  | [], _ => rfl
  | (k, v) :: t, h => by
    rw [keys, List.map_cons, List.mem_cons, not_or] at h
    rw [set, if_neg (Ne.symm h.1), set_of_notMem h.2, List.cons_append]

theorem merge_of_nodup : ∀ {entries : List (Text × α)} {t : Table α}, (t.keys ++ entries.map (·.1)).Nodup →
    merge t entries = t ++ entries
  | [], t, _ => (List.append_nil t).symm
  | e :: entries, t, h => by
    have hnew : e.1 ∉ t.keys := fun hmem => (List.nodup_append.1 h).2.2 e.1 hmem e.1 (List.mem_cons_self ..) rfl
    have hrest : ((t.set e.1 e.2).keys ++ entries.map (·.1)).Nodup := by
      rw [keys_set, if_neg hnew, List.append_assoc]
      exact h
    change merge (t.set e.1 e.2) entries = _
    rw [merge_of_nodup hrest, set_of_notMem hnew, List.append_assoc, List.singleton_append]

theorem ofList_of_nodup {entries : List (Text × α)} (h : (entries.map (·.1)).Nodup) : ofList entries = entries :=
  merge_of_nodup h

end Table
end ViewAtlas

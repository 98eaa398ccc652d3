import Mathlib.Data.String.Basic
import Mathlib.Tactic.Common

/-!
# Attribute maps

The `Map<String, String>` of the attributes of a queue: its entries, no key twice.  A map
is compared entry by entry with `carries`; what it says of a key is `get`, and every
operation has its equation for `get`.
-/

set_option autoImplicit false

namespace GradleLocalstack.Model

/-- A `Map` of queue attributes: no key occurs twice. -/
structure AttributeMap where
  entries : List (String × String)
  nodup_keys : (entries.map Prod.fst).Nodup
  deriving DecidableEq

namespace AttributeMap

/-- `new HashMap<>()`. -/
def empty : AttributeMap := ⟨[], List.nodup_nil⟩

/-- `Map.isEmpty`. -/
def isEmpty (m : AttributeMap) : Bool := m.entries.isEmpty

/-- A map that is empty is the empty map. -/
theorem eq_empty_of_isEmpty {m : AttributeMap} (h : m.isEmpty = true) : m = empty := by
  obtain ⟨entries, hnodup⟩ := m
  have hnil : entries = [] := List.isEmpty_iff.mp h
  subst hnil
  rfl

/-- The map has every entry of `m'`. -/
def carries (m m' : AttributeMap) : Bool := m'.entries.all m.entries.contains

/-- `Map.get`. -/
def get (m : AttributeMap) (key : String) : Option String := m.entries.lookup key

/-- The entries with the value of one key set. -/
def putEntry (key value : String) : List (String × String) → List (String × String)
  | [] => [(key, value)]
  | e :: entries =>
    if e.1 = key then (key, value) :: entries else e :: putEntry key value entries

/-- The keys after an entry is put: those before, and its own. -/
theorem mem_keys_putEntry {key value k : String} {entries : List (String × String)} :
    k ∈ (putEntry key value entries).map Prod.fst ↔ k = key ∨ k ∈ entries.map Prod.fst := by
  induction entries with
  | nil => simp [putEntry]
  | cons e entries ih =>
    unfold putEntry
    by_cases h : e.1 = key
    · rw [if_pos h]
      simp [h]
    · rw [if_neg h, List.map_cons, List.mem_cons, ih, List.map_cons, List.mem_cons]
      exact or_left_comm

/-- Putting an entry repeats no key. -/
theorem nodup_keys_putEntry {key value : String} {entries : List (String × String)}
    (h : (entries.map Prod.fst).Nodup) : ((putEntry key value entries).map Prod.fst).Nodup := by
  induction entries with
  | nil => simp [putEntry]
  | cons e entries ih =>
    obtain ⟨hnot, hnodup⟩ := List.nodup_cons.mp h
    unfold putEntry
    by_cases heq : e.1 = key
    · rw [if_pos heq]
      exact List.nodup_cons.mpr ⟨heq ▸ hnot, hnodup⟩
    · rw [if_neg heq]
      refine List.nodup_cons.mpr ⟨?_, ih hnodup⟩
      intro hmem
      cases mem_keys_putEntry.mp hmem with
      | inl hkey => exact heq hkey
      | inr hold => exact hnot hold

/-- `Map.put`. -/
def put (m : AttributeMap) (key value : String) : AttributeMap :=
  ⟨putEntry key value m.entries, nodup_keys_putEntry m.nodup_keys⟩

/-- `Map.putAll`. -/
def putAll (m m' : AttributeMap) : AttributeMap :=
  m'.entries.foldl (fun acc e => acc.put e.1 e.2) m

/-! ## What the operations do to the entries -/

variable {m m' : AttributeMap} {key value k v : String} {entries : List (String × String)}

/-- The first entry is found under its key. -/
theorem lookup_of_eq {e : String × String} (h : k = e.1) :
    (e :: entries).lookup k = some e.2 := by
  have hbeq : (k == e.1) = true := by simpa using h
  rw [List.lookup_cons, hbeq]

/-- The first entry is passed over under another key. -/
theorem lookup_of_ne {e : String × String} (h : k ≠ e.1) :
    (e :: entries).lookup k = entries.lookup k := by
  have hbeq : (k == e.1) = false := by simpa using h
  rw [List.lookup_cons, hbeq]

/-- Nothing is found under a key that no entry has. -/
theorem lookup_eq_none (h : k ∉ entries.map Prod.fst) : entries.lookup k = none := by
  rw [List.lookup_eq_none_iff]
  intro e he
  simpa using fun heq : k = e.1 => h (heq ▸ List.mem_map_of_mem he)

/-- What is found after an entry is put: its value under its key, and under another what was
found before. -/
theorem lookup_putEntry :
    (putEntry key value entries).lookup k =
      if k = key then some value else entries.lookup k := by
  induction entries with
  | nil =>
    by_cases h : k = key
    · rw [if_pos h]
      exact lookup_of_eq h
    · rw [if_neg h]
      exact lookup_of_ne (e := (key, value)) h
  | cons e entries ih =>
    unfold putEntry
    by_cases he : e.1 = key
    · rw [if_pos he]
      by_cases h : k = key
      · rw [if_pos h]
        exact lookup_of_eq h
      · have hne : k ≠ e.1 := he ▸ h
        rw [if_neg h, lookup_of_ne hne]
        exact lookup_of_ne (e := (key, value)) h
    · rw [if_neg he]
      by_cases h : k = e.1
      · have hne : k ≠ key := h ▸ he
        rw [if_neg hne, lookup_of_eq h, lookup_of_eq h]
      · rw [lookup_of_ne h, lookup_of_ne h, ih]

/-- What a map with one more entry has. -/
theorem get_put : (m.put key value).get k = if k = key then some value else m.get k :=
  lookup_putEntry

/-- What a map has after many puts is what was put, or what it had. -/
theorem get_foldl_put (hnodup : (entries.map Prod.fst).Nodup) :
    (entries.foldl (fun acc e => acc.put e.1 e.2) m).get k = (entries.lookup k).or (m.get k) := by
  induction entries generalizing m with
  | nil => rfl
  | cons e entries ih =>
    obtain ⟨hnot, hnodup⟩ := List.nodup_cons.mp hnodup
    rw [List.foldl_cons, ih hnodup, get_put]
    by_cases h : k = e.1
    · rw [if_pos h, lookup_of_eq h, lookup_eq_none (h ▸ hnot)]
      rfl
    · rw [if_neg h, lookup_of_ne h]

/-- What is found after a map is put into another: what it holds, or else what was there. -/
theorem get_putAll : (m.putAll m').get k = (m'.get k).or (m.get k) :=
  get_foldl_put m'.nodup_keys

/-- An entry is in the list exactly if its value is found under its key, each key occurring
once. -/
theorem mem_iff_lookup (hnodup : (entries.map Prod.fst).Nodup) :
    (k, v) ∈ entries ↔ entries.lookup k = some v := by
  induction entries with
  | nil => simp
  | cons e entries ih =>
    obtain ⟨hnot, hnodup⟩ := List.nodup_cons.mp hnodup
    by_cases h : k = e.1
    · rw [lookup_of_eq h, List.mem_cons, ih hnodup, lookup_eq_none (h ▸ hnot), Option.some.injEq]
      constructor
      · rintro (rfl | hrest)
        · rfl
        · cases hrest
      · intro hv
        exact .inl (Prod.ext h hv.symm)
    · rw [lookup_of_ne h, List.mem_cons, ih hnodup]
      constructor
      · rintro (rfl | hrest)
        · exact absurd rfl h
        · exact hrest
      · exact .inr

/-- A map carries another if it has every value of it. -/
theorem carries_iff : m.carries m' = true ↔ ∀ k v, m'.get k = some v → m.get k = some v := by
  unfold carries
  simp only [List.all_eq_true, List.contains_iff_mem]
  constructor
  · intro h k v hv
    exact (mem_iff_lookup m.nodup_keys).mp (h (k, v) ((mem_iff_lookup m'.nodup_keys).mpr hv))
  · intro h e he
    exact (mem_iff_lookup m.nodup_keys).mpr (h e.1 e.2 ((mem_iff_lookup m'.nodup_keys).mp he))

/-- A map carries itself. -/
theorem carries_self : m.carries m = true :=
  carries_iff.mpr fun _ _ hv => hv

/-- Putting an entry that is there changes nothing. -/
theorem putEntry_eq_self (h : entries.lookup key = some value) :
    putEntry key value entries = entries := by
  induction entries with
  | nil => cases h
  | cons e entries ih =>
    unfold putEntry
    by_cases he : e.1 = key
    · rw [lookup_of_eq he.symm, Option.some.injEq] at h
      rw [if_pos he, ← he, ← h]
    · rw [lookup_of_ne (Ne.symm he)] at h
      rw [if_neg he, ih h]

/-- Of two entries put under one key, the later counts. -/
theorem putEntry_putEntry (value' : String) :
    putEntry key value (putEntry key value' entries) = putEntry key value entries := by
  induction entries with
  | nil => exact if_pos rfl
  | cons e entries ih =>
    by_cases he : e.1 = key
    · have hfirst : ∀ v, putEntry key v (e :: entries) = (key, v) :: entries :=
        fun v => if_pos he
      rw [hfirst, hfirst]
      exact if_pos rfl
    · rw [putEntry, if_neg he, putEntry, if_neg he, putEntry, if_neg he, ih]

/-- Only the last value put under a key counts. -/
theorem put_put (value' : String) : (m.put key value').put key value = m.put key value := by
  simp only [put, putEntry_putEntry]

/-- Putting a value that is there changes nothing. -/
theorem put_eq_self (h : m.get key = some value) : m.put key value = m := by
  obtain ⟨entries, hnodup⟩ := m
  simp only [put, putEntry_eq_self h]

/-- Putting into a map what it carries changes nothing. -/
theorem putAll_eq_self (h : m.carries m' = true) : m.putAll m' = m := by
  have hmem : ∀ e ∈ m'.entries, m.get e.1 = some e.2 := fun e he =>
    carries_iff.mp h e.1 e.2 ((mem_iff_lookup m'.nodup_keys).mp he)
  unfold putAll
  generalize m'.entries = entries at hmem
  induction entries with
  | nil => rfl
  | cons e entries ih =>
    rw [List.foldl_cons, put_eq_self (hmem e List.mem_cons_self)]
    exact ih fun e' he' => hmem e' (List.mem_cons_of_mem e he')

/-- A map into which another is put carries that one. -/
theorem carries_putAll : (m.putAll m').carries m' = true := by
  rw [carries_iff]
  intro k v hv
  rw [get_putAll, hv]
  rfl

end AttributeMap

end GradleLocalstack.Model

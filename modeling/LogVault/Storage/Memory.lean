import LogVault.Storage.Backend

/-!
# LogVault.Storage.Memory — blobs in memory

The blobs of one process, as a table from storage keys to octets in which no key stands twice. The
last blob put under a key is the one that is got (`get?_insert`).
-/

namespace LogVault

/-- **Blobs in memory**, each key at most once. -/
structure Blobs where
  entries : List (StorageKey × Bytes)
  nodup : (entries.map (·.1)).Nodup
  deriving DecidableEq

namespace Blobs

/-- No blobs. -/
def empty : Blobs := ⟨[], List.nodup_nil⟩

instance : Inhabited Blobs := ⟨empty⟩

/-! ## Entries -/

/-- The blob of the entry of a key. -/
def findEntry (key : StorageKey) : List (StorageKey × Bytes) → Option Bytes
  | [] => none
  | e :: rest => if key = e.1 then some e.2 else findEntry key rest

/-- Entries with a blob under a key, in place of the one that was there. -/
def insertEntry (key : StorageKey) (data : Bytes) : List (StorageKey × Bytes) →
    List (StorageKey × Bytes)
  | [] => [(key, data)]
  | e :: rest => if key = e.1 then (key, data) :: rest else e :: insertEntry key data rest

theorem findEntry_insertEntry (key other : StorageKey) (data : Bytes)
    (l : List (StorageKey × Bytes)) :
    findEntry other (insertEntry key data l) =
      if other = key then some data else findEntry other l := by
  induction l with
  | nil => simp [insertEntry, findEntry]
  | cons e rest ih =>
    by_cases hk : key = e.1
    · by_cases h : other = key <;> simp [insertEntry, findEntry, ← hk, h]
    · by_cases h : other = e.1
      · have h' : ¬ e.1 = key := fun h' => hk h'.symm
        simp [insertEntry, findEntry, hk, h, h']
      · simp [insertEntry, findEntry, hk, h, ih]

theorem mem_keys_insertEntry (key other : StorageKey) (data : Bytes)
    (l : List (StorageKey × Bytes)) :
    other ∈ (insertEntry key data l).map (·.1) ↔ other = key ∨ other ∈ l.map (·.1) := by
  induction l with
  | nil => simp [insertEntry]
  | cons e rest ih =>
    by_cases hk : key = e.1
    · simp [insertEntry, hk]
    · simp only [insertEntry, hk, if_false, List.map_cons, List.mem_cons, ih]
      exact or_left_comm

theorem nodup_keys_insertEntry (key : StorageKey) (data : Bytes) {l : List (StorageKey × Bytes)}
    (h : (l.map (·.1)).Nodup) : ((insertEntry key data l).map (·.1)).Nodup := by
  induction l with
  | nil => simp [insertEntry]
  | cons e rest ih =>
    rw [List.map_cons, List.nodup_cons] at h
    by_cases hk : key = e.1
    · simp only [insertEntry, hk, if_true, List.map_cons, List.nodup_cons]
      exact h
    · simp only [insertEntry, hk, if_false, List.map_cons, List.nodup_cons,
        mem_keys_insertEntry, not_or]
      exact ⟨⟨fun h' => hk h'.symm, h.1⟩, ih h.2⟩

/-! ## Operations -/

/-- The blob under a key. -/
def get? (b : Blobs) (key : StorageKey) : Option Bytes := findEntry key b.entries

/-- The blobs with one put under a key. -/
def insert (b : Blobs) (key : StorageKey) (data : Bytes) : Blobs :=
  ⟨insertEntry key data b.entries, nodup_keys_insertEntry key data b.nodup⟩

/-- How many blobs there are. -/
def size (b : Blobs) : Nat := b.entries.length

/-- The last blob put under a key is the one that is got. -/
theorem get?_insert (b : Blobs) (key other : StorageKey) (data : Bytes) :
    (b.insert key data).get? other = if other = key then some data else b.get? other :=
  findEntry_insertEntry key other data b.entries

/-- **The backend in memory.** -/
def backend : Backend Blobs where
  name := "memory"
  put key data := fun b => ⟨.ok (), b.insert key data, []⟩
  get key := fun b =>
    match b.get? key with
    | some data => ⟨.ok data, b, []⟩
    | none => ⟨.error (Backend.missing key), b, []⟩

end Blobs

end LogVault

import GuiguBridge.Lib.Table
import Mathlib.Data.List.Dedup
import Mathlib.Data.List.MinMax
import Mathlib.Data.List.Perm.Subperm

/-!
# Maps that forget their oldest entry

A map with a ceiling numbers its entries by a wrapping counter; when it is full, the entry with
the least number makes room.

* `Table.put`, `Table.remove` — a table as a hash map;
* `AgedMap.remember` — insert, after the oldest entry made room;
* `remember_len` — **the ceiling is never passed**;
* `remember_displaced` — what is displaced had the least number of a full map;
* `displaced_others` — as long as no older entry has a larger number, **an entry is displaced only
  after the map has filled up with later ones**.
-/

namespace Relational

namespace Table

variable {κ α : Type} {key : α → κ} [DecidableEq κ]

/-- `HashMap::remove`. -/
def remove (t : Table key) (k : κ) : Table key := t.deleteWhere fun r => decide (key r = k)

theorem mem_remove {t : Table key} {k : κ} {r : α} :
    r ∈ (t.remove k).rows ↔ r ∈ t.rows ∧ key r ≠ k := by
  unfold remove
  rw [mem_deleteWhere]
  simp

theorem get_remove_self (t : Table key) (k : κ) : (t.remove k).get k = none := by
  rw [get_eq_none_iff]
  intro r hr
  exact (mem_remove.1 hr).2

theorem get_remove_of_ne (t : Table key) {k k' : κ} (h : k' ≠ k) :
    (t.remove k).get k' = t.get k' := by
  refine Option.ext ?_
  intro r
  rw [get_eq_some_iff, get_eq_some_iff, mem_remove]
  constructor
  · rintro ⟨⟨hr, -⟩, hkey⟩
    exact ⟨hr, hkey⟩
  · rintro ⟨hr, hkey⟩
    exact ⟨⟨hr, fun heq => h (hkey.symm.trans heq)⟩, hkey⟩

/-- A row whose key is free in the table is put in front of it. -/
theorem nodup_put (t : Table key) (r : α) :
    ((r :: (t.remove (key r)).rows).map key).Nodup := by
  rw [List.map_cons, List.nodup_cons]
  refine ⟨?_, (t.remove (key r)).nodup⟩
  intro hmem
  obtain ⟨r', hr', hkey⟩ := List.mem_map.mp hmem
  exact (mem_remove.1 hr').2 hkey

/-- `HashMap::insert`. -/
def put (t : Table key) (r : α) : Table key := ⟨r :: (t.remove (key r)).rows, t.nodup_put r⟩

theorem mem_put {t : Table key} {r r' : α} :
    r' ∈ (t.put r).rows ↔ r' = r ∨ (r' ∈ t.rows ∧ key r' ≠ key r) := by
  show r' ∈ r :: (t.remove (key r)).rows ↔ _
  rw [List.mem_cons, mem_remove]

theorem get_put_self (t : Table key) (r : α) : (t.put r).get (key r) = some r := by
  rw [get_eq_some_iff, mem_put]
  exact ⟨Or.inl rfl, rfl⟩

theorem get_put_of_ne (t : Table key) {r : α} {k : κ} (h : k ≠ key r) :
    (t.put r).get k = t.get k := by
  refine Option.ext ?_
  intro r'
  rw [get_eq_some_iff, get_eq_some_iff, mem_put]
  constructor
  · rintro ⟨rfl | ⟨hr', -⟩, hkey⟩
    · exact absurd hkey.symm h
    · exact ⟨hr', hkey⟩
  · rintro ⟨hr', hkey⟩
    exact ⟨Or.inr ⟨hr', fun heq => h (hkey.symm.trans heq)⟩, hkey⟩

theorem length_remove_le (t : Table key) (k : κ) :
    (t.remove k).rows.length ≤ t.rows.length := by
  show (t.rows.filter _).length ≤ t.rows.length
  exact List.length_filter_le _ _

theorem length_remove_lt {t : Table key} {r : α} (h : r ∈ t.rows) :
    (t.remove (key r)).rows.length < t.rows.length := by
  show (t.rows.filter _).length < t.rows.length
  refine List.length_filter_lt_length_iff_exists.mpr ⟨r, h, ?_⟩
  simp

/-- At most one row goes. -/
theorem length_le_remove (t : Table key) (k : κ) :
    t.rows.length ≤ (t.remove k).rows.length + 1 := by
  have hle : t.rows.countP (fun r => decide (key r = k)) ≤ 1 :=
    affected_le_one (t := t) fun r hr => of_decide_eq_true hr
  have hsplit := List.length_eq_length_filter_add (l := t.rows) fun r => decide (key r = k)
  rw [List.countP_eq_length_filter] at hle
  show t.rows.length ≤ (t.rows.filter fun r => ! decide (key r = k)).length + 1
  omega

/-- A key that is free keeps every row. -/
theorem remove_of_get_none {t : Table key} {k : κ} (h : t.get k = none) : t.remove k = t := by
  apply ext_rows
  show t.rows.filter _ = t.rows
  rw [List.filter_eq_self]
  intro r hr
  have hne : key r ≠ k := (get_eq_none_iff t k).mp h r hr
  simpa using hne

theorem length_put_of_get_none {t : Table key} {r : α} (h : t.get (key r) = none) :
    (t.put r).rows.length = t.rows.length + 1 := by
  show (r :: (t.remove (key r)).rows).length = _
  rw [remove_of_get_none h, List.length_cons]

theorem length_put_le (t : Table key) (r : α) :
    (t.put r).rows.length ≤ t.rows.length + 1 := by
  show (r :: (t.remove (key r)).rows).length ≤ _
  rw [List.length_cons]
  exact Nat.succ_le_succ (t.length_remove_le (key r))

end Table

/-- An entry and its number. -/
structure Aged (κ β : Type) where
  key : κ
  value : β
  seq : UInt64
  deriving DecidableEq

/-- The number of an entry. -/
def Aged.number {κ β : Type} (e : Aged κ β) : Nat := e.seq.toNat

/-- A map whose entries are numbered by a wrapping counter. -/
structure AgedMap (κ β : Type) where
  table : Table (Aged.key (κ := κ) (β := β))
  next : UInt64

namespace AgedMap

variable {κ β : Type}

def empty : AgedMap κ β := ⟨Table.empty, 0⟩

/-- The entry with the least number. -/
def oldest (m : AgedMap κ β) : Option (Aged κ β) := m.table.rows.argmin Aged.number

variable [DecidableEq κ]

def get (m : AgedMap κ β) (k : κ) : Option (Aged κ β) := m.table.get k

def remove (m : AgedMap κ β) (k : κ) : AgedMap κ β := { m with table := m.table.remove k }

/-- The entry with the least number is dropped. -/
def displaceOldest (m : AgedMap κ β) : AgedMap κ β :=
  match m.oldest with
  | none => m
  | some e => m.remove e.key

/-- Room for one more entry under the ceiling. -/
def makeRoom (cap : Nat) (m : AgedMap κ β) : AgedMap κ β :=
  if cap ≤ m.table.rows.length then m.displaceOldest else m

/-- Insert under the next number. -/
def remember (cap : Nat) (k : κ) (v : β) (m : AgedMap κ β) : AgedMap κ β :=
  { table := (m.makeRoom cap).table.put ⟨k, v, m.next⟩, next := m.next + 1 }

variable {cap : Nat} {k : κ} {v : β} {m : AgedMap κ β}

theorem mem_makeRoom {e : Aged κ β} (h : e ∈ (m.makeRoom cap).table.rows) : e ∈ m.table.rows := by
  unfold makeRoom displaceOldest at h
  split at h
  · split at h
    · exact h
    · exact (Table.mem_remove.1 h).1
  · exact h

/-- What makes room is the entry with the least number of a full map. -/
theorem makeRoom_displaced {e : Aged κ β} (he : e ∈ m.table.rows)
    (h : e ∉ (m.makeRoom cap).table.rows) :
    cap ≤ m.table.rows.length ∧ ∀ e' ∈ m.table.rows, e.number ≤ e'.number := by
  unfold makeRoom displaceOldest at h
  split at h
  · rename_i hfull
    refine ⟨hfull, ?_⟩
    split at h
    · exact absurd he h
    · rename_i old hold
      have hold' : old ∈ m.table.rows := List.argmin_mem hold
      have hsame : e = old := by
        by_contra hne
        exact h (Table.mem_remove.2
          ⟨he, fun hkey => hne (m.table.eq_of_key_eq he hold' hkey)⟩)
      rw [hsame]
      intro e' he'
      exact List.le_of_mem_argmin he' hold
  · exact absurd he h

theorem makeRoom_len (hcap : 0 < cap) (h : m.table.rows.length ≤ cap) :
    (m.makeRoom cap).table.rows.length < cap := by
  unfold makeRoom displaceOldest
  split
  · rename_i hfull
    cases hold : m.oldest with
    | none =>
      have hnil : m.table.rows = [] := List.argmin_eq_none.mp hold
      rw [hnil, List.length_nil] at hfull
      omega
    | some old =>
      have hlt := Table.length_remove_lt (List.argmin_mem hold : old ∈ m.table.rows)
      show (m.table.remove old.key).rows.length < cap
      omega
  · omega

/-- **The ceiling is never passed.** -/
theorem remember_len (hcap : 0 < cap) (h : m.table.rows.length ≤ cap) :
    (m.remember cap k v).table.rows.length ≤ cap := by
  have hroom := makeRoom_len hcap h
  have hput := (m.makeRoom cap).table.length_put_le ⟨k, v, m.next⟩
  show ((m.makeRoom cap).table.put ⟨k, v, m.next⟩).rows.length ≤ cap
  omega

theorem mem_remember {e : Aged κ β} (h : e ∈ (m.remember cap k v).table.rows) :
    e = ⟨k, v, m.next⟩ ∨ (e ∈ m.table.rows ∧ e.key ≠ k) := by
  rcases Table.mem_put.1 h with hnew | ⟨hold, hkey⟩
  · exact Or.inl hnew
  · exact Or.inr ⟨mem_makeRoom hold, hkey⟩

theorem remember_self : ⟨k, v, m.next⟩ ∈ (m.remember cap k v).table.rows :=
  Table.mem_put.2 (Or.inl rfl)

theorem get_remember {u : κ} {e : Aged κ β} (h : (m.remember cap k v).get u = some e) :
    (u = k ∧ e = ⟨k, v, m.next⟩) ∨ (u ≠ k ∧ m.get u = some e) := by
  have hkey : e.key = u := Table.key_of_get h
  rcases mem_remember (Table.mem_of_get h) with hnew | ⟨hold, hne⟩
  · rw [hnew] at hkey
    exact Or.inl ⟨hkey.symm, hnew⟩
  · rw [hkey] at hne
    exact Or.inr ⟨hne, (Table.get_eq_some_iff _ _ _).mpr ⟨hold, hkey⟩⟩

theorem get_remember_none {u : κ} (hne : u ≠ k) (h : m.get u = none) :
    (m.remember cap k v).get u = none := by
  by_contra hsome
  obtain ⟨e, he⟩ := Option.ne_none_iff_exists'.mp hsome
  rcases get_remember he with ⟨heq, -⟩ | ⟨-, hold⟩
  · exact hne heq
  · rw [h] at hold
    cases hold

theorem get_remove_self (m : AgedMap κ β) (k : κ) : (m.remove k).get k = none :=
  m.table.get_remove_self k

theorem get_remove_of_ne (m : AgedMap κ β) {u k : κ} (h : u ≠ k) :
    (m.remove k).get u = m.get u := m.table.get_remove_of_ne h

/-- The oldest entry of a full map goes. -/
theorem get_remember_oldest {e : Aged κ β} (hfull : cap ≤ m.table.rows.length)
    (hold : m.oldest = some e) (hne : e.key ≠ k) :
    (m.remember cap k v).get e.key = none := by
  have hroom : m.makeRoom cap = m.remove e.key := by
    unfold makeRoom displaceOldest
    rw [if_pos hfull, hold]
  show ((m.makeRoom cap).table.put ⟨k, v, m.next⟩).get e.key = none
  rw [hroom]
  exact (Table.get_put_of_ne _ (r := ⟨k, v, m.next⟩) hne).trans (m.get_remove_self e.key)

/-- What is displaced had the least number of a full map. -/
theorem remember_displaced {e : Aged κ β} (he : e ∈ m.table.rows) (hkey : e.key ≠ k)
    (h : e ∉ (m.remember cap k v).table.rows) :
    cap ≤ m.table.rows.length ∧ ∀ e' ∈ m.table.rows, e.number ≤ e'.number := by
  refine makeRoom_displaced he (?_ : e ∉ (m.makeRoom cap).table.rows)
  intro hroom
  exact h (Table.mem_put.2 (Or.inr ⟨hroom, hkey⟩))

/-- **An entry is displaced only after the map has filled up with later ones**: `later` has all
the keys whose entries do not have a smaller number. -/
theorem displaced_others {e : Aged κ β} {later : List κ} (he : e ∈ m.table.rows)
    (hkey : e.key ≠ k) (hfree : m.get k = none) (h : e ∉ (m.remember cap k v).table.rows)
    (hlater : ∀ e' ∈ m.table.rows, e'.key ≠ e.key →
      e'.number < e.number ∨ e'.key ∈ later) (hnew : k ∈ later) :
    cap ≤ later.dedup.length := by
  obtain ⟨hfull, hleast⟩ := remember_displaced he hkey h
  have hsub : k :: ((m.table.remove e.key).rows.map Aged.key) ⊆ later.dedup := by
    intro x hx
    rw [List.mem_dedup]
    rcases List.mem_cons.mp hx with rfl | hx
    · exact hnew
    · obtain ⟨e', he', rfl⟩ := List.mem_map.mp hx
      obtain ⟨he', hne⟩ := Table.mem_remove.1 he'
      rcases hlater e' he' hne with hlt | hmem
      · exact absurd (hleast e' he') (Nat.not_le.mpr hlt)
      · exact hmem
  have hnodup : (k :: ((m.table.remove e.key).rows.map Aged.key)).Nodup := by
    rw [List.nodup_cons]
    refine ⟨?_, (m.table.remove e.key).nodup⟩
    intro hmem
    obtain ⟨e', he', hk⟩ := List.mem_map.mp hmem
    exact (Table.get_eq_none_iff m.table k).mp hfree e' (Table.mem_remove.1 he').1 hk
  have hlen := (List.subperm_of_subset hnodup hsub).length_le
  have hone := m.table.length_le_remove e.key
  rw [List.length_cons, List.length_map] at hlen
  omega

end AgedMap

end Relational

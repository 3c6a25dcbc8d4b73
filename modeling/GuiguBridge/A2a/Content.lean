import GuiguBridge.A2a.Ingress
import GuiguBridge.Reference

/-!
# The content of the exchanges

The messages and artifacts of an exchange are counted in its `content_bytes`, and the cleanup of
a finished exchange removes them.

* `ownedBytes` — the bytes of the parts of what an exchange owns, and what an insert
  (`ownedBytes_insert`) or a delete (`ownedBytes_delete`) does to them;
* `ContentInv` — **an exchange that is cleaned has no content, and one that is not counts what
  is stored**;
* `ContentRely` — what no step does to the exchange of a send that is under way;
* `RegularRun` — nothing is stored for an exchange that is cleaned, and no copy of a send stores
  the message while another one is between its reservation and its look at it;
* `content_accounting` — the invariant in every state of every regular run;
  `concurrent_copies_undercount` — two copies of a send that are not regular.
-/

namespace GuiguBridge

open Relational Interleave

namespace A2a

/-! ### The bytes of what an exchange owns -/

section

variable {α : Type} {key : α → Uuid}

/-- The bytes of the parts of the rows that belong to an exchange. -/
def ownedBytes (owners : Table key) (exchangeOf : α → Uuid) (parts : Table PartRow.key)
    (exchange_id : Uuid) : Nat :=
  owners.sumWhere (fun o => decide (exchangeOf o = exchange_id))
    fun o => Tables.partBytes parts (key o)

/-- Every part has its owner. -/
def Owned (owners : Table key) (parts : Table PartRow.key) : Prop :=
  ∀ p ∈ parts.rows, ∃ o ∈ owners.rows, key o = p.owner_id

/-- The parts of one owner have grown by `n` bytes. -/
structure PartsAdded (parts parts' : Table PartRow.key) (owner_id : Uuid) (n : Nat) : Prop where
  bytes : ∀ o, Tables.partBytes parts' o =
    Tables.partBytes parts o + if o = owner_id then n else 0
  rows : ∀ p ∈ parts'.rows, p ∈ parts.rows ∨ p.owner_id = owner_id

theorem PartsAdded.refl (parts : Table PartRow.key) (owner_id : Uuid) :
    PartsAdded parts parts owner_id 0 := by
  refine ⟨?_, fun p hp => Or.inl hp⟩
  intro o
  split <;> omega

theorem PartsAdded.trans {parts parts' parts'' : Table PartRow.key} {owner_id : Uuid} {m n : Nat}
    (h : PartsAdded parts parts' owner_id m) (h' : PartsAdded parts' parts'' owner_id n) :
    PartsAdded parts parts'' owner_id (m + n) := by
  refine ⟨?_, ?_⟩
  · intro o
    rw [h'.bytes, h.bytes]
    by_cases ho : o = owner_id
    · simp only [if_pos ho]
      omega
    · simp only [if_neg ho]
  · intro p hp
    rcases h'.rows p hp with hp | hp
    · exact h.rows p hp
    · exact Or.inr hp

theorem partBytes_insert {parts parts' : Table PartRow.key} {row : PartRow}
    (h : parts.insert row = some parts') : PartsAdded parts parts' row.owner_id row.bytes := by
  refine ⟨?_, ?_⟩
  · intro o
    unfold Tables.partBytes Table.sumWhere
    rw [Table.total_insert h]
    by_cases ho : o = row.owner_id
    · simp [ho]
    · have hne : row.owner_id ≠ o := fun he => ho he.symm
      simp [ho, hne]
  · intro p hp
    rcases (Table.mem_insert h).mp hp with hp | rfl
    · exact Or.inl hp
    · exact Or.inr rfl

/-- An owner that is not there owns nothing. -/
theorem partBytes_eq_zero {owners : Table key} {parts : Table PartRow.key}
    (howned : Owned owners parts) {owner_id : Uuid} (h : owners.get owner_id = none) :
    Tables.partBytes parts owner_id = 0 := by
  have hzero : ∀ p ∈ parts.rows,
      (if decide (p.owner_id = owner_id) then p.bytes else 0) = 0 := by
    intro p hp
    have hne : p.owner_id ≠ owner_id := by
      rintro rfl
      obtain ⟨o, ho, hkey⟩ := howned p hp
      exact (Table.get_eq_none_iff owners _).mp h o ho hkey
    simp [hne]
  unfold Tables.partBytes Table.sumWhere
  rw [Table.total_congr hzero]
  simp [Table.total]

/-- **A new owner with its parts.** -/
theorem ownedBytes_insert {owners owners' : Table key} {exchangeOf : α → Uuid}
    {parts parts' : Table PartRow.key} {row : α} {n : Nat} (h : owners.insert row = some owners')
    (howned : Owned owners parts) (hparts : PartsAdded parts parts' (key row) n)
    (exchange_id : Uuid) :
    ownedBytes owners' exchangeOf parts' exchange_id =
      ownedBytes owners exchangeOf parts exchange_id +
        if exchangeOf row = exchange_id then n else 0 := by
  have hfree := ((Table.insert_eq_some_iff owners owners' row).mp h).1
  have hnew : Tables.partBytes parts' (key row) = n := by
    rw [hparts.bytes, partBytes_eq_zero howned hfree]
    simp
  have hold : ∀ o ∈ owners.rows, Tables.partBytes parts' (key o) =
      Tables.partBytes parts (key o) := by
    intro o ho
    have hne : key o ≠ key row := (Table.get_eq_none_iff owners _).mp hfree o ho
    rw [hparts.bytes, if_neg hne, Nat.add_zero]
  unfold ownedBytes Table.sumWhere
  rw [Table.total_insert h]
  congr 1
  · refine Table.total_congr ?_
    intro o ho
    dsimp only
    rw [hold o ho]
  · dsimp only
    rw [hnew]
    simp

theorem Owned.insert {owners owners' : Table key} {parts parts' : Table PartRow.key} {row : α}
    {n : Nat} (howned : Owned owners parts) (h : owners.insert row = some owners')
    (hparts : PartsAdded parts parts' (key row) n) : Owned owners' parts' := by
  intro p hp
  rcases hparts.rows p hp with hold | hnew
  · obtain ⟨o, ho, hkey⟩ := howned p hold
    exact ⟨o, (Table.mem_insert h).mpr (Or.inl ho), hkey⟩
  · exact ⟨row, (Table.mem_insert h).mpr (Or.inr rfl), hnew.symm⟩

/-- Only the rows of an exchange count for it. -/
theorem ownedBytes_eq_zero {owners : Table key} {exchangeOf : α → Uuid}
    {parts : Table PartRow.key} {exchange_id : Uuid}
    (h : ∀ o ∈ owners.rows, exchangeOf o ≠ exchange_id) :
    ownedBytes owners exchangeOf parts exchange_id = 0 := by
  have hzero : ∀ o ∈ owners.rows, (if decide (exchangeOf o = exchange_id) then
      Tables.partBytes parts (key o) else 0) = 0 := by
    intro o ho
    simp [h o ho]
  unfold ownedBytes Table.sumWhere
  rw [Table.total_congr hzero]
  simp [Table.total]

/-- The parts of the rows of an exchange. -/
def partsOf (owners : Table key) (exchangeOf : α → Uuid) (exchange_id : Uuid)
    (p : PartRow) : Bool :=
  owners.rows.any fun o => decide (exchangeOf o = exchange_id ∧ key o = p.owner_id)

/-- **The rows of an exchange go, with their parts**: the others keep theirs. -/
theorem ownedBytes_delete {owners : Table key} {exchangeOf : α → Uuid}
    {parts : Table PartRow.key} {exchange_id other : Uuid} (hne : other ≠ exchange_id) :
    ownedBytes (owners.deleteWhere fun o => decide (exchangeOf o = exchange_id)) exchangeOf
        (parts.deleteWhere (partsOf owners exchangeOf exchange_id)) other =
      ownedBytes owners exchangeOf parts other := by
  have hparts : ∀ o ∈ owners.rows, exchangeOf o ≠ exchange_id →
      Tables.partBytes (parts.deleteWhere (partsOf owners exchangeOf exchange_id)) (key o) =
        Tables.partBytes parts (key o) := by
    intro o ho hother
    unfold Tables.partBytes Table.sumWhere
    have hbalance := parts.total_deleteWhere (partsOf owners exchangeOf exchange_id)
      fun p => if decide (p.owner_id = key o) then p.bytes else 0
    have hzero : parts.sumWhere (partsOf owners exchangeOf exchange_id)
        (fun p => if decide (p.owner_id = key o) then p.bytes else 0) = 0 := by
      refine Table.sumWhere_eq_zero ?_
      intro p hp
      obtain ⟨o', ho', hp⟩ := List.any_eq_true.mp hp
      obtain ⟨hex, hkey⟩ := of_decide_eq_true hp
      have hneq : p.owner_id ≠ key o := by
        intro heq
        obtain rfl := owners.eq_of_key_eq ho' ho (hkey.trans heq)
        exact hother hex
      simp [hneq]
    dsimp only
    omega
  have hbalance := owners.total_deleteWhere (fun o => decide (exchangeOf o = exchange_id))
    fun o => if decide (exchangeOf o = other) then Tables.partBytes parts (key o) else 0
  have hzero : owners.sumWhere (fun o => decide (exchangeOf o = exchange_id))
      (fun o => if decide (exchangeOf o = other) then Tables.partBytes parts (key o) else 0)
        = 0 := by
    refine Table.sumWhere_eq_zero ?_
    intro o ho
    have hother : exchangeOf o ≠ other := by
      rw [of_decide_eq_true ho]
      exact hne.symm
    simp [hother]
  have hcongr : (owners.deleteWhere fun o => decide (exchangeOf o = exchange_id)).total
        (fun o => if decide (exchangeOf o = other) then Tables.partBytes
          (parts.deleteWhere (partsOf owners exchangeOf exchange_id)) (key o) else 0) =
      (owners.deleteWhere fun o => decide (exchangeOf o = exchange_id)).total
        (fun o => if decide (exchangeOf o = other) then Tables.partBytes parts (key o) else 0) := by
    refine Table.total_congr ?_
    intro o ho
    obtain ⟨ho, hkept⟩ := Table.mem_deleteWhere.1 ho
    rw [hparts o ho (of_decide_eq_false hkept)]
  unfold ownedBytes Table.sumWhere
  dsimp only
  omega

theorem Owned.delete {owners : Table key} {exchangeOf : α → Uuid} {parts : Table PartRow.key}
    (howned : Owned owners parts) (exchange_id : Uuid) :
    Owned (owners.deleteWhere fun o => decide (exchangeOf o = exchange_id))
      (parts.deleteWhere (partsOf owners exchangeOf exchange_id)) := by
  intro p hp
  obtain ⟨hp, hkept⟩ := Table.mem_deleteWhere.1 hp
  obtain ⟨o, ho, hkey⟩ := howned p hp
  refine ⟨o, Table.mem_deleteWhere.2 ⟨ho, decide_eq_false ?_⟩, hkey⟩
  intro hex
  have hsel : partsOf owners exchangeOf exchange_id p = true :=
    List.any_eq_true.mpr ⟨o, ho, decide_eq_true ⟨hex, hkey⟩⟩
  rw [hsel] at hkept
  cases hkept

end

/-! ### What the calls store -/

section

variable [Externals]

theorem encode_bytes {part : Part} {encoded : Encoded} (h : encode part = .ok encoded)
    (owner_id : Uuid) (ordinal : Nat) :
    (encoded.row owner_id ordinal).bytes = encoded.bytes := by
  cases part with
  | text text =>
    cases h
    rfl
  | data data =>
    cases h
    rfl
  | fileInline mime_type data =>
    by_cases hlarge : 262144 < data.utf8ByteSize
    · simp only [encode, hlarge, if_true] at h
      cases h
    · simp only [encode, hlarge, if_false] at h
      cases h
      rfl
  | fileUri uri => cases h

/-- A loop over parts adds what it counts. -/
theorem insertParts_ok {parts : Lens Tables (Table PartRow.key)}
    (hget : ∀ t s, parts.get (parts.set t s) = t)
    (hset : ∀ t u s, parts.set t (parts.set u s) = parts.set t s)
    (hself : ∀ s, parts.set (parts.get s) s = s) {owner_id : Uuid} {list : List Part}
    {ordinal total total' : Nat} {s s' : Tables}
    (h : insertParts parts owner_id list ordinal total s = .ok (total', s')) :
    ∃ t n, s' = parts.set t s ∧ total' = total + n ∧
      PartsAdded (parts.get s) t owner_id n := by
  induction list generalizing ordinal total s with
  | nil =>
    obtain ⟨rfl, rfl⟩ := Tx.pure_ok.1 h
    exact ⟨parts.get s, 0, (hself s).symm, rfl, .refl _ _⟩
  | cons part rest ih =>
    simp only [insertParts, Tx.bind_ok, Tx.ofExcept_ok, Tx.require_ok, Tx.insert_ok] at h
    obtain ⟨encoded, _, ⟨hencode, rfl⟩, _, _, ⟨-, rfl⟩, _, _, ⟨t, ht, rfl⟩, hrest⟩ := h
    obtain ⟨t', n, hs', htotal, hadded⟩ := ih hrest
    rw [hset] at hs'
    rw [hget] at hadded
    have hbytes := encode_bytes hencode owner_id ordinal
    have hone : PartsAdded (parts.get s) t owner_id encoded.bytes := by
      rw [← hbytes]
      exact partBytes_insert ht
    exact ⟨t', encoded.bytes + n, hs', by omega, hone.trans hadded⟩

omit [Externals] in
theorem insertMessage_ok {row : MessageRow} {s s' : Tables} {u : Unit}
    (h : insertMessage row s = .ok (u, s')) :
    ∃ t, s.messages.insert row = some t ∧ s' = { s with messages := t } ∧
      ∀ m ∈ s.messages.rows, m.exchange_id = row.exchange_id → m.ordinal ≠ row.ordinal := by
  simp only [insertMessage, Tx.bind_ok, Tx.read_ok, Tx.require_ok, Tx.insert_ok] at h
  obtain ⟨_, _, ⟨rfl, rfl⟩, _, _, ⟨htaken, rfl⟩, t, ht, rfl⟩ := h
  refine ⟨t, ht, rfl, ?_⟩
  intro m hm hex hord
  have hany : (s.messages.rows.any fun m => decide (m.exchange_id = row.exchange_id ∧
      (m.external_message_id = row.external_message_id ∨ m.ordinal = row.ordinal))) = true :=
    List.any_eq_true.mpr ⟨m, hm, decide_eq_true ⟨hex, Or.inr hord⟩⟩
  rw [hany] at htaken
  cases htaken

omit [Externals] in
theorem insertArtifact_ok {row : ArtifactRow} {s s' : Tables} {u : Unit}
    (h : insertArtifact row s = .ok (u, s')) :
    ∃ t, s.artifacts.insert row = some t ∧ s' = { s with artifacts := t } := by
  simp only [insertArtifact, Tx.bind_ok, Tx.read_ok, Tx.require_ok, Tx.insert_ok] at h
  obtain ⟨_, _, ⟨rfl, rfl⟩, _, _, ⟨-, rfl⟩, t, ht, rfl⟩ := h
  exact ⟨t, ht, rfl⟩

/-- The update of the exchange in `insertContent`. -/
def ExchangeRow.counted (total : Nat) (now : DateTime) (e : ExchangeRow) : ExchangeRow :=
  { e with content_bytes := total, updated_at := Externals.toRfc3339 now }

/-- A message that `store_message` inserts, with its parts. -/
structure MessageStored (exchange_id : Uuid) (total : Nat) (s s' : Tables) : Prop where
  free : ∀ m ∈ s.messages.rows, m.exchange_id = exchange_id → m.ordinal ≠ 0
  inserted : ∃ row t parts, row.exchange_id = exchange_id ∧ row.ordinal = 0 ∧
    s.messages.insert row = some t ∧ PartsAdded s.messageParts parts row.message_id total ∧
    ∃ now, s' = { s with
      messages := t
      messageParts := parts
      exchanges := s.exchanges.updateWhere
        (fun e => decide (e.exchange_id = exchange_id ∧ e.state = .reserved))
        (ExchangeRow.counted total now) }

theorem insertContent_ok {exchange_id : Uuid} {message : Message} {stored_id : Uuid}
    {now : DateTime} {s s' : Tables} {total : Nat}
    (h : insertContent exchange_id message stored_id now s = .ok (total, s')) :
    MessageStored exchange_id total s s' := by
  simp only [insertContent, Tx.bind_ok, Tx.update_ok, Tx.pure_ok] at h
  obtain ⟨_, s₁, hmessage, total, s₂, hparts, _, _, ⟨-, rfl⟩, rfl, rfl⟩ := h
  obtain ⟨t, ht, rfl, hfree⟩ := insertMessage_ok hmessage
  obtain ⟨parts, n, rfl, htotal, hadded⟩ :=
    insertParts_ok (fun _ _ => rfl) (fun _ _ _ => rfl) (fun _ => rfl) hparts
  rw [Nat.zero_add] at htotal
  subst htotal
  exact ⟨hfree, _, t, parts, rfl, rfl, ht, hadded, now, rfl⟩

/-- `store_message` finds the message, fails, or stores it. -/
theorem storeMessage_cases {exchange_id : Uuid} {message : Message} {stored_id : Uuid}
    {now : DateTime} {s s' : Tables} {r : Except A2aError Nat}
    (h : storeMessage exchange_id message stored_id now s = (r, s')) :
    (s' = s ∧ ∃ e, r = .error e) ∨
    (s' = s ∧ messageMatchesOn exchange_id message s = .ok true ∧
      ∃ row, s.exchanges.get exchange_id = some row ∧ r = .ok row.content_bytes) ∨
    (∃ total, r = .ok total ∧ MessageStored exchange_id total s s') := by
  by_cases hmany : 64 < message.parts.length
  · simp only [storeMessage, hmany, if_true] at h
    cases h
    exact Or.inl ⟨rfl, _, rfl⟩
  · simp only [storeMessage, hmany, if_false] at h
    rcases Tx.commit_cases h with hok | ⟨rfl, e, -, rfl⟩
    · simp only [Tx.bind_ok, Tx.read_ok, Tx.ofExcept_ok, Tx.ite_ok, Tx.orElse_ok,
        Tx.pure_ok] at hok
      obtain ⟨_, _, ⟨rfl, rfl⟩, found, _, ⟨hfound, rfl⟩, hcase⟩ := hok
      rcases hcase with ⟨htrue, _, _, ⟨rfl, rfl⟩, row, _, ⟨hrow, rfl⟩, rfl, rfl⟩ |
        ⟨-, total, s₁, hcontent, rfl, rfl⟩
      · subst htrue
        exact Or.inr (Or.inl ⟨rfl, hfound, row, hrow, rfl⟩)
      · exact Or.inr (Or.inr ⟨total, rfl, insertContent_ok hcontent⟩)
    · exact Or.inl ⟨rfl, e, rfl⟩

/-- Artifacts that `store_artifacts` inserts, with their parts. -/
structure ArtifactsAdded (exchange_id : Uuid) (n : Nat) (s s' : Tables) : Prop where
  frame : ∃ t parts, s' = { s with artifacts := t, artifactParts := parts }
  bytes : ∀ other, s'.artifactBytes other =
    s.artifactBytes other + if exchange_id = other then n else 0
  owned : Owned s'.artifacts s'.artifactParts
  rows : ∀ a ∈ s'.artifacts.rows, a ∈ s.artifacts.rows ∨ a.exchange_id = exchange_id

theorem insertArtifacts_ok {exchange_id : Uuid} {newId : Nat → Uuid} {list : List Artifact}
    {ordinal total total' : Nat} {s s' : Tables} (howned : Owned s.artifacts s.artifactParts)
    (h : insertArtifacts exchange_id newId list ordinal total s = .ok (total', s')) :
    ∃ n, total' = total + n ∧ ArtifactsAdded exchange_id n s s' := by
  induction list generalizing ordinal total s with
  | nil =>
    obtain ⟨rfl, rfl⟩ := Tx.pure_ok.1 h
    refine ⟨0, rfl, ⟨_, _, rfl⟩, ?_, howned, fun a ha => Or.inl ha⟩
    intro other
    split <;> rfl
  | cons artifact rest ih =>
    simp only [insertArtifacts, Tx.bind_ok, Tx.require_ok] at h
    obtain ⟨_, _, ⟨-, rfl⟩, _, s₁, hartifact, total₁, s₂, hparts, hrest⟩ := h
    obtain ⟨t, ht, rfl⟩ := insertArtifact_ok hartifact
    obtain ⟨parts, n, rfl, rfl, hadded⟩ :=
      insertParts_ok (fun _ _ => rfl) (fun _ _ _ => rfl) (fun _ => rfl) hparts
    have hadded : PartsAdded s.artifactParts parts (newId ordinal) n := hadded
    have howned₁ : Owned t parts := howned.insert ht hadded
    obtain ⟨m, htotal, hframe, hbytes, howned', hrows⟩ := ih howned₁ hrest
    refine ⟨n + m, by omega, ?_, ?_, howned', ?_⟩
    · obtain ⟨t', parts', rfl⟩ := hframe
      exact ⟨t', parts', rfl⟩
    · intro other
      have hone : ownedBytes t ArtifactRow.exchange_id parts other =
          s.artifactBytes other + if exchange_id = other then n else 0 :=
        ownedBytes_insert ht howned hadded other
      have hrest := hbytes other
      have hmid : Tables.artifactBytes { s with artifacts := t, artifactParts := parts } other =
          ownedBytes t ArtifactRow.exchange_id parts other := rfl
      rw [hrest]
      split at hone
      · rename_i heq
        rw [if_pos heq, if_pos heq]
        have : Tables.artifactBytes { s with artifacts := t, artifactParts := parts } other =
          s.artifactBytes other + n := hmid.trans hone
        show Tables.artifactBytes { s with artifacts := t, artifactParts := parts } other + m =
          s.artifactBytes other + (n + m)
        omega
      · rename_i hne
        rw [if_neg hne, if_neg hne]
        exact hmid.trans hone
    · intro a ha
      rcases hrows a ha with hmid | hex
      · rcases (Table.mem_insert ht).mp hmid with hold | rfl
        · exact Or.inl hold
        · exact Or.inr rfl
      · exact Or.inr hex

/-- The update of the exchange in `store_artifacts`. -/
def ExchangeRow.recounted (n : Nat) (now : DateTime) (e : ExchangeRow) : ExchangeRow :=
  { e with content_bytes := e.content_bytes + n, updated_at := Externals.toRfc3339 now }

/-- `store_artifacts` fails, or stores the artifacts and counts them. -/
theorem storeArtifacts_cases (exchange_id : Uuid) (list : List Artifact) (newId : Nat → Uuid)
    (now : DateTime) {s : Tables} (howned : Owned s.artifacts s.artifactParts) :
    (storeArtifacts exchange_id list newId now s).2 = s ∨
    ∃ n s₁, ArtifactsAdded exchange_id n s s₁ ∧
      (storeArtifacts exchange_id list newId now s).2 = s₁.updateExchanges
        (fun e => decide (e.exchange_id = exchange_id))
        (ExchangeRow.recounted n now) (fun _ => rfl) := by
  obtain ⟨⟨r, s'⟩, hcall⟩ : ∃ result, storeArtifacts exchange_id list newId now s = result :=
    ⟨_, rfl⟩
  rw [hcall]
  by_cases hmany : 16 < list.length
  · simp only [storeArtifacts, hmany, if_true] at hcall
    cases hcall
    exact Or.inl rfl
  · simp only [storeArtifacts, hmany, if_false] at hcall
    rcases Tx.commit_cases hcall with hok | ⟨rfl, -⟩
    · simp only [Tx.bind_ok, Tx.update_ok, Tx.pure_ok] at hok
      obtain ⟨total, s₁, hinsert, _, _, ⟨-, rfl⟩, -, rfl⟩ := hok
      obtain ⟨n, htotal, hadded⟩ := insertArtifacts_ok howned hinsert
      rw [Nat.zero_add] at htotal
      subst htotal
      exact Or.inr ⟨total, s₁, hadded, rfl⟩
    · exact Or.inl rfl

end

/-! ### The invariant -/

def Tables.hasMessage (s : Tables) (exchange_id : Uuid) : Prop :=
  ∃ m ∈ s.messages.rows, m.exchange_id = exchange_id

def Tables.hasArtifact (s : Tables) (exchange_id : Uuid) : Prop :=
  ∃ a ∈ s.artifacts.rows, a.exchange_id = exchange_id

/-- **The content of the exchanges.**  Messages belong to inbound exchanges, artifacts to outbound
ones; an inbound exchange that left `reserved` has its message until it is cleaned. -/
structure ContentInv (s : Tables) : Prop where
  messageOwned : Owned s.messages s.messageParts
  artifactOwned : Owned s.artifacts s.artifactParts
  messageInbound : ∀ m ∈ s.messages.rows, m.ordinal = 0 ∧
    ∃ e ∈ s.exchanges.rows, e.exchange_id = m.exchange_id ∧ e.direction = .inbound
  artifactOutbound : ∀ a ∈ s.artifacts.rows,
    ∃ e ∈ s.exchanges.rows, e.exchange_id = a.exchange_id ∧ e.direction = .outbound
  cleaned : ∀ e ∈ s.exchanges.rows, e.cleanup_state = .cleaned →
    ¬ s.hasMessage e.exchange_id ∧ ¬ s.hasArtifact e.exchange_id
  counted : ∀ e ∈ s.exchanges.rows, e.cleanup_state ≠ .cleaned →
    e.content_bytes = s.storedBytes e.exchange_id
  opened : ∀ e ∈ s.exchanges.rows, e.direction = .inbound → e.state = .reserved →
    e.internal_task_id = none ∧ e.terminal_at = none
  claimed : ∀ e ∈ s.exchanges.rows, e.cleanup_state ≠ .pending → e.terminal_at ≠ none
  bound : ∀ e ∈ s.exchanges.rows, e.direction = .inbound → e.state ≠ .reserved →
    e.cleanup_state ≠ .cleaned → s.hasMessage e.exchange_id

/-- What no step does to an inbound exchange that is still reserved. -/
def ContentRely (s s' : Tables) : Prop :=
  ∀ e ∈ s.exchanges.rows, e.direction = .inbound →
    ∃ e' ∈ s'.exchanges.rows, e'.exchange_id = e.exchange_id ∧ e'.direction = .inbound ∧
      (e'.state = .reserved → e.state = .reserved ∧ (s.hasMessage e.exchange_id →
        e'.content_bytes = e.content_bytes ∧ s'.hasMessage e.exchange_id))

theorem ContentRely.refl (s : Tables) : ContentRely s s :=
  fun e he hin => ⟨e, he, rfl, hin, fun h => ⟨h, fun hm => ⟨rfl, hm⟩⟩⟩

theorem ContentRely.trans {a b c : Tables} (h : ContentRely a b) (h' : ContentRely b c) :
    ContentRely a c := by
  intro e he hin
  obtain ⟨e', he', hid, hin', hkept⟩ := h e he hin
  obtain ⟨e'', he'', hid', hin'', hkept'⟩ := h' e' he' hin'
  refine ⟨e'', he'', hid'.trans hid, hin'', ?_⟩
  intro hstate
  obtain ⟨hstate', hmessage'⟩ := hkept' hstate
  obtain ⟨hstate₀, hmessage⟩ := hkept hstate'
  refine ⟨hstate₀, ?_⟩
  intro hm
  obtain ⟨hbytes, hm'⟩ := hmessage hm
  rw [hid] at hmessage'
  obtain ⟨hbytes', hm''⟩ := hmessage' hm'
  exact ⟨hbytes'.trans hbytes, hm''⟩

theorem ContentInv.empty : ContentInv Tables.empty := by
  refine ⟨?_, ?_, ?_, ?_, ?_, ?_, ?_, ?_, ?_⟩ <;> intro x hx <;> exact absurd hx List.not_mem_nil

/-! ### Steps that move an exchange and leave its content alone -/

/-- An exchange moves along its states. -/
structure RowMove (s : Tables) (e e' : ExchangeRow) : Prop where
  id : e'.exchange_id = e.exchange_id
  direction : e'.direction = e.direction
  bytes : e'.content_bytes = e.content_bytes
  cleaned : e'.cleanup_state = .cleaned ↔ e.cleanup_state = .cleaned
  opened : e.direction = .inbound → e'.state = .reserved →
    e'.internal_task_id = none ∧ e'.terminal_at = none
  claimed : e'.cleanup_state ≠ .pending → e'.terminal_at ≠ none
  left : e.direction = .inbound → e'.state = .reserved → e.state = .reserved
  kept : e.direction = .inbound → e'.state ≠ .reserved →
    e.state ≠ .reserved ∨ s.hasMessage e.exchange_id

theorem RowMove.refl {s : Tables} (hinv : ContentInv s) {e : ExchangeRow}
    (he : e ∈ s.exchanges.rows) : RowMove s e e :=
  ⟨rfl, rfl, rfl, Iff.rfl, hinv.opened e he, hinv.claimed e he, fun _ h => h,
    fun _ h => Or.inl h⟩

/-- The tables of the content are the same. -/
structure SameContent (s s' : Tables) : Prop where
  messages : s'.messages = s.messages
  messageParts : s'.messageParts = s.messageParts
  artifacts : s'.artifacts = s.artifacts
  artifactParts : s'.artifactParts = s.artifactParts

theorem SameContent.storedBytes {s s' : Tables} (h : SameContent s s') (exchange_id : Uuid) :
    s'.storedBytes exchange_id = s.storedBytes exchange_id := by
  unfold Tables.storedBytes Tables.messageBytes Tables.artifactBytes
  rw [h.messages, h.messageParts, h.artifacts, h.artifactParts]

theorem SameContent.hasMessage {s s' : Tables} (h : SameContent s s') (exchange_id : Uuid) :
    s'.hasMessage exchange_id ↔ s.hasMessage exchange_id := by
  unfold Tables.hasMessage
  rw [h.messages]

theorem SameContent.hasArtifact {s s' : Tables} (h : SameContent s s') (exchange_id : Uuid) :
    s'.hasArtifact exchange_id ↔ s.hasArtifact exchange_id := by
  unfold Tables.hasArtifact
  rw [h.artifacts]

/-- **Moves of exchanges keep the invariant.** -/
theorem ContentInv.moved {s s' : Tables} (hinv : ContentInv s) (hsame : SameContent s s')
    (hback : ∀ e' ∈ s'.exchanges.rows, ∃ e ∈ s.exchanges.rows, RowMove s e e')
    (hforth : ∀ e ∈ s.exchanges.rows, ∃ e' ∈ s'.exchanges.rows, RowMove s e e') :
    ContentInv s' ∧ ContentRely s s' := by
  refine ⟨⟨?_, ?_, ?_, ?_, ?_, ?_, ?_, ?_, ?_⟩, ?_⟩
  · rw [hsame.messages, hsame.messageParts]
    exact hinv.messageOwned
  · rw [hsame.artifacts, hsame.artifactParts]
    exact hinv.artifactOwned
  · rw [hsame.messages]
    intro m hm
    obtain ⟨hord, e, he, hid, hdir⟩ := hinv.messageInbound m hm
    obtain ⟨e', he', hmove⟩ := hforth e he
    exact ⟨hord, e', he', hmove.id.trans hid, hmove.direction.trans hdir⟩
  · rw [hsame.artifacts]
    intro a ha
    obtain ⟨e, he, hid, hdir⟩ := hinv.artifactOutbound a ha
    obtain ⟨e', he', hmove⟩ := hforth e he
    exact ⟨e', he', hmove.id.trans hid, hmove.direction.trans hdir⟩
  · intro e' he' hcleaned
    obtain ⟨e, he, hmove⟩ := hback e' he'
    rw [hmove.id, hsame.hasMessage, hsame.hasArtifact]
    exact hinv.cleaned e he (hmove.cleaned.mp hcleaned)
  · intro e' he' hcleaned
    obtain ⟨e, he, hmove⟩ := hback e' he'
    rw [hmove.id, hmove.bytes, hsame.storedBytes]
    exact hinv.counted e he fun h => hcleaned (hmove.cleaned.mpr h)
  · intro e' he' hdir hstate
    obtain ⟨e, he, hmove⟩ := hback e' he'
    exact hmove.opened (hmove.direction ▸ hdir) hstate
  · intro e' he' hclaimed
    obtain ⟨e, he, hmove⟩ := hback e' he'
    exact hmove.claimed hclaimed
  · intro e' he' hdir hstate hcleaned
    obtain ⟨e, he, hmove⟩ := hback e' he'
    have hdir : e.direction = .inbound := hmove.direction ▸ hdir
    rw [hmove.id, hsame.hasMessage]
    rcases hmove.kept hdir hstate with hleft | hmessage
    · exact hinv.bound e he hdir hleft fun h => hcleaned (hmove.cleaned.mpr h)
    · exact hmessage
  · intro e he hdir
    obtain ⟨e', he', hmove⟩ := hforth e he
    refine ⟨e', he', hmove.id, hmove.direction.trans hdir, ?_⟩
    intro hstate
    refine ⟨hmove.left hdir hstate, ?_⟩
    intro hm
    exact ⟨hmove.bytes, (hsame.hasMessage _).mpr hm⟩

/-- The exchanges and their content are the same. -/
theorem ContentInv.same {s s' : Tables} (hinv : ContentInv s) (hsame : SameContent s s')
    (hexchanges : s'.exchanges = s.exchanges) : ContentInv s' ∧ ContentRely s s' := by
  refine hinv.moved hsame ?_ ?_ <;> rw [hexchanges] <;> intro e he <;>
    exact ⟨e, he, .refl hinv he⟩

/-- An `UPDATE` that moves what it selects. -/
theorem ContentInv.updated {s : Tables} (hinv : ContentInv s) {p : ExchangeRow → Bool}
    {f : ExchangeRow → ExchangeRow} {hf : ∀ e, (f e).exchange_id = e.exchange_id}
    (h : ∀ e ∈ s.exchanges.rows, p e = true → RowMove s e (f e)) :
    ContentInv (s.updateExchanges p f hf) ∧ ContentRely s (s.updateExchanges p f hf) := by
  refine hinv.moved ⟨rfl, rfl, rfl, rfl⟩ ?_ ?_
  · intro e' he'
    have he' : e' ∈ (s.exchanges.updateWhere p f hf).rows := he'
    rcases Table.mem_updateWhere.1 he' with ⟨e, he, hp, rfl⟩ | ⟨he, -⟩
    · exact ⟨e, he, h e he hp⟩
    · exact ⟨e', he, .refl hinv he⟩
  · intro e he
    show ∃ e' ∈ (s.exchanges.updateWhere p f hf).rows, RowMove s e e'
    by_cases hp : p e = true
    · exact ⟨f e, Table.mem_updateWhere.2 (Or.inl ⟨e, he, hp, rfl⟩), h e he hp⟩
    · exact ⟨e, Table.mem_updateWhere.2 (Or.inr ⟨he, by simpa using hp⟩), .refl hinv he⟩

/-! ### Steps that write content -/

/-- A send knows its exchange. -/
def Known (exchange_id : Uuid) (s : Tables) : Prop :=
  ∃ e ∈ s.exchanges.rows, e.exchange_id = exchange_id ∧ e.direction = .inbound

/-- A send knows the bytes of its exchange, as long as that is reserved. -/
def Counted (exchange_id : Uuid) (bytes : Nat) (s : Tables) : Prop :=
  ∃ e ∈ s.exchanges.rows, e.exchange_id = exchange_id ∧ e.direction = .inbound ∧
    (e.state = .reserved → e.content_bytes = bytes ∧ s.hasMessage exchange_id)

/-- A new exchange has no content. -/
theorem ContentInv.reserved {s : Tables} (hinv : ContentInv s) {row : ExchangeRow}
    {t : Table ExchangeRow.exchange_id} (h : s.exchanges.insert row = some t)
    (hbytes : row.content_bytes = 0) (hpending : row.cleanup_state = .pending)
    (hstate : row.state = .reserved) (hterminal : row.terminal_at = none)
    (hopen : row.direction = .inbound → row.internal_task_id = none) :
    ContentInv { s with exchanges := t } ∧ ContentRely s { s with exchanges := t } := by
  have hfree := (Table.get_eq_none_iff s.exchanges _).mp
    ((Table.insert_eq_some_iff s.exchanges t row).mp h).1
  have hold : ∀ e ∈ s.exchanges.rows, e ∈ t.rows := fun e he => (Table.mem_insert h).mpr (Or.inl he)
  have hzero : s.storedBytes row.exchange_id = 0 := by
    have hmessages : s.messageBytes row.exchange_id = 0 := by
      refine ownedBytes_eq_zero ?_
      intro m hm heq
      obtain ⟨-, e, he, hid, -⟩ := hinv.messageInbound m hm
      exact hfree e he (hid.trans heq)
    have hartifacts : s.artifactBytes row.exchange_id = 0 := by
      refine ownedBytes_eq_zero ?_
      intro a ha heq
      obtain ⟨e, he, hid, -⟩ := hinv.artifactOutbound a ha
      exact hfree e he (hid.trans heq)
    unfold Tables.storedBytes
    omega
  refine ⟨⟨hinv.messageOwned, hinv.artifactOwned, ?_, ?_, ?_, ?_, ?_, ?_, ?_⟩, ?_⟩
  · intro m hm
    obtain ⟨hord, e, he, hid⟩ := hinv.messageInbound m hm
    exact ⟨hord, e, hold e he, hid⟩
  · intro a ha
    obtain ⟨e, he, hid⟩ := hinv.artifactOutbound a ha
    exact ⟨e, hold e he, hid⟩
  · intro e he hcleaned
    rcases (Table.mem_insert h).mp he with he | rfl
    · exact hinv.cleaned e he hcleaned
    · rw [hpending] at hcleaned
      cases hcleaned
  · intro e he hcleaned
    rcases (Table.mem_insert h).mp he with he | rfl
    · exact hinv.counted e he hcleaned
    · exact hbytes.trans hzero.symm
  · intro e he hdir hres
    rcases (Table.mem_insert h).mp he with he | rfl
    · exact hinv.opened e he hdir hres
    · exact ⟨hopen hdir, hterminal⟩
  · intro e he hclaimed
    rcases (Table.mem_insert h).mp he with he | rfl
    · exact hinv.claimed e he hclaimed
    · exact absurd hpending hclaimed
  · intro e he hdir hleft hcleaned
    rcases (Table.mem_insert h).mp he with he | rfl
    · exact hinv.bound e he hdir hleft hcleaned
    · exact absurd hstate hleft
  · intro e he hdir
    exact ⟨e, hold e he, rfl, hdir, fun hs => ⟨hs, fun hm => ⟨rfl, hm⟩⟩⟩

/-- The exchange under an identity. -/
theorem exchange_unique {s : Tables} {e e' : ExchangeRow} (he : e ∈ s.exchanges.rows)
    (he' : e' ∈ s.exchanges.rows) (h : e.exchange_id = e'.exchange_id) : e = e' :=
  s.exchanges.eq_of_key_eq he he' h

/-- An inbound exchange has no artifacts. -/
theorem ContentInv.noArtifact {s : Tables} (hinv : ContentInv s) {e : ExchangeRow}
    (he : e ∈ s.exchanges.rows) (hdir : e.direction = .inbound) :
    ¬ s.hasArtifact e.exchange_id := by
  rintro ⟨a, ha, hid⟩
  obtain ⟨e', he', hid', hdir'⟩ := hinv.artifactOutbound a ha
  obtain rfl := exchange_unique he' he (hid'.trans hid)
  rw [hdir] at hdir'
  cases hdir'

/-- An outbound exchange has no message. -/
theorem ContentInv.noMessage {s : Tables} (hinv : ContentInv s) {e : ExchangeRow}
    (he : e ∈ s.exchanges.rows) (hdir : e.direction = .outbound) :
    ¬ s.hasMessage e.exchange_id := by
  rintro ⟨m, hm, hid⟩
  obtain ⟨-, e', he', hid', hdir'⟩ := hinv.messageInbound m hm
  obtain rfl := exchange_unique he' he (hid'.trans hid)
  rw [hdir] at hdir'
  cases hdir'

/-- Exchanges whose count alone is written, and what stays of them. -/
structure Recounted (s s' : Tables) (exchange_id : Uuid) (bytes : ExchangeRow → Nat) : Prop where
  back : ∀ e' ∈ s'.exchanges.rows, ∃ e ∈ s.exchanges.rows, e'.exchange_id = e.exchange_id ∧
    e'.direction = e.direction ∧ e'.state = e.state ∧ e'.cleanup_state = e.cleanup_state ∧
    e'.internal_task_id = e.internal_task_id ∧ e'.terminal_at = e.terminal_at ∧
    e'.content_bytes = if e.exchange_id = exchange_id then bytes e else e.content_bytes
  forth : ∀ e ∈ s.exchanges.rows, ∃ e' ∈ s'.exchanges.rows, e'.exchange_id = e.exchange_id ∧
    e'.direction = e.direction ∧ e'.state = e.state ∧
    e'.content_bytes = if e.exchange_id = exchange_id then bytes e else e.content_bytes

/-- An `UPDATE` of the count of one exchange. -/
theorem recounted_update {s s' : Tables} {p : ExchangeRow → Bool}
    (f : ExchangeRow → ExchangeRow) (hf : ∀ e, (f e).exchange_id = e.exchange_id)
    {exchange_id : Uuid} {bytes : ExchangeRow → Nat}
    (hs' : s'.exchanges = s.exchanges.updateWhere p f hf)
    (hp : ∀ e ∈ s.exchanges.rows, p e = true ↔ e.exchange_id = exchange_id)
    (hfields : ∀ e, (f e).direction = e.direction ∧ (f e).state = e.state ∧
      (f e).cleanup_state = e.cleanup_state ∧ (f e).internal_task_id = e.internal_task_id ∧
      (f e).terminal_at = e.terminal_at ∧ (f e).content_bytes = bytes e) :
    Recounted s s' exchange_id bytes := by
  have hback : ∀ e' ∈ s'.exchanges.rows, ∃ e ∈ s.exchanges.rows,
      e'.exchange_id = e.exchange_id ∧ e'.direction = e.direction ∧ e'.state = e.state ∧
      e'.cleanup_state = e.cleanup_state ∧ e'.internal_task_id = e.internal_task_id ∧
      e'.terminal_at = e.terminal_at ∧
      e'.content_bytes = if e.exchange_id = exchange_id then bytes e else e.content_bytes := by
    intro e' he'
    rw [hs'] at he'
    rcases Table.mem_updateWhere.1 he' with ⟨e, he, hpe, rfl⟩ | ⟨he, hpe⟩
    · obtain ⟨hdir, hstate, hclean, htask, hterminal, hbytes⟩ := hfields e
      have hcount : (f e).content_bytes =
          if e.exchange_id = exchange_id then bytes e else e.content_bytes := by
        rw [if_pos ((hp e he).mp hpe)]
        exact hbytes
      exact ⟨e, he, hf e, hdir, hstate, hclean, htask, hterminal, hcount⟩
    · have hne : e'.exchange_id ≠ exchange_id := by
        intro heq
        rw [(hp e' he).mpr heq] at hpe
        cases hpe
      exact ⟨e', he, rfl, rfl, rfl, rfl, rfl, rfl, (if_neg hne).symm⟩
  refine ⟨hback, ?_⟩
  intro e he
  obtain ⟨e', he', hid⟩ := Table.exists_updateWhere (p := p) hf he
  rw [← hs'] at he'
  obtain ⟨e₁, he₁, hid₁, hdir, hstate, -, -, -, hbytes⟩ := hback e' he'
  obtain rfl := exchange_unique he₁ he (hid₁.symm.trans hid)
  exact ⟨e', he', hid, hdir, hstate, hbytes⟩

/-- **Content that is stored and counted**: the exchange `e₀` was not cleaned, and gets the bytes
that are stored for it. -/
theorem ContentInv.stored {s s' : Tables} (hinv : ContentInv s) {e₀ : ExchangeRow}
    (he₀ : e₀ ∈ s.exchanges.rows) (bytes : ExchangeRow → Nat) (n : Nat)
    (hopen : e₀.cleanup_state ≠ .cleaned) (hcount : Recounted s s' e₀.exchange_id bytes)
    (hmessageOwned : Owned s'.messages s'.messageParts)
    (hartifactOwned : Owned s'.artifacts s'.artifactParts)
    (hmessage : ∀ m ∈ s'.messages.rows, m ∈ s.messages.rows ∨
      (m.exchange_id = e₀.exchange_id ∧ m.ordinal = 0 ∧ e₀.direction = .inbound))
    (hartifact : ∀ a ∈ s'.artifacts.rows, a ∈ s.artifacts.rows ∨
      (a.exchange_id = e₀.exchange_id ∧ e₀.direction = .outbound))
    (hkeep : ∀ m ∈ s.messages.rows, m ∈ s'.messages.rows)
    (hbytes : ∀ other, s'.storedBytes other =
      s.storedBytes other + if e₀.exchange_id = other then n else 0)
    (hcounted : bytes e₀ = s.storedBytes e₀.exchange_id + n)
    (hfirst : s.hasMessage e₀.exchange_id → e₀.direction = .inbound → False) :
    ContentInv s' ∧ ContentRely s s' := by
  have hhas : ∀ id, s.hasMessage id → s'.hasMessage id := by
    rintro id ⟨m, hm, hid⟩
    exact ⟨m, hkeep m hm, hid⟩
  have hother : ∀ e ∈ s.exchanges.rows, e.cleanup_state = .cleaned →
      e.exchange_id ≠ e₀.exchange_id := by
    intro e he hcleaned heq
    obtain rfl := exchange_unique he he₀ heq
    exact hopen hcleaned
  refine ⟨⟨hmessageOwned, hartifactOwned, ?_, ?_, ?_, ?_, ?_, ?_, ?_⟩, ?_⟩
  · intro m hm
    rcases hmessage m hm with hold | ⟨hid, hord, hdir⟩
    · obtain ⟨hord, e, he, hid, hdir⟩ := hinv.messageInbound m hold
      obtain ⟨e', he', hid', hdir', -⟩ := hcount.forth e he
      exact ⟨hord, e', he', hid'.trans hid, hdir'.trans hdir⟩
    · obtain ⟨e', he', hid', hdir', -⟩ := hcount.forth e₀ he₀
      exact ⟨hord, e', he', hid'.trans hid.symm, hdir'.trans hdir⟩
  · intro a ha
    rcases hartifact a ha with hold | ⟨hid, hdir⟩
    · obtain ⟨e, he, hid, hdir⟩ := hinv.artifactOutbound a hold
      obtain ⟨e', he', hid', hdir', -⟩ := hcount.forth e he
      exact ⟨e', he', hid'.trans hid, hdir'.trans hdir⟩
    · obtain ⟨e', he', hid', hdir', -⟩ := hcount.forth e₀ he₀
      exact ⟨e', he', hid'.trans hid.symm, hdir'.trans hdir⟩
  · intro e' he' hcleaned
    obtain ⟨e, he, hid, -, -, hclean, -⟩ := hcount.back e' he'
    rw [hclean] at hcleaned
    obtain ⟨hm, ha⟩ := hinv.cleaned e he hcleaned
    have hne := hother e he hcleaned
    rw [hid]
    constructor
    · rintro ⟨m, hm', hmid⟩
      rcases hmessage m hm' with hold | ⟨hmid', -⟩
      · exact hm ⟨m, hold, hmid⟩
      · exact hne (hmid.symm.trans hmid')
    · rintro ⟨a, ha', haid⟩
      rcases hartifact a ha' with hold | ⟨haid', -⟩
      · exact ha ⟨a, hold, haid⟩
      · exact hne (haid.symm.trans haid')
  · intro e' he' hcleaned
    obtain ⟨e, he, hid, -, -, hclean, -, -, hb⟩ := hcount.back e' he'
    rw [hclean] at hcleaned
    rw [hid, hb, hbytes]
    by_cases heq : e.exchange_id = e₀.exchange_id
    · obtain rfl := exchange_unique he he₀ heq
      simp only [if_true]
      exact hcounted
    · rw [if_neg heq, if_neg fun h => heq h.symm, Nat.add_zero]
      exact hinv.counted e he hcleaned
  · intro e' he' hdir hstate
    obtain ⟨e, he, -, hdir', hstate', -, htask, hterminal, -⟩ := hcount.back e' he'
    rw [htask, hterminal]
    exact hinv.opened e he (hdir'.symm.trans hdir) (hstate'.symm.trans hstate)
  · intro e' he' hclaimed
    obtain ⟨e, he, -, -, -, hclean, -, hterminal, -⟩ := hcount.back e' he'
    rw [hclean] at hclaimed
    rw [hterminal]
    exact hinv.claimed e he hclaimed
  · intro e' he' hdir hleft hcleaned
    obtain ⟨e, he, hid, hdir', hstate, hclean, -⟩ := hcount.back e' he'
    rw [hdir'] at hdir
    rw [hstate] at hleft
    rw [hclean] at hcleaned
    rw [hid]
    exact hhas _ (hinv.bound e he hdir hleft hcleaned)
  · intro e he hdir
    obtain ⟨e', he', hid, hdir', hstate, hb⟩ := hcount.forth e he
    refine ⟨e', he', hid, hdir'.trans hdir, ?_⟩
    intro hres
    refine ⟨hstate.symm.trans hres, ?_⟩
    intro hm
    refine ⟨?_, hhas _ hm⟩
    by_cases heq : e.exchange_id = e₀.exchange_id
    · obtain rfl := exchange_unique he he₀ heq
      exact (hfirst hm hdir).elim
    · rw [hb, if_neg heq]

section

variable [Externals]

/-- The message of an exchange that is not cleaned. -/
theorem ContentInv.messageStored {s s' : Tables} (hinv : ContentInv s) {e₀ : ExchangeRow}
    (he₀ : e₀ ∈ s.exchanges.rows) (hdir : e₀.direction = .inbound)
    (hopen : e₀.cleanup_state ≠ .cleaned) {total : Nat}
    (h : MessageStored e₀.exchange_id total s s') :
    ContentInv s' ∧ ContentRely s s' ∧ Counted e₀.exchange_id total s' := by
  obtain ⟨hfree, row, t, parts, hid, hord, ht, hadded, now, hs'⟩ := h
  have hmessages' : s'.messages = t := by rw [hs']
  have hparts' : s'.messageParts = parts := by rw [hs']
  have hartifacts' : s'.artifacts = s.artifacts := by rw [hs']
  have hartifactParts' : s'.artifactParts = s.artifactParts := by rw [hs']
  have hnone : ¬ s.hasMessage e₀.exchange_id := by
    rintro ⟨m, hm, hmid⟩
    exact hfree m hm hmid (hinv.messageInbound m hm).1
  -- an exchange that has left `reserved` would have its message
  have hstate : e₀.state = .reserved := by
    by_contra hleft
    exact hnone (hinv.bound e₀ he₀ hdir hleft hopen)
  have hzero : s.storedBytes e₀.exchange_id = 0 := by
    have hmessages : s.messageBytes e₀.exchange_id = 0 :=
      ownedBytes_eq_zero fun m hm hmid => hnone ⟨m, hm, hmid⟩
    have hartifacts : s.artifactBytes e₀.exchange_id = 0 :=
      ownedBytes_eq_zero fun a ha haid => hinv.noArtifact he₀ hdir ⟨a, ha, haid⟩
    unfold Tables.storedBytes
    omega
  have hselected : ∀ e ∈ s.exchanges.rows,
      decide (e.exchange_id = e₀.exchange_id ∧ e.state = .reserved) = true ↔
        e.exchange_id = e₀.exchange_id := by
    intro e he
    constructor
    · intro hp
      exact (of_decide_eq_true hp).1
    · intro heq
      obtain rfl := exchange_unique he he₀ heq
      exact decide_eq_true ⟨rfl, hstate⟩
  have hcount : Recounted s s' e₀.exchange_id fun _ => total :=
    recounted_update (ExchangeRow.counted total now) (fun _ => rfl) (congrArg Tables.exchanges hs') hselected
      fun e => ⟨rfl, rfl, rfl, rfl, rfl, rfl⟩
  have hcounted : Counted e₀.exchange_id total s' := by
    obtain ⟨e', he', hid', hdir', -, hbytes⟩ := hcount.forth e₀ he₀
    rw [if_pos rfl] at hbytes
    refine ⟨e', he', hid', hdir'.trans hdir, fun _ => ⟨hbytes, row, ?_, hid⟩⟩
    rw [hmessages']
    exact (Table.mem_insert ht).mpr (Or.inr rfl)
  refine (and_assoc.mp ⟨hinv.stored he₀ (fun _ => total) total hopen hcount ?_ ?_ ?_ ?_ ?_ ?_
    (by rw [hzero, Nat.zero_add]) fun hm _ => hnone hm, hcounted⟩)
  · rw [hmessages', hparts']
    exact hinv.messageOwned.insert ht hadded
  · rw [hartifacts', hartifactParts']
    exact hinv.artifactOwned
  · intro m hm
    rw [hmessages'] at hm
    rcases (Table.mem_insert ht).mp hm with hold | rfl
    · exact Or.inl hold
    · exact Or.inr ⟨hid, hord, hdir⟩
  · intro a ha
    rw [hartifacts'] at ha
    exact Or.inl ha
  · intro m hm
    rw [hmessages']
    exact (Table.mem_insert ht).mpr (Or.inl hm)
  · intro other
    have hmessages : ownedBytes t MessageRow.exchange_id parts other =
        s.messageBytes other + if row.exchange_id = other then total else 0 :=
      ownedBytes_insert ht hinv.messageOwned hadded other
    rw [hid] at hmessages
    have hm : s'.messageBytes other = ownedBytes t MessageRow.exchange_id parts other := by
      rw [hs']
      rfl
    have ha : s'.artifactBytes other = s.artifactBytes other := by
      rw [hs']
      rfl
    unfold Tables.storedBytes
    omega

/-- The artifacts of an exchange that is not cleaned. -/
theorem ContentInv.artifactsStored {s s₁ : Tables} (hinv : ContentInv s) {e₀ : ExchangeRow}
    (he₀ : e₀ ∈ s.exchanges.rows) (hdir : e₀.direction = .outbound)
    (hopen : e₀.cleanup_state ≠ .cleaned) {n : Nat} {now : DateTime}
    (h : ArtifactsAdded e₀.exchange_id n s s₁) {s' : Tables}
    (hs' : s' = s₁.updateExchanges (fun e => decide (e.exchange_id = e₀.exchange_id))
      (ExchangeRow.recounted n now) (fun _ => rfl)) : ContentInv s' ∧ ContentRely s s' := by
  obtain ⟨⟨t, parts, rfl⟩, hbytes, howned, hrows⟩ := h
  subst hs'
  have hnone : ¬ s.hasMessage e₀.exchange_id := hinv.noMessage he₀ hdir
  refine hinv.stored he₀ (fun e => e.content_bytes + n) n hopen
    (recounted_update (ExchangeRow.recounted n now) (fun _ => rfl) rfl ?_
      fun e => ⟨rfl, rfl, rfl, rfl, rfl, rfl⟩) hinv.messageOwned howned
    (fun m hm => Or.inl hm) ?_ (fun m hm => hm) ?_ (by rw [hinv.counted e₀ he₀ hopen])
    (fun hm _ => hnone hm)
  · intro e _
    exact decide_eq_true_iff
  · intro a ha
    rcases hrows a ha with hold | hid
    · exact Or.inl hold
    · exact Or.inr ⟨hid, hdir⟩
  · intro other
    have hartifacts := hbytes other
    show s.messageBytes other + Tables.artifactBytes { s with artifacts := t, artifactParts := parts }
      other = s.messageBytes other + s.artifactBytes other + _
    omega

/-- **The cleanup of an exchange.** -/
theorem ContentInv.cleanedUp {s : Tables} (hinv : ContentInv s) (runtime : String)
    (claim : CleanupClaim) (now : DateTime) :
    ContentInv (cleanClaim runtime claim now s).2 ∧
      ContentRely s (cleanClaim runtime claim now s).2 := by
  by_cases hholds : s.exchanges.rows.any (claim.holds runtime s) = true
  · obtain ⟨e₀, he₀, hclaim⟩ := List.any_eq_true.mp hholds
    simp only [CleanupClaim.holds, Bool.and_eq_true, decide_eq_true_eq] at hclaim
    obtain ⟨⟨⟨hid, hclaimed, howner, hrev, hterminal⟩, -⟩, hended⟩ := hclaim
    let p : ExchangeRow → Bool := fun e => decide (e.exchange_id = claim.exchange_id ∧
      e.cleanup_owner = some runtime ∧ e.cleanup_revision = claim.revision ∧
      e.terminal_at ≠ none) && s.taskEnded e
    have hp₀ : p e₀ = true := by
      show (decide _ && s.taskEnded e₀) = true
      rw [hended, Bool.and_true]
      exact decide_eq_true ⟨hid, howner, hrev, hterminal⟩
    have hp : ∀ e ∈ s.exchanges.rows, p e = true → e = e₀ := by
      intro e he hpe
      have hsel := (Bool.and_eq_true_iff.mp hpe).1
      exact exchange_unique he he₀ ((of_decide_eq_true hsel).1.trans hid.symm)
    have hf : ∀ e : ExchangeRow, (e.cleaned now).exchange_id = e.exchange_id := fun _ => rfl
    have hstep : (cleanClaim runtime claim now s).2 =
        (s.dropContent claim.exchange_id).updateExchanges p (ExchangeRow.cleaned now) hf := by
      simp only [cleanClaim, hholds, if_true]
      rfl
    rw [hstep, ← hid]
    -- what the rows of the exchanges are afterwards
    have hback : ∀ e' ∈ (s.exchanges.updateWhere p (ExchangeRow.cleaned now) hf).rows,
        e' = e₀.cleaned now ∨ (e' ∈ s.exchanges.rows ∧ e'.exchange_id ≠ e₀.exchange_id) := by
      intro e' he'
      rcases Table.mem_updateWhere.1 he' with ⟨e, he, hpe, rfl⟩ | ⟨he, hpe⟩
      · rw [hp e he hpe]
        exact Or.inl rfl
      · refine Or.inr ⟨he, ?_⟩
        intro heq
        obtain rfl := exchange_unique he he₀ heq
        rw [hp₀] at hpe
        cases hpe
    have hforth : ∀ e ∈ s.exchanges.rows,
        ∃ e' ∈ (s.exchanges.updateWhere p (ExchangeRow.cleaned now) hf).rows,
          e'.exchange_id = e.exchange_id ∧ e'.direction = e.direction ∧ e'.state = e.state ∧
          (e.exchange_id ≠ e₀.exchange_id → e' = e) := by
      intro e he
      by_cases heq : e.exchange_id = e₀.exchange_id
      · obtain rfl := exchange_unique he he₀ heq
        exact ⟨e.cleaned now, Table.mem_updateWhere.2 (Or.inl ⟨e, he, hp₀, rfl⟩), rfl, rfl, rfl,
          fun hne => absurd rfl hne⟩
      · refine ⟨e, Table.mem_updateWhere.2 (Or.inr ⟨he, ?_⟩), rfl, rfl, rfl, fun _ => rfl⟩
        by_contra hpe
        exact heq (congrArg ExchangeRow.exchange_id (hp e he (by simpa using hpe)))
    have hmessages : ∀ m, m ∈ (s.dropContent e₀.exchange_id).messages.rows ↔
        m ∈ s.messages.rows ∧ m.exchange_id ≠ e₀.exchange_id := by
      intro m
      show m ∈ (s.messages.deleteWhere _).rows ↔ _
      rw [Table.mem_deleteWhere]
      simp
    have hartifacts : ∀ a, a ∈ (s.dropContent e₀.exchange_id).artifacts.rows ↔
        a ∈ s.artifacts.rows ∧ a.exchange_id ≠ e₀.exchange_id := by
      intro a
      show a ∈ (s.artifacts.deleteWhere _).rows ↔ _
      rw [Table.mem_deleteWhere]
      simp
    refine ⟨⟨hinv.messageOwned.delete e₀.exchange_id, hinv.artifactOwned.delete e₀.exchange_id,
      ?_, ?_, ?_, ?_, ?_, ?_, ?_⟩, ?_⟩
    · intro m hm
      obtain ⟨hm, -⟩ := (hmessages m).mp hm
      obtain ⟨hord, e, he, hmid, hdir⟩ := hinv.messageInbound m hm
      obtain ⟨e', he', hid', hdir', -⟩ := hforth e he
      exact ⟨hord, e', he', hid'.trans hmid, hdir'.trans hdir⟩
    · intro a ha
      obtain ⟨ha, -⟩ := (hartifacts a).mp ha
      obtain ⟨e, he, haid, hdir⟩ := hinv.artifactOutbound a ha
      obtain ⟨e', he', hid', hdir', -⟩ := hforth e he
      exact ⟨e', he', hid'.trans haid, hdir'.trans hdir⟩
    · intro e' he' hcleaned
      rcases hback e' he' with rfl | ⟨he, hne⟩
      · constructor
        · rintro ⟨m, hm, hmid⟩
          exact ((hmessages m).mp hm).2 hmid
        · rintro ⟨a, ha, haid⟩
          exact ((hartifacts a).mp ha).2 haid
      · obtain ⟨hm, ha⟩ := hinv.cleaned e' he hcleaned
        constructor
        · rintro ⟨m, hmem, hmid⟩
          exact hm ⟨m, ((hmessages m).mp hmem).1, hmid⟩
        · rintro ⟨a, hmem, haid⟩
          exact ha ⟨a, ((hartifacts a).mp hmem).1, haid⟩
    · intro e' he' hcleaned
      rcases hback e' he' with rfl | ⟨he, hne⟩
      · exact absurd rfl hcleaned
      · have hm : (s.dropContent e₀.exchange_id).messageBytes e'.exchange_id =
            s.messageBytes e'.exchange_id := ownedBytes_delete hne
        have ha : (s.dropContent e₀.exchange_id).artifactBytes e'.exchange_id =
            s.artifactBytes e'.exchange_id := ownedBytes_delete hne
        have hcount := hinv.counted e' he hcleaned
        show e'.content_bytes = (s.dropContent e₀.exchange_id).messageBytes e'.exchange_id +
          (s.dropContent e₀.exchange_id).artifactBytes e'.exchange_id
        rw [hm, ha]
        exact hcount
    · intro e' he' hdir hstate
      rcases hback e' he' with rfl | ⟨he, -⟩
      · exact hinv.opened e₀ he₀ hdir hstate
      · exact hinv.opened e' he hdir hstate
    · intro e' he' hcl
      rcases hback e' he' with rfl | ⟨he, -⟩
      · exact hterminal
      · exact hinv.claimed e' he hcl
    · intro e' he' hdir hleft hcleaned
      rcases hback e' he' with rfl | ⟨he, hne⟩
      · exact absurd rfl hcleaned
      · obtain ⟨m, hm, hmid⟩ := hinv.bound e' he hdir hleft hcleaned
        exact ⟨m, (hmessages m).mpr ⟨hm, by rw [hmid]; exact hne⟩, hmid⟩
    · intro e he hdir
      obtain ⟨e', he', hid', hdir', hstate, hsame⟩ := hforth e he
      refine ⟨e', he', hid', hdir'.trans hdir, ?_⟩
      intro hres
      rw [hstate] at hres
      refine ⟨hres, ?_⟩
      rintro ⟨m, hm, hmid⟩
      -- the exchange that is cleaned has ended, so it is not reserved
      have hne : e.exchange_id ≠ e₀.exchange_id := by
        intro heq
        obtain rfl := exchange_unique he he₀ heq
        exact hterminal (hinv.opened e he hdir hres).2
      exact ⟨by rw [hsame hne], m, (hmessages m).mpr ⟨hm, by rw [hmid]; exact hne⟩, hmid⟩
  · have hsame : (cleanClaim runtime claim now s).2 = s := by
      simp only [cleanClaim, hholds, Bool.false_eq_true, if_false]
    rw [hsame]
    exact ⟨hinv, .refl s⟩

end

/-! ### The calls, one by one -/

theorem Known.rely {exchange_id : Uuid} {s s' : Tables} (h : Known exchange_id s)
    (hr : ContentRely s s') : Known exchange_id s' := by
  obtain ⟨e, he, hid, hdir⟩ := h
  obtain ⟨e', he', hid', hdir', -⟩ := hr e he hdir
  exact ⟨e', he', hid'.trans hid, hdir'⟩

theorem Counted.rely {exchange_id : Uuid} {bytes : Nat} {s s' : Tables}
    (h : Counted exchange_id bytes s) (hr : ContentRely s s') : Counted exchange_id bytes s' := by
  obtain ⟨e, he, hid, hdir, hcount⟩ := h
  obtain ⟨e', he', hid', hdir', hkept⟩ := hr e he hdir
  refine ⟨e', he', hid'.trans hid, hdir', ?_⟩
  intro hres
  obtain ⟨hres', hmessage⟩ := hkept hres
  obtain ⟨hbytes, hm⟩ := hcount hres'
  rw [← hid] at hm ⊢
  obtain ⟨hbytes', hm'⟩ := hmessage hm
  exact ⟨hbytes'.trans hbytes, hm'⟩

section

variable [Externals] {s : Tables}

omit [Externals] in
/-- The task of an exchange ended. -/
theorem rowMove_ended (hinv : ContentInv s) {e : ExchangeRow} (he : e ∈ s.exchanges.rows)
    (hended : s.taskEnded e = true) : RowMove s e (s.ended e) := by
  obtain ⟨task_id, event, htask, hrow, -⟩ := s.ended_eq hended
  rw [hrow]
  refine ⟨rfl, rfl, rfl, Iff.rfl, ?_, fun _ => nofun, ?_, ?_⟩
  · intro _ hstate
    exact absurd hstate (terminalState_ne_reserved _)
  · intro _ hstate
    exact absurd hstate (terminalState_ne_reserved _)
  · intro hdir _
    refine Or.inl ?_
    intro hres
    rw [(hinv.opened e he hdir hres).1] at htask
    cases htask

omit [Externals] in
theorem content_reconciled (hinv : ContentInv s) :
    ContentInv (reconcileTerminals s) ∧ ContentRely s (reconcileTerminals s) := by
  refine hinv.updated ?_
  intro e he hp
  exact rowMove_ended hinv he (Bool.and_eq_true_iff.mp hp).2

theorem content_claimOne (hinv : ContentInv s) (runtime : String) (now : DateTime)
    (candidate : Uuid × Nat) :
    ContentInv (claimOne runtime now candidate s).2 ∧
      ContentRely s (claimOne runtime now candidate s).2 := by
  refine hinv.updated ?_
  intro e he hp
  have hclaimable := (Bool.and_eq_true_iff.mp (Bool.and_eq_true_iff.mp hp).1).2
  simp only [Tables.claimable, Bool.and_eq_true, Bool.or_eq_true, decide_eq_true_eq] at hclaimable
  obtain ⟨⟨hterminal, -⟩, hstate⟩ := hclaimable
  have hopen : e.cleanup_state ≠ .cleaned := by
    rcases hstate with hpending | ⟨hclaimed, -⟩
    · rw [hpending]
      nofun
    · rw [hclaimed]
      nofun
  exact ⟨rfl, rfl, rfl, ⟨nofun, fun h => absurd h hopen⟩, hinv.opened e he, fun _ => hterminal,
    fun _ h => h, fun _ h => Or.inl h⟩

theorem content_claimAll (hinv : ContentInv s) (runtime : String) (now : DateTime)
    (candidates : List (Uuid × Nat)) :
    ContentInv (claimAll runtime now candidates s).2 ∧
      ContentRely s (claimAll runtime now candidates s).2 := by
  induction candidates generalizing s with
  | nil => exact ⟨hinv, .refl s⟩
  | cons candidate rest ih =>
    obtain ⟨hinv₁, hrely₁⟩ := content_claimOne hinv runtime now candidate
    obtain ⟨hinv₂, hrely₂⟩ := ih hinv₁
    exact ⟨hinv₂, hrely₁.trans hrely₂⟩

theorem content_claimCleanup (hinv : ContentInv s) (runtime : String) (before : DateTime)
    (limit : Nat) (now : DateTime) :
    ContentInv (claimCleanup runtime before limit now s).2 ∧
      ContentRely s (claimCleanup runtime before limit now s).2 := by
  unfold claimCleanup
  split
  · exact ⟨hinv, .refl s⟩
  · obtain ⟨hinv₁, hrely₁⟩ := content_reconciled hinv
    obtain ⟨hinv₂, hrely₂⟩ := content_claimAll hinv₁ runtime now
      (cleanupCandidates before limit (reconcileTerminals s))
    exact ⟨hinv₂, hrely₁.trans hrely₂⟩

omit [Externals] in
/-- An outbound exchange that no cleanup has touched moves as the dispatcher says. -/
theorem rowMove_outbound (hinv : ContentInv s) {e e' : ExchangeRow} (he : e ∈ s.exchanges.rows)
    (hdir : e.direction = .outbound) (hid : e'.exchange_id = e.exchange_id)
    (hdir' : e'.direction = e.direction) (hbytes : e'.content_bytes = e.content_bytes)
    (hcleanup : e'.cleanup_state = e.cleanup_state) (hterminal : e'.terminal_at = e.terminal_at) :
    RowMove s e e' := by
  have hno : e.direction ≠ .inbound := by
    rw [hdir]
    nofun
  refine ⟨hid, hdir', hbytes, by rw [hcleanup], fun h => absurd h hno, ?_, fun h => absurd h hno,
    fun h => absurd h hno⟩
  rw [hcleanup, hterminal]
  exact hinv.claimed e he

omit [Externals] in
theorem outbound_direction {exchange_id : Uuid} (h : s.outbound exchange_id = true)
    {e : ExchangeRow} (he : e ∈ s.exchanges.rows) (hid : e.exchange_id = exchange_id) :
    e.direction = .outbound := by
  obtain ⟨e', he', hsel⟩ := List.any_eq_true.mp h
  obtain ⟨hid', hdir⟩ := of_decide_eq_true hsel
  obtain rfl := exchange_unique he' he (hid'.trans hid.symm)
  exact hdir

/-- The condition on what is written beside the sends: no artifacts for an exchange that is
cleaned. -/
def contentMetOutside (o : Outside) (s : Tables) : Prop :=
  match o with
  | .storeArtifacts exchange_id _ _ _ =>
    ∀ e ∈ s.exchanges.rows, e.exchange_id = exchange_id → e.cleanup_state ≠ .cleaned
  | _ => True

/-- **What is written beside the sends.** -/
theorem content_outside (fs : FileSystem) (hinv : ContentInv s) (o : Outside)
    (hmet : contentMetOutside o s) :
    ContentInv (outsideStep fs o s) ∧ ContentRely s (outsideStep fs o s) := by
  have hsame : ContentInv s ∧ ContentRely s s := ⟨hinv, .refl s⟩
  cases o with
  | bridge call =>
    simp only [outsideStep]
    split
    · exact hinv.same ⟨rfl, rfl, rfl, rfl⟩ rfl
    · exact hsame
  | reserveOutbound peer_id request_id internal_task_id context_id exchange_id now =>
    show ContentInv (reserveOutbound peer_id request_id internal_task_id context_id exchange_id
      now s).2 ∧ ContentRely s (reserveOutbound peer_id request_id internal_task_id context_id
      exchange_id now s).2
    rcases reserveOutbound_cases peer_id request_id internal_task_id context_id exchange_id now s
      with h | ⟨t, ht, h⟩
    · rw [h]
      exact hsame
    · rw [h]
      exact hinv.reserved ht rfl rfl rfl rfl nofun
  | acknowledgeOutbound exchange_id remote_task_id working now =>
    by_cases hout : s.outbound exchange_id = true
    · simp only [outsideStep, hout, if_true]
      rcases acknowledgeOutbound_cases exchange_id remote_task_id working now s with h | h
      · rw [h]
        exact hsame
      · rw [h]
        refine hinv.updated ?_
        intro e he hp
        exact rowMove_outbound hinv he (outbound_direction hout he (of_decide_eq_true hp).1) rfl
          rfl rfl rfl rfl
    · simp only [outsideStep, hout]
      exact hsame
  | markAcceptanceUnknown exchange_id expected_revision now =>
    by_cases hout : s.outbound exchange_id = true
    · simp only [outsideStep, hout, if_true]
      refine hinv.updated ?_
      intro e he hp
      exact rowMove_outbound hinv he (outbound_direction hout he (of_decide_eq_true hp).1) rfl
        rfl rfl rfl rfl
    · simp only [outsideStep, hout]
      exact hsame
  | storeArtifacts exchange_id artifacts newId now =>
    by_cases hout : s.outbound exchange_id = true
    · simp only [outsideStep, hout, if_true]
      rcases storeArtifacts_cases exchange_id artifacts newId now hinv.artifactOwned with h | ⟨n, s₁, hadded, h⟩
      · rw [h]
        exact hsame
      · obtain ⟨e, he, hsel⟩ := List.any_eq_true.mp hout
        obtain ⟨rfl, hdir⟩ := of_decide_eq_true hsel
        exact hinv.artifactsStored he hdir (hmet e he rfl) hadded h
    · simp only [outsideStep, hout]
      exact hsame
  | projectTaskTerminal internal_task_id =>
    refine hinv.updated ?_
    intro e he hp
    exact rowMove_ended hinv he (Bool.and_eq_true_iff.mp hp).2
  | retainedTerminalBytes => exact content_reconciled hinv
  | claimCleanup runtime before limit now => exact content_claimCleanup hinv runtime before limit now
  | cleanClaim runtime claim now => exact hinv.cleanedUp runtime claim now

/-- The condition on the sends: a message is stored for an exchange that is not cleaned, and the
look at the stored message finds the bytes that the reservation returned. -/
def contentMet : Request → Tables → Prop
  | .storeMessage row _, s =>
    ∀ e ∈ s.exchanges.rows, e.exchange_id = row.exchange_id → e.cleanup_state ≠ .cleaned
  | .messageHeader row, s =>
    ∀ e ∈ s.exchanges.rows, e.exchange_id = row.exchange_id → e.state = .reserved →
      e.content_bytes = row.content_bytes
  | _, _ => True

/-- What a send has to know. -/
def contentNeeded : Request → Tables → Prop
  | .storeMessage row _, s => Known row.exchange_id s
  | .bindTask exchange_id _ _ content_bytes, s => Counted exchange_id content_bytes s
  | _, _ => True

omit [Externals] in
/-- A statement that took effect or did not. -/
theorem content_statement (hinv : ContentInv s) {α : Type} {answer : Answer}
    {f : Tables → Except A2aError α × Tables}
    (h : ContentInv (f s).2 ∧ ContentRely s (f s).2) :
    ContentInv (statement answer f s).2 ∧ ContentRely s (statement answer f s).2 := by
  rcases statement_store answer f s with hs | hs
  · rw [hs]
    exact ⟨hinv, .refl s⟩
  · rw [hs]
    exact h

theorem content_reserveInbound (hinv : ContentInv s)
    (peer_id request_id request_hash context_id : String) (exchange_id : Uuid) (now : DateTime) :
    ContentInv (reserveInbound peer_id request_id request_hash context_id exchange_id now s).2 ∧
      ContentRely s (reserveInbound peer_id request_id request_hash context_id exchange_id now
        s).2 := by
  obtain ⟨⟨r, s'⟩, hcall⟩ : ∃ result, reserveInbound peer_id request_id request_hash context_id
    exchange_id now s = result := ⟨_, rfl⟩
  rw [hcall]
  rcases reserveInbound_cases hcall with ⟨-, -, rfl, -⟩ | ⟨-, rfl, -⟩ | ⟨-, t, ht, rfl, -⟩
  · exact ⟨hinv, .refl _⟩
  · exact ⟨hinv, .refl _⟩
  · exact hinv.reserved ht rfl rfl rfl rfl fun _ => rfl

theorem content_storeMessage (hinv : ContentInv s) {exchange_id : Uuid}
    (hknown : Known exchange_id s)
    (hmet : ∀ e ∈ s.exchanges.rows, e.exchange_id = exchange_id → e.cleanup_state ≠ .cleaned)
    (message : Message) (stored_id : Uuid) (now : DateTime) :
    ContentInv (storeMessage exchange_id message stored_id now s).2 ∧
      ContentRely s (storeMessage exchange_id message stored_id now s).2 := by
  obtain ⟨⟨r, s'⟩, hcall⟩ : ∃ result, storeMessage exchange_id message stored_id now s = result :=
    ⟨_, rfl⟩
  rw [hcall]
  rcases storeMessage_cases hcall with ⟨rfl, -⟩ | ⟨rfl, -⟩ | ⟨total, -, hstored⟩
  · exact ⟨hinv, .refl _⟩
  · exact ⟨hinv, .refl _⟩
  · obtain ⟨e, he, rfl, hdir⟩ := hknown
    obtain ⟨hinv', hrely, -⟩ := hinv.messageStored he hdir (hmet e he rfl) hstored
    exact ⟨hinv', hrely⟩

theorem content_bindTask (hinv : ContentInv s) {exchange_id : Uuid} {content_bytes : Nat}
    (hcounted : Counted exchange_id content_bytes s) (internal_task_id : TaskId)
    (external_task_id : String) (now : DateTime) :
    ContentInv (bindTask exchange_id internal_task_id external_task_id content_bytes now s).2 ∧
      ContentRely s
        (bindTask exchange_id internal_task_id external_task_id content_bytes now s).2 := by
  obtain ⟨⟨r, s'⟩, hcall⟩ : ∃ result, bindTask exchange_id internal_task_id external_task_id
    content_bytes now s = result := ⟨_, rfl⟩
  rw [hcall]
  rcases bindTask_cases hcall with ⟨rfl, -⟩ | ⟨-, rfl⟩
  · exact ⟨hinv, .refl _⟩
  · refine hinv.updated ?_
    intro e he hp
    obtain ⟨hid, hstate, -, -⟩ := of_decide_eq_true hp
    obtain ⟨e₁, he₁, hid₁, hdir, hcount⟩ := hcounted
    obtain rfl := exchange_unique he₁ he (hid₁.trans hid.symm)
    obtain ⟨hbytes, hmessage⟩ := hcount hstate
    refine ⟨rfl, rfl, hbytes.symm, Iff.rfl, fun _ => nofun, hinv.claimed e₁ he, fun _ => nofun, ?_⟩
    intro _ _
    rw [hid]
    exact Or.inr hmessage

/-- **What a send writes.** -/
theorem content_served [NameCrates] (hinv : ContentInv s) (k : Request) (i : SendInput)
    (hmet : contentMet k s) (hneeded : contentNeeded k s) :
    ContentInv (serve k i s).2.1 ∧ ContentRely s (serve k i s).2.1 := by
  have hsame : ContentInv s ∧ ContentRely s s := ⟨hinv, .refl s⟩
  cases k with
  | reserveInbound peer_id request_id request_hash context_id =>
    exact content_statement hinv (content_reserveInbound hinv peer_id request_id request_hash
      context_id i.id i.now)
  | storeMessage row message =>
    exact content_statement hinv (content_storeMessage hinv hneeded hmet message i.id i.now)
  | bindTask exchange_id internal_task_id external_task_id content_bytes =>
    exact content_statement hinv (content_bindTask hinv hneeded internal_task_id
      external_task_id i.now)
  | insertConversation external_id participants =>
    refine content_statement hinv ?_
    unfold insertConversation
    dsimp only
    split
    · split
      · exact hsame
      · exact hsame
    · split
      · exact hinv.same ⟨rfl, rfl, rfl, rfl⟩ rfl
      · exact hsame
  | admitTask task context =>
    refine content_statement hinv ?_
    exact hinv.same ⟨rfl, rfl, rfl, rfl⟩ rfl
  | messageHeader row => simpa only [serve, query_store] using hsame
  | messageHashes row => simpa only [serve, query_store] using hsame
  | upsertAgent peer => simpa only [serve, query_store] using hsame
  | conversationByExternalRef external_id => simpa only [serve, query_store] using hsame
  | receipt key => simpa only [serve, query_store] using hsame
  | taskExists task_id => simpa only [serve, query_store] using hsame
  | getTask task_id => simpa only [serve, query_store] using hsame
  | exchange exchange_id => simpa only [serve, query_store] using hsame
  | latestEvent task_id => simpa only [serve, query_store] using hsame
  | validateTarget to_agent => simpa only [serve, busStep_store] using hsame
  | tryReserve => simpa only [serve, busStep_store] using hsame
  | emit => simpa only [serve, busStep_store] using hsame

variable [NameCrates]

/-- The rules of the content. -/
def contentRules (fs : FileSystem) : Rules server (outsideStep fs) where
  inv c := ContentInv c.1
  rely c c' := ContentRely c.1 c'.1
  met := contentMet
  metOutside := contentMetOutside
  needed k c := contentNeeded k c.1
  refl c := .refl c.1
  trans _ _ _ h h' := h.trans h'
  served k i _ hinv hmet hneeded := content_served hinv k i hmet hneeded
  beside o _ _ hinv hmet := content_outside fs hinv o hmet

/-! ### What a send knows on its way -/

omit [NameCrates] [Externals] in
/-- A header that matches is the one of a stored message. -/
theorem headerMatches_hasMessage {message : Message} {exchange_id : Uuid}
    (h : headerMatches message (messageHeader exchange_id s) = true) :
    s.hasMessage exchange_id := by
  unfold messageHeader at h
  cases hfind : s.messages.rows.find? fun m => decide (m.exchange_id = exchange_id) with
  | none =>
    rw [hfind] at h
    cases h
  | some m =>
    have hsel : decide (m.exchange_id = exchange_id) = true := by
      have hfound := List.find?_some hfind
      exact hfound
    exact ⟨m, List.mem_of_find?_eq_some hfind, of_decide_eq_true hsel⟩

omit [NameCrates] in
theorem messageMatchesOn_hasMessage {message : Message} {exchange_id : Uuid}
    (h : messageMatchesOn exchange_id message s = .ok true) : s.hasMessage exchange_id := by
  by_cases hheader : headerMatches message (messageHeader exchange_id s) = true
  · exact headerMatches_hasMessage hheader
  · simp only [messageMatchesOn, hheader] at h
    cases h

variable {fs : FileSystem} {c : Tables × List SendEvent}

theorem messageMatches_succeeds {row : ExchangeRecord} (message : Message)
    (hknown : Known row.exchange_id c.1) :
    Client.Succeeds (contentRules fs)
      (fun found c => found = true → Counted row.exchange_id row.content_bytes c.1)
      (messageMatches row message) c := by
  have hheader : Client.Succeeds (contentRules fs)
      (fun header c => headerMatches message header = true →
        Counted row.exchange_id row.content_bytes c.1) (ask (.messageHeader row)) c := by
    refine succeeds_ask ?_
    intro c' hrely hinv hmet
    refine ⟨trivial, ?_⟩
    intro i header hok hmatch
    have hread : messageHeader row.exchange_id c'.1 = header := Except.ok.inj (query_ok hok)
    have hafter : (server.after (.messageHeader row) i c').1 = c'.1 :=
      query_keeps _ _ _
    rw [hafter]
    rw [← hread] at hmatch
    obtain ⟨e, he, hid, hdir⟩ := hknown.rely hrely
    exact ⟨e, he, hid, hdir, fun hres => ⟨hmet e he hid hres, headerMatches_hasMessage hmatch⟩⟩
  unfold messageMatches
  refine hheader.bind ?_
  intro header c hcounted
  by_cases hmatch : headerMatches message header = true
  · simp only [hmatch, if_true]
    have hframe : Client.Succeeds (contentRules fs)
        (fun _ c => True ∧ Counted row.exchange_id row.content_bytes c.1)
        (ask (.messageHashes row)) c :=
      (succeeds_ask fun _ _ _ _ => ⟨trivial, fun _ _ _ => trivial⟩).frame
        (fun _ _ hf hr => hf.rely hr) (hcounted hmatch)
    refine hframe.bind ?_
    rintro hashes c ⟨-, hcounted⟩
    cases hashesMatch hashes message.parts 0 with
    | ok found => exact .pure fun _ => hcounted
    | error e => exact .throw
  · simp only [hmatch]
    exact .pure nofun

/-- The bytes that the send takes to its binding. -/
theorem prepareContent_succeeds {row : ExchangeRecord} (message : Message)
    (hknown : Known row.exchange_id c.1) :
    Client.Succeeds (contentRules fs) (fun bytes c => Counted row.exchange_id bytes c.1)
      (prepareContent row message) c := by
  unfold prepareContent
  refine ((messageMatches_succeeds message hknown).frame
    (fun _ _ hf hr => Known.rely hf hr) hknown).bind ?_
  rintro found c ⟨hcounted, hknown⟩
  cases found with
  | true =>
    simp only [if_true]
    exact .pure (hcounted rfl)
  | false =>
    by_cases hzero : row.content_bytes = 0
    · simp only [Bool.false_eq_true, if_false, hzero]
      refine succeeds_ask ?_
      intro c' hrely hinv hmet
      have hknown' : Known row.exchange_id c'.1 := hknown.rely hrely
      refine ⟨hknown', ?_⟩
      intro i bytes hok
      have hok : (statement i.answer (storeMessage row.exchange_id message i.id i.now) c'.1).1 =
        .ok bytes := hok
      have hafter : (server.after (.storeMessage row message) i c').1 =
          (storeMessage row.exchange_id message i.id i.now c'.1).2 :=
        congrArg Prod.snd (statement_ok hok)
      rw [statement_ok hok] at hok
      rw [hafter]
      obtain ⟨⟨r, s'⟩, hcall⟩ : ∃ result,
        storeMessage row.exchange_id message i.id i.now c'.1 = result := ⟨_, rfl⟩
      rw [hcall] at hok ⊢
      obtain ⟨e, he, hid, hdir⟩ := hknown'
      rcases storeMessage_cases hcall with ⟨-, err, herr⟩ | ⟨hs, hmatch, row', hrow', hr⟩ |
        ⟨total, hr, hstored⟩
      · rw [herr] at hok
        cases hok
      · have hbytes : row'.content_bytes = bytes := Except.ok.inj (hr.symm.trans hok)
        obtain rfl := exchange_unique (Table.mem_of_get hrow') he
          ((Table.key_of_get hrow').trans hid.symm)
        subst hs
        exact ⟨row', he, hid, hdir, fun _ => ⟨hbytes, messageMatchesOn_hasMessage hmatch⟩⟩
      · have htotal : total = bytes := Except.ok.inj (hr.symm.trans hok)
        subst htotal
        rw [← hid] at hstored ⊢
        exact (ContentInv.messageStored hinv he hdir (hmet e he hid) hstored).2.2
    · simp only [Bool.false_eq_true, if_false, hzero]
      exact .throw

omit [NameCrates] in
theorem reserveInbound_known {peer_id request_id request_hash context_id : String}
    {exchange_id : Uuid} {now : DateTime} {s' : Tables} {reservation : InboundReservation}
    (h : reserveInbound peer_id request_id request_hash context_id exchange_id now s =
      (.ok reservation, s')) : Known reservation.row.exchange_id s' := by
  rcases reserveInbound_cases h with ⟨e, hread, rfl, ⟨-, hr⟩ | ⟨-, hr⟩⟩ | ⟨-, -, hr⟩ |
    ⟨-, t, ht, rfl, hr⟩
  · obtain ⟨he, -, hdir, -⟩ := readRequest_some hread
    rw [Except.ok.inj hr]
    exact ⟨e, he, rfl, hdir⟩
  · cases hr
  · cases hr
  · rw [Except.ok.inj hr]
    exact ⟨_, (Table.mem_insert ht).mpr (Or.inr rfl), rfl, rfl⟩

theorem prepareSend_succeeds (endpoints : String → Option EndpointId) (peer endpoint : String)
    (params : NormalizedSend) :
    Client.Succeeds (contentRules fs)
      (fun prepared c => Counted prepared.row.exchange_id prepared.content_bytes c.1)
      (prepareSend endpoints peer endpoint params) c := by
  unfold prepareSend
  refine (succeeds_orElse fun _ _ => trivial : Client.Succeeds (contentRules fs)
    (fun _ _ => True) _ c).bind ?_
  intro task_text c _
  refine (succeeds_orElse fun _ _ => trivial : Client.Succeeds (contentRules fs)
    (fun _ _ => True) _ c).bind ?_
  intro to_agent c _
  have hreserve : Client.Succeeds (contentRules fs)
      (fun reservation c => Known (InboundReservation.row reservation).exchange_id c.1)
      (ask (.reserveInbound peer params.request_id params.hash params.context_id)) c := by
    refine succeeds_ask ?_
    intro c' _ _ _
    refine ⟨trivial, ?_⟩
    intro i reservation hok
    have hok : (statement i.answer (reserveInbound peer params.request_id params.hash
      params.context_id i.id i.now) c'.1).1 = .ok reservation := hok
    have hafter := statement_ok hok
    rw [hafter] at hok
    refine reserveInbound_known (s := c'.1) (Prod.ext hok ?_)
    exact (congrArg Prod.snd hafter).symm
  refine hreserve.bind ?_
  intro reservation c hknown
  refine (prepareContent_succeeds params.message hknown).bind ?_
  intro bytes c hcounted
  exact .pure hcounted

/-- **A send binds with the bytes that are stored.** -/
theorem handle_keeps (endpoints : String → Option EndpointId) (peer endpoint : String)
    (params : NormalizedSend) :
    (handle endpoints peer endpoint params).Keeps (contentRules fs) (fun _ _ => True) c := by
  have hfree : ∀ k c, Request.Aside k → (contentRules fs).inv c →
      (contentRules fs).needed k c := by
    intro k c haside _
    cases k with
    | storeMessage row message => exact haside.elim
    | bindTask exchange_id internal_task_id external_task_id content_bytes => exact haside.elim
    | _ => trivial
  have hsend : Client.Succeeds (contentRules fs) (fun _ _ => True)
      (send endpoints peer endpoint params) c := by
    unfold send
    refine (prepareSend_succeeds endpoints peer endpoint params).bind ?_
    intro prepared c hcounted
    -- the steps between the content and the binding leave the exchange alone
    refine ((Client.Succeeds.of_only hfree (prepareIdentity_aside peer prepared)).frame
      (fun _ _ hf hr => Counted.rely hf hr) hcounted).bind ?_
    rintro ⟨from_agent, conversation⟩ c ⟨-, hcounted⟩
    refine ((Client.Succeeds.of_only hfree (admit_aside peer prepared from_agent
      conversation)).frame (fun _ _ hf hr => Counted.rely hf hr) hcounted).bind ?_
    rintro winner c ⟨-, hcounted⟩
    unfold bindAndSnapshot
    refine (?_ : Client.Succeeds (contentRules fs) (fun _ _ => True) (bind prepared winner)
      c).bind ?_
    · unfold bind
      dsimp only
      split
      · split
        · exact .pure trivial
        · exact .throw
      · have hbind : Client.Succeeds (contentRules fs) (fun _ _ => True) (ask (.bindTask
            prepared.row.exchange_id winner (externalTaskId prepared.row.exchange_id)
            prepared.content_bytes)) c :=
          succeeds_ask fun c' hrely _ _ => ⟨hcounted.rely hrely, fun _ _ _ => trivial⟩
        refine hbind.bind ?_
        intro changed c _
        cases changed with
        | true => exact .pure trivial
        | false =>
          refine Client.Succeeds.of_only hfree (Client.Only.bindT (only_ask trivial) ?_)
          intro rebound
          refine Client.Only.bindT (only_orElse _ rebound) ?_
          intro rebound
          split
          · exact only_pure ()
          · exact only_throw _
    · intro _ c _
      refine Client.Succeeds.of_only hfree (Client.Only.bindT (only_ask trivial) ?_)
      intro bound
      exact Client.Only.bindT (only_orElse _ bound) fun bound => snapshot_aside bound
  refine Client.Keeps.bind hsend ?_
  intro r c _
  trivial

/-! ### Every run -/

/-- **The condition on a run.**  Nothing is stored for an exchange that is cleaned, and a send
that looks at the stored message of an exchange that is still reserved finds the bytes that its
reservation returned: no other copy has stored the message in between. -/
structure RegularRun (fs : FileSystem) (moves : List IngressMove) : Prop where
  stored : ∀ n index input row message next, moves[n]? = some (.advance index input) →
    (ingressAt fs moves n).procs[index]? = some (.ask (.storeMessage row message) next) →
    ∀ e ∈ (ingressAt fs moves n).store.exchanges.rows,
      e.exchange_id = row.exchange_id → e.cleanup_state ≠ .cleaned
  looked : ∀ n index input row next, moves[n]? = some (.advance index input) →
    (ingressAt fs moves n).procs[index]? = some (.ask (.messageHeader row) next) →
    ∀ e ∈ (ingressAt fs moves n).store.exchanges.rows,
      e.exchange_id = row.exchange_id → e.state = .reserved → e.content_bytes = row.content_bytes
  artifacts : ∀ n exchange_id list newId now,
    moves[n]? = some (.outside (.storeArtifacts exchange_id list newId now)) →
    ∀ e ∈ (ingressAt fs moves n).store.exchanges.rows,
      e.exchange_id = exchange_id → e.cleanup_state ≠ .cleaned

theorem RegularRun.met {moves : List IngressMove} (h : RegularRun fs moves) :
    Met (contentRules fs) Tables.empty moves := by
  constructor
  · intro n index input k next hm hp
    cases k with
    | storeMessage row message => exact h.stored n index input row message next hm hp
    | messageHeader row => exact h.looked n index input row next hm hp
    | _ => trivial
  · intro n o hm
    cases o with
    | storeArtifacts exchange_id list newId now => exact h.artifacts n exchange_id list newId now hm
    | _ => trivial

omit [Externals] [NameCrates] in
/-- What the ceiling check counts is what is stored. -/
theorem retained_eq_stored (hinv : ContentInv s) :
    (retainedTerminalBytes s).1 = (reconcileTerminals s).exchanges.sumWhere
      (fun e => decide (e.terminal_at ≠ none) && s.taskEnded e)
      (fun e => s.storedBytes e.exchange_id) := by
  obtain ⟨hinv', -⟩ := content_reconciled hinv
  refine Table.total_congr ?_
  intro e he
  have hstored : (reconcileTerminals s).storedBytes e.exchange_id = s.storedBytes e.exchange_id :=
    rfl
  have hended : (reconcileTerminals s).taskEnded e = s.taskEnded e := rfl
  unfold retained
  rw [hended]
  dsimp only
  rw [← hstored]
  by_cases hcleaned : e.cleanup_state = .cleaned
  · obtain ⟨hm, ha⟩ := hinv'.cleaned e he hcleaned
    have hzero : (reconcileTerminals s).storedBytes e.exchange_id = 0 := by
      have hmessages : (reconcileTerminals s).messageBytes e.exchange_id = 0 :=
        ownedBytes_eq_zero fun m hmem hid => hm ⟨m, hmem, hid⟩
      have hartifacts : (reconcileTerminals s).artifactBytes e.exchange_id = 0 :=
        ownedBytes_eq_zero fun a hmem hid => ha ⟨a, hmem, hid⟩
      unfold Tables.storedBytes
      omega
    rw [hzero]
    simp [hcleaned]
  · rw [hinv'.counted e he hcleaned]
    simp [hcleaned]

/-- **The content of the exchanges in every state of a regular run**: an exchange that is cleaned
has no message and no artifact, any other counts the bytes that are stored for it, and the check
of the ceiling adds up what is stored. -/
theorem content_accounting (fs : FileSystem) (moves : List IngressMove) (hsends : Sends moves)
    (hregular : RegularRun fs moves) (n : Nat) :
    let s := (ingressAt fs moves n).store
    (∀ e ∈ s.exchanges.rows, e.cleanup_state = .cleaned →
      (∀ m ∈ s.messages.rows, m.exchange_id ≠ e.exchange_id) ∧
      ∀ a ∈ s.artifacts.rows, a.exchange_id ≠ e.exchange_id) ∧
    (∀ e ∈ s.exchanges.rows, e.cleanup_state ≠ .cleaned →
      e.content_bytes = s.storedBytes e.exchange_id) ∧
    (retainedTerminalBytes s).1 = (reconcileTerminals s).exchanges.sumWhere
      (fun e => decide (e.terminal_at ≠ none) && s.taskEnded e)
      (fun e => s.storedBytes e.exchange_id) := by
  intro s
  have hstart : ∀ t, .start t ∈ moves → ∀ c, (contentRules fs).inv c →
      t.Keeps (contentRules fs) (fun _ _ => True) c := by
    intro t ht c _
    obtain ⟨endpoints, peer, endpoint, params, rfl⟩ := hsends t ht
    exact handle_keeps endpoints peer endpoint params
  have hinv : ContentInv s :=
    (clients_run (T := contentRules fs) (fun _ _ _ _ _ => trivial) ContentInv.empty hstart
      hregular.met n).1
  refine ⟨?_, hinv.counted, retained_eq_stored hinv⟩
  intro e he hcleaned
  obtain ⟨hm, ha⟩ := hinv.cleaned e he hcleaned
  exact ⟨fun m hmem hid => hm ⟨m, hmem, hid⟩, fun a hmem hid => ha ⟨a, hmem, hid⟩⟩

omit [NameCrates] in
/-- **Why the condition is there**: what is stored for an exchange that is cleaned stays, and the
exchange does not count it. -/
theorem storeMessage_cleaned (hinv : ContentInv s) {e : ExchangeRow} (he : e ∈ s.exchanges.rows)
    (hdir : e.direction = .inbound) (hcleaned : e.cleanup_state = .cleaned) {message : Message}
    {stored_id : Uuid} {now : DateTime} {total : Nat} {s' : Tables}
    (h : storeMessage e.exchange_id message stored_id now s = (.ok total, s')) :
    e ∈ s'.exchanges.rows ∧ s'.hasMessage e.exchange_id := by
  have hleft : e.state ≠ .reserved := by
    intro hres
    have hterminal := hinv.claimed e he (by rw [hcleaned]; nofun)
    exact hterminal (hinv.opened e he hdir hres).2
  rcases storeMessage_cases h with ⟨-, err, herr⟩ | ⟨-, hmatch, -⟩ | ⟨total', -, hstored⟩
  · cases herr
  · exact absurd (messageMatchesOn_hasMessage hmatch) (hinv.cleaned e he hcleaned).1
  · obtain ⟨-, row, t, parts, hid, -, ht, -, now', rfl⟩ := hstored
    refine ⟨?_, row, (Table.mem_insert ht).mpr (Or.inr rfl), hid⟩
    have hf : ∀ r : ExchangeRow, (r.counted total' now').exchange_id = r.exchange_id :=
      fun _ => rfl
    show e ∈ (s.exchanges.updateWhere
      (fun r => decide (r.exchange_id = e.exchange_id ∧ r.state = .reserved))
      (ExchangeRow.counted total' now') hf).rows
    exact Table.mem_updateWhere.2 (Or.inr ⟨he, decide_eq_false fun hsel => hleft hsel.2⟩)

end

/-! ### Two copies of a send -/

instance Reference.names : NameCrates where
  newV5OfBytes space name := GuiguBridge.Reference.newV5OfBytes space (name.map (·.toNat))

/-- A peer says hello. -/
def helloParams : NormalizedSend :=
  { profile := .a2aV030, request_id := "r", context_id := "c",
    message := { message_id := "m", role := .user, parts := [.text "hello"] } }

def helloSend : Client Request Request.Answered Reply :=
  handle (fun _ => some ⟨7⟩) "peer" "agent" helloParams

/-- A step that is answered; `id` is what it draws. -/
def helloStep (index id : Nat) : IngressMove :=
  .advance index
    { answer := .ok, id := BitVec.ofNat 128 id, event_id := BitVec.ofNat 128 id,
      now := DateTime.ofSecs 0, deadline := none, bus := .queueFull, runtime_instance := "r" }

/-- One copy reserves, looks and stores. -/
def oneCopy : List IngressMove :=
  [.start helloSend, helloStep 0 1, helloStep 0 2, helloStep 0 3]

theorem oneCopy_sends : Sends oneCopy := by
  intro t ht
  simp only [oneCopy, helloStep, List.mem_cons, List.not_mem_nil, or_false, Move.start.injEq,
    reduceCtorEq] at ht
  exact ⟨_, _, _, _, ht⟩

/-- The request that a client makes next. -/
def nextRequest : Option (Client Request Request.Answered Reply) → Option Request
  | some (.ask k _) => some k
  | _ => none

theorem oneCopy_regular : RegularRun noFiles oneCopy := by
  refine ⟨?_, ?_, ?_⟩
  · intro n index input row message next hm hp e he _
    have hpending : ∀ n < 4, ∀ e ∈ (ingressAt noFiles oneCopy n).store.exchanges.rows,
        e.cleanup_state ≠ .cleaned := by decide
    exact hpending n (List.getElem?_eq_some_iff.mp hm).1 e he
  · intro n index input row next hm hp
    match n, hm with
    | 1, _ =>
      intro e he
      exact absurd he List.not_mem_nil
    | 2, hm =>
      cases hm
      have hnext : nextRequest (ingressAt noFiles oneCopy 2).procs[0]? =
        some (.messageHeader row) := congrArg nextRequest hp
      cases hnext
      decide
    | 3, hm =>
      cases hm
      have hnext : nextRequest (ingressAt noFiles oneCopy 3).procs[0]? =
        some (.messageHeader row) := congrArg nextRequest hp
      cases hnext
  · intro n exchange_id list newId now hm
    match n, hm with
    | 0, hm => cases hm
    | 1, hm => cases hm
    | 2, hm => cases hm
    | 3, hm => cases hm

/-- What the run has stored is counted. -/
theorem content_accounting_oneCopy :
    (ingressAt noFiles oneCopy 4).store.exchanges.rows.map (·.content_bytes) = [5] ∧
      ∀ e ∈ (ingressAt noFiles oneCopy 4).store.exchanges.rows, e.cleanup_state ≠ .cleaned →
        e.content_bytes = (ingressAt noFiles oneCopy 4).store.storedBytes e.exchange_id :=
  ⟨by decide, (content_accounting noFiles oneCopy oneCopy_sends oneCopy_regular 4).2.1⟩

/-- Two copies reserve, the first one stores, and the second one finds the message and binds with
the bytes of its reservation. -/
def twoCopies : List IngressMove :=
  [.start helloSend, .start helloSend, helloStep 0 1, helloStep 1 2, helloStep 0 3,
    helloStep 0 4] ++ (List.range 15).map fun n => helloStep 1 (5 + n)

/-- **The message of five bytes is stored, the exchange is not cleaned and counts none.** -/
theorem concurrent_copies_undercount :
    Sends twoCopies ∧ ∃ e ∈ (ingressAt noFiles twoCopies 21).store.exchanges.rows,
      e.cleanup_state ≠ .cleaned ∧ e.content_bytes = 0 ∧
      (ingressAt noFiles twoCopies 21).store.storedBytes e.exchange_id = 5 := by
  refine ⟨?_, by decide +kernel⟩
  intro t ht
  have hsame : t = helloSend := by
    rcases List.mem_append.mp ht with hfirst | hrest
    · simp only [helloStep, List.mem_cons, List.not_mem_nil, or_false, Move.start.injEq,
        reduceCtorEq, or_self] at hfirst
      exact hfirst
    · obtain ⟨n, -, hn⟩ := List.mem_map.mp hrest
      cases hn
  exact ⟨_, _, _, _, hsame⟩

end A2a

end GuiguBridge

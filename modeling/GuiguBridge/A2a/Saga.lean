import GuiguBridge.A2a.Content
import GuiguBridge.Storage.Receipts

/-!
# One task for a send

A `message/send` is repeated by its peer until it is answered, and copies of it run side by side.
The exchange is found under the peer and the request, the task under the key made of both.

* `Admitted` — the receipt under a key names a task;
* `SagaInv` — one exchange for a request, **bound only to the task that its key admitted**, and
  one admission for a key;
* `SagaRely` — what a copy of a send can count on while the others run;
* `handle_replies` — what a send that succeeded has found;
* `send_convergence` — **any number of copies, with failures anywhere, admit one task and are
  answered with one identity**; the same request with another hash is a conflict.
-/

namespace GuiguBridge

open Relational Interleave

namespace A2a

/-! ### Receipts under the transport of the adapter -/

/-- The receipt under a key names the task. -/
def Admitted (db : Db) (key : String) (task_id : TaskId) : Prop :=
  ∃ r, db.transportReceipts.get ("a2a", key) = some r ∧ r.task_id = some task_id

theorem a2aReceipts_get {db db' : Db} (h : a2aReceipts db' = a2aReceipts db) (key : String) :
    db'.transportReceipts.get ("a2a", key) = db.transportReceipts.get ("a2a", key) := by
  have hmem : ∀ (db : Db) r, db.transportReceipts.get ("a2a", key) = some r ↔
      r ∈ a2aReceipts db ∧ r.external_event_id = key := by
    intro db r
    rw [Table.get_eq_some_iff]
    unfold a2aReceipts
    rw [List.mem_filter, decide_eq_true_iff]
    constructor
    · rintro ⟨hr, hkey⟩
      obtain ⟨htransport, hevent⟩ := Prod.mk.inj hkey
      exact ⟨⟨hr, htransport⟩, hevent⟩
    · rintro ⟨⟨hr, htransport⟩, hevent⟩
      exact ⟨hr, Prod.ext htransport hevent⟩
  refine Option.ext ?_
  intro r
  rw [hmem, hmem, h]

/-- The key of an event of the log. -/
def SendEvent.key : SendEvent → String
  | .admitted key _ => key

/-! ### The invariant -/

/-- What the saga reads of an exchange. -/
def ExchangeRow.saga (e : ExchangeRow) :
    Uuid × Direction × String × String × String × Option TaskId × Option String :=
  (e.exchange_id, e.direction, e.peer_id, e.request_id, e.request_hash, e.internal_task_id,
    e.external_task_id)

section

variable [Externals] [NameCrates]

/-- **One exchange for a request, one admission for a key.** -/
structure SagaInv (s : Tables) (log : List SendEvent) : Prop where
  unique : ∀ e ∈ s.exchanges.rows, ∀ e' ∈ s.exchanges.rows, e.direction = .inbound →
    e'.direction = .inbound → e.peer_id = e'.peer_id → e.request_id = e'.request_id → e = e'
  bound : ∀ e ∈ s.exchanges.rows, e.direction = .inbound → ∀ t, e.internal_task_id = some t →
    e.external_task_id = some (externalTaskId e.exchange_id) ∧
      Admitted s.db (admissionKey e.peer_id e.request_id) t
  logged : ∀ key t, .admitted key t ∈ log → Admitted s.db key t
  once : (log.map SendEvent.key).Nodup
  receipts : ∀ key r, s.db.transportReceipts.get ("a2a", key) = some r →
    ∃ t, r.task_id = some t ∧ .admitted key t ∈ log

omit [Externals] [NameCrates] in
/-- What a copy of a send can count on. -/
structure SagaRely (s s' : Tables) : Prop where
  exchanges : ∀ e ∈ s.exchanges.rows, e.direction = .inbound →
    ∃ e' ∈ s'.exchanges.rows, e'.exchange_id = e.exchange_id ∧ e'.direction = .inbound ∧
      e'.peer_id = e.peer_id ∧ e'.request_id = e.request_id ∧ e'.request_hash = e.request_hash ∧
      ∀ t, e.internal_task_id = some t →
        e'.internal_task_id = some t ∧ e'.external_task_id = e.external_task_id
  admitted : ∀ key t, Admitted s.db key t → Admitted s'.db key t

omit [Externals] [NameCrates] in
theorem SagaRely.refl (s : Tables) : SagaRely s s :=
  ⟨fun e he hdir => ⟨e, he, rfl, hdir, rfl, rfl, rfl, fun _ h => ⟨h, rfl⟩⟩, fun _ _ h => h⟩

omit [Externals] [NameCrates] in
theorem SagaRely.trans {a b c : Tables} (h : SagaRely a b) (h' : SagaRely b c) : SagaRely a c := by
  refine ⟨?_, fun key t ha => h'.admitted key t (h.admitted key t ha)⟩
  intro e he hdir
  obtain ⟨e', he', hid, hdir', hpeer, hreq, hhash, hbound⟩ := h.exchanges e he hdir
  obtain ⟨e'', he'', hid', hdir'', hpeer', hreq', hhash', hbound'⟩ := h'.exchanges e' he' hdir'
  refine ⟨e'', he'', hid'.trans hid, hdir'', hpeer'.trans hpeer, hreq'.trans hreq,
    hhash'.trans hhash, ?_⟩
  intro t ht
  obtain ⟨ht', hext⟩ := hbound t ht
  obtain ⟨ht'', hext'⟩ := hbound' t ht'
  exact ⟨ht'', hext'.trans hext⟩

/-! ### Steps that leave the inbound exchanges and the receipts as they are -/

omit [Externals] [NameCrates] in
/-- The inbound exchanges are the same to the saga. -/
structure ExchangesKept (s s' : Tables) : Prop where
  back : ∀ e' ∈ s'.exchanges.rows, e'.direction = .inbound →
    ∃ e ∈ s.exchanges.rows, e'.saga = e.saga
  forth : ∀ e ∈ s.exchanges.rows, e.direction = .inbound →
    ∃ e' ∈ s'.exchanges.rows, e'.saga = e.saga

omit [Externals] [NameCrates] in
theorem ExchangesKept.refl (s : Tables) : ExchangesKept s s :=
  ⟨fun e he _ => ⟨e, he, rfl⟩, fun e he _ => ⟨e, he, rfl⟩⟩

omit [Externals] [NameCrates] in
theorem saga_direction {e e' : ExchangeRow} (h : e'.saga = e.saga) : e'.direction = e.direction :=
  congrArg (fun x => x.2.1) h

omit [Externals] [NameCrates] in
theorem ExchangesKept.trans {a b c : Tables} (h : ExchangesKept a b) (h' : ExchangesKept b c) :
    ExchangesKept a c := by
  constructor
  · intro e'' he'' hdir
    obtain ⟨e', he', hsaga'⟩ := h'.back e'' he'' hdir
    obtain ⟨e, he, hsaga⟩ := h.back e' he' ((saga_direction hsaga').symm.trans hdir)
    exact ⟨e, he, hsaga'.trans hsaga⟩
  · intro e he hdir
    obtain ⟨e', he', hsaga⟩ := h.forth e he hdir
    obtain ⟨e'', he'', hsaga'⟩ := h'.forth e' he' ((saga_direction hsaga).trans hdir)
    exact ⟨e'', he'', hsaga'.trans hsaga⟩

omit [Externals] [NameCrates] in
theorem ExchangesKept.of_eq {s s' : Tables} (h : s'.exchanges = s.exchanges) :
    ExchangesKept s s' := by
  constructor
  · intro e' he' _
    rw [h] at he'
    exact ⟨e', he', rfl⟩
  · intro e he _
    rw [← h] at he
    exact ⟨e, he, rfl⟩

omit [Externals] [NameCrates] in
/-- An `UPDATE` that the saga does not see. -/
theorem exchangesKept_updated {s : Tables} {p : ExchangeRow → Bool}
    {f : ExchangeRow → ExchangeRow} {hf : ∀ e, (f e).exchange_id = e.exchange_id}
    (hdirection : ∀ e, (f e).direction = e.direction)
    (h : ∀ e ∈ s.exchanges.rows, p e = true → e.direction = .inbound → (f e).saga = e.saga) :
    ExchangesKept s (s.updateExchanges p f hf) := by
  constructor
  · intro e' he' hdir
    have he' : e' ∈ (s.exchanges.updateWhere p f hf).rows := he'
    rcases Table.mem_updateWhere.1 he' with ⟨e, he, hp, rfl⟩ | ⟨he, -⟩
    · exact ⟨e, he, h e he hp ((hdirection e).symm.trans hdir)⟩
    · exact ⟨e', he, rfl⟩
  · intro e he hdir
    show ∃ e' ∈ (s.exchanges.updateWhere p f hf).rows, e'.saga = e.saga
    by_cases hp : p e = true
    · exact ⟨f e, Table.mem_updateWhere.2 (Or.inl ⟨e, he, hp, rfl⟩), h e he hp hdir⟩
    · exact ⟨e, Table.mem_updateWhere.2 (Or.inr ⟨he, by simpa using hp⟩), rfl⟩

/-- **What the saga does not see.** -/
theorem SagaInv.kept {s s' : Tables} {log : List SendEvent} (hinv : SagaInv s log)
    (hexchanges : ExchangesKept s s') (hreceipts : ∀ key,
      s'.db.transportReceipts.get ("a2a", key) = s.db.transportReceipts.get ("a2a", key)) :
    SagaInv s' log ∧ SagaRely s s' := by
  have hadmitted : ∀ key t, Admitted s.db key t → Admitted s'.db key t := by
    rintro key t ⟨r, hr, ht⟩
    exact ⟨r, (hreceipts key).trans hr, ht⟩
  refine ⟨⟨?_, ?_, ?_, hinv.once, ?_⟩, ?_, hadmitted⟩
  · intro e he e' he' hdir hdir' hpeer hreq
    obtain ⟨e₁, he₁, hsaga₁⟩ := hexchanges.back e he hdir
    obtain ⟨e₂, he₂, hsaga₂⟩ := hexchanges.back e' he' hdir'
    simp only [ExchangeRow.saga, Prod.mk.injEq] at hsaga₁ hsaga₂
    obtain ⟨hid₁, hd₁, hp₁, hr₁, -⟩ := hsaga₁
    obtain ⟨hid₂, hd₂, hp₂, hr₂, -⟩ := hsaga₂
    have hsame : e₁ = e₂ := hinv.unique e₁ he₁ e₂ he₂ (hd₁.symm.trans hdir) (hd₂.symm.trans hdir')
      (hp₁.symm.trans (hpeer.trans hp₂)) (hr₁.symm.trans (hreq.trans hr₂))
    refine s'.exchanges.eq_of_key_eq he he' ?_
    rw [hid₁, hid₂, hsame]
  · intro e' he' hdir t ht
    obtain ⟨e, he, hsaga⟩ := hexchanges.back e' he' hdir
    simp only [ExchangeRow.saga, Prod.mk.injEq] at hsaga
    obtain ⟨hid, hd, hp, hr, -, hi, hx⟩ := hsaga
    obtain ⟨hext, hadm⟩ := hinv.bound e he (hd.symm.trans hdir) t (hi.symm.trans ht)
    rw [hx, hid, hp, hr]
    exact ⟨hext, hadmitted _ _ hadm⟩
  · intro key t hlog
    exact hadmitted key t (hinv.logged key t hlog)
  · intro key r hr
    rw [hreceipts] at hr
    exact hinv.receipts key r hr
  · intro e he hdir
    obtain ⟨e', he', hsaga⟩ := hexchanges.forth e he hdir
    simp only [ExchangeRow.saga, Prod.mk.injEq] at hsaga
    obtain ⟨hid, hd, hp, hr, hh, hi, hx⟩ := hsaga
    exact ⟨e', he', hid, hd.trans hdir, hp, hr, hh, fun t ht => ⟨hi.trans ht, hx⟩⟩

section

variable {s : Tables}

omit [NameCrates] in
theorem insertArtifacts_frame {exchange_id : Uuid} {newId : Nat → Uuid} {list : List Artifact}
    {ordinal total total' : Nat} {s' : Tables}
    (h : insertArtifacts exchange_id newId list ordinal total s = .ok (total', s')) :
    s'.exchanges = s.exchanges ∧ s'.db = s.db := by
  induction list generalizing ordinal total s with
  | nil =>
    obtain ⟨-, rfl⟩ := Tx.pure_ok.1 h
    exact ⟨rfl, rfl⟩
  | cons artifact rest ih =>
    simp only [insertArtifacts, Tx.bind_ok, Tx.require_ok] at h
    obtain ⟨_, _, ⟨-, rfl⟩, _, s₁, hartifact, total₁, s₂, hparts, hrest⟩ := h
    obtain ⟨t, -, rfl⟩ := insertArtifact_ok hartifact
    obtain ⟨parts, n, rfl, -, -⟩ :=
      insertParts_ok (fun _ _ => rfl) (fun _ _ _ => rfl) (fun _ => rfl) hparts
    have hframe := ih hrest
    exact hframe

omit [NameCrates] in
theorem storeArtifacts_kept (exchange_id : Uuid) (list : List Artifact) (newId : Nat → Uuid)
    (now : DateTime) :
    ExchangesKept s (storeArtifacts exchange_id list newId now s).2 ∧
      (storeArtifacts exchange_id list newId now s).2.db = s.db := by
  obtain ⟨⟨r, s'⟩, hcall⟩ : ∃ result, storeArtifacts exchange_id list newId now s = result :=
    ⟨_, rfl⟩
  rw [hcall]
  by_cases hmany : 16 < list.length
  · simp only [storeArtifacts, hmany, if_true] at hcall
    cases hcall
    exact ⟨.refl s, rfl⟩
  · simp only [storeArtifacts, hmany, if_false] at hcall
    rcases Tx.commit_cases hcall with hok | ⟨rfl, -⟩
    · simp only [Tx.bind_ok, Tx.update_ok, Tx.pure_ok] at hok
      obtain ⟨total, s₁, hinsert, _, _, ⟨-, rfl⟩, -, rfl⟩ := hok
      obtain ⟨hexchanges, hdb⟩ := insertArtifacts_frame hinsert
      refine ⟨(ExchangesKept.of_eq hexchanges).trans ?_, hdb⟩
      exact exchangesKept_updated (fun _ => rfl) fun _ _ _ _ => rfl
    · exact ⟨.refl _, rfl⟩

omit [NameCrates] [Externals] in
theorem ended_saga (e : ExchangeRow) : (s.ended e).saga = e.saga := by
  unfold Tables.ended
  split <;> rfl

omit [NameCrates] [Externals] in
theorem reconcile_kept : ExchangesKept s (reconcileTerminals s) :=
  exchangesKept_updated (fun e => saga_direction (ended_saga e)) fun e _ _ _ => ended_saga e

omit [NameCrates] in
theorem claimAll_kept (runtime : String) (now : DateTime) (candidates : List (Uuid × Nat)) :
    ExchangesKept s (claimAll runtime now candidates s).2 ∧
      (claimAll runtime now candidates s).2.db = s.db := by
  induction candidates generalizing s with
  | nil => exact ⟨.refl s, rfl⟩
  | cons candidate rest ih =>
    have hone : ExchangesKept s (claimOne runtime now candidate s).2 :=
      exchangesKept_updated (fun _ => rfl) fun _ _ _ _ => rfl
    obtain ⟨hrest, hdb⟩ := ih (s := (claimOne runtime now candidate s).2)
    exact ⟨hone.trans hrest, hdb⟩

omit [NameCrates] in
theorem cleanClaim_kept (runtime : String) (claim : CleanupClaim) (now : DateTime) :
    ExchangesKept s (cleanClaim runtime claim now s).2 ∧
      (cleanClaim runtime claim now s).2.db = s.db := by
  unfold cleanClaim
  split
  · have hdrop : ExchangesKept s (s.dropContent claim.exchange_id) := .of_eq rfl
    exact ⟨hdrop.trans (exchangesKept_updated (fun _ => rfl) fun _ _ _ _ => rfl), rfl⟩
  · exact ⟨.refl s, rfl⟩

/-- **What is written beside the sends.** -/
theorem saga_outside (fs : FileSystem) {log : List SendEvent} (hinv : SagaInv s log)
    (o : Outside) : SagaInv (outsideStep fs o s) log ∧ SagaRely s (outsideStep fs o s) := by
  have hsame : SagaInv s log ∧ SagaRely s s := ⟨hinv, .refl s⟩
  have hkept : ∀ s' : Tables, ExchangesKept s s' ∧ s'.db = s.db →
      SagaInv s' log ∧ SagaRely s s' := by
    rintro s' ⟨hexchanges, hdb⟩
    refine hinv.kept hexchanges ?_
    intro key
    rw [hdb]
  cases o with
  | bridge call =>
    simp only [outsideStep]
    split
    · rename_i hreceipts
      exact hinv.kept (.of_eq rfl) (a2aReceipts_get hreceipts)
    · exact hsame
  | reserveOutbound peer_id request_id internal_task_id context_id exchange_id now =>
    rcases reserveOutbound_cases peer_id request_id internal_task_id context_id exchange_id now s
      with h | ⟨t, ht, h⟩
    · simp only [outsideStep, h]
      exact hsame
    · simp only [outsideStep, h]
      refine hkept _ ⟨⟨?_, ?_⟩, rfl⟩
      · intro e he hdir
        rcases (Table.mem_insert ht).mp he with hold | rfl
        · exact ⟨e, hold, rfl⟩
        · cases hdir
      · intro e he _
        exact ⟨e, (Table.mem_insert ht).mpr (Or.inl he), rfl⟩
  | acknowledgeOutbound exchange_id remote_task_id working now =>
    by_cases hout : s.outbound exchange_id = true
    · simp only [outsideStep, hout, if_true]
      rcases acknowledgeOutbound_cases exchange_id remote_task_id working now s with h | h
      · rw [h]
        exact hsame
      · rw [h]
        refine hkept _ ⟨exchangesKept_updated (fun _ => rfl) ?_, rfl⟩
        intro e he hp hdir
        rw [outbound_direction hout he (of_decide_eq_true hp).1] at hdir
        cases hdir
    · simp only [outsideStep, hout]
      exact hsame
  | markAcceptanceUnknown exchange_id expected_revision now =>
    by_cases hout : s.outbound exchange_id = true
    · simp only [outsideStep, hout, if_true]
      exact hkept _ ⟨exchangesKept_updated (fun _ => rfl) fun _ _ _ _ => rfl, rfl⟩
    · simp only [outsideStep, hout]
      exact hsame
  | storeArtifacts exchange_id artifacts newId now =>
    by_cases hout : s.outbound exchange_id = true
    · simp only [outsideStep, hout, if_true]
      exact hkept _ (storeArtifacts_kept exchange_id artifacts newId now)
    · simp only [outsideStep, hout]
      exact hsame
  | projectTaskTerminal internal_task_id =>
    exact hkept _ ⟨exchangesKept_updated (fun e => saga_direction (ended_saga e))
      fun e _ _ _ => ended_saga e, rfl⟩
  | retainedTerminalBytes => exact hkept _ ⟨reconcile_kept, rfl⟩
  | claimCleanup runtime before limit now =>
    simp only [outsideStep, claimCleanup]
    split
    · exact hsame
    · obtain ⟨hclaims, hdb⟩ := claimAll_kept (s := reconcileTerminals s) runtime now
        (cleanupCandidates before limit (reconcileTerminals s))
      exact hkept _ ⟨reconcile_kept.trans hclaims, hdb⟩
  | cleanClaim runtime claim now => exact hkept _ (cleanClaim_kept runtime claim now)

/-! ### Steps of the sends -/

/-- What a send has to know. -/
def sagaNeeded : Request → Tables → Prop
  | .admitTask _ context, _ => context.transport = "a2a"
  | .bindTask exchange_id internal_task_id external_task_id _, s =>
    external_task_id = externalTaskId exchange_id ∧
      ∃ e ∈ s.exchanges.rows, e.exchange_id = exchange_id ∧ e.direction = .inbound ∧
        Admitted s.db (admissionKey e.peer_id e.request_id) internal_task_id
  | _, _ => True

/-- A new exchange. -/
theorem saga_reserveInbound {log : List SendEvent} (hinv : SagaInv s log)
    (peer_id request_id request_hash context_id : String) (exchange_id : Uuid) (now : DateTime) :
    SagaInv (reserveInbound peer_id request_id request_hash context_id exchange_id now s).2 log ∧
      SagaRely s (reserveInbound peer_id request_id request_hash context_id exchange_id now
        s).2 := by
  obtain ⟨⟨r, s'⟩, hcall⟩ : ∃ result, reserveInbound peer_id request_id request_hash context_id
    exchange_id now s = result := ⟨_, rfl⟩
  rw [hcall]
  rcases reserveInbound_cases hcall with ⟨-, -, rfl, -⟩ | ⟨-, rfl, -⟩ | ⟨hfree, t, ht, rfl, -⟩
  · exact ⟨hinv, .refl _⟩
  · exact ⟨hinv, .refl _⟩
  · have hnew := readRequest_none hfree
    refine ⟨⟨?_, ?_, hinv.logged, hinv.once, hinv.receipts⟩, ?_, fun _ _ h => h⟩
    · intro e he e' he' hdir hdir' hpeer hreq
      rcases (Table.mem_insert ht).mp he with he | rfl <;>
        rcases (Table.mem_insert ht).mp he' with he' | rfl
      · exact hinv.unique e he e' he' hdir hdir' hpeer hreq
      · exact absurd ⟨hpeer, hdir, hreq⟩ (hnew e he)
      · exact absurd ⟨hpeer.symm, hdir', hreq.symm⟩ (hnew e' he')
      · rfl
    · intro e he hdir t' ht'
      rcases (Table.mem_insert ht).mp he with he | rfl
      · exact hinv.bound e he hdir t' ht'
      · cases ht'
    · intro e he hdir
      exact ⟨e, (Table.mem_insert ht).mpr (Or.inl he), rfl, hdir, rfl, rfl, rfl,
        fun _ h => ⟨h, rfl⟩⟩

/-- A binding. -/
theorem saga_bindTask {log : List SendEvent} (hinv : SagaInv s log) {exchange_id : Uuid}
    {internal_task_id : TaskId} {external_task_id : String} (content_bytes : Nat)
    (now : DateTime)
    (hneeded : sagaNeeded (.bindTask exchange_id internal_task_id external_task_id
      content_bytes) s) :
    SagaInv (bindTask exchange_id internal_task_id external_task_id content_bytes now s).2 log ∧
      SagaRely s
        (bindTask exchange_id internal_task_id external_task_id content_bytes now s).2 := by
  obtain ⟨⟨r, s'⟩, hcall⟩ : ∃ result, bindTask exchange_id internal_task_id external_task_id
    content_bytes now s = result := ⟨_, rfl⟩
  rw [hcall]
  obtain ⟨hext, e₀, he₀, hid₀, hdir₀, hadm₀⟩ := hneeded
  rcases bindTask_cases hcall with ⟨rfl, -⟩ | ⟨-, hs'⟩
  · exact ⟨hinv, .refl _⟩
  · have hf : ∀ e : ExchangeRow, (e.boundTo internal_task_id external_task_id content_bytes
        now).exchange_id = e.exchange_id := fun _ => rfl
    have hrows : s'.exchanges = s.exchanges.updateWhere (unbound exchange_id)
        (ExchangeRow.boundTo internal_task_id external_task_id content_bytes now) hf :=
      congrArg Tables.exchanges hs'
    have hdb : s'.db = s.db := by
      rw [hs']
      rfl
    have hback : ∀ e' ∈ s'.exchanges.rows, e' ∈ s.exchanges.rows ∨
        (e₀.internal_task_id = none ∧
          e' = e₀.boundTo internal_task_id external_task_id content_bytes now) := by
      intro e' he'
      rw [hrows] at he'
      rcases Table.mem_updateWhere.1 he' with ⟨e, he, hp, rfl⟩ | ⟨he, -⟩
      · obtain ⟨hid, -, hnone, -⟩ := of_decide_eq_true hp
        obtain rfl := exchange_unique he he₀ (hid.trans hid₀.symm)
        exact Or.inr ⟨hnone, rfl⟩
      · exact Or.inl he
    refine ⟨⟨?_, ?_, ?_, hinv.once, ?_⟩, ?_, ?_⟩
    · intro e he e' he' hdir hdir' hpeer hreq
      refine s'.exchanges.eq_of_key_eq he he' ?_
      rcases hback e he with he | ⟨-, rfl⟩ <;> rcases hback e' he' with he' | ⟨-, rfl⟩
      · exact congrArg ExchangeRow.exchange_id (hinv.unique e he e' he' hdir hdir' hpeer hreq)
      · have hsame := hinv.unique e he e₀ he₀ hdir hdir₀ hpeer hreq
        rw [hsame]
        rfl
      · have hsame := hinv.unique e₀ he₀ e' he' hdir₀ hdir' hpeer hreq
        rw [← hsame]
        rfl
      · rfl
    · intro e he hdir t ht
      rw [hdb]
      rcases hback e he with he | ⟨-, rfl⟩
      · exact hinv.bound e he hdir t ht
      · obtain rfl := Option.some.inj ht
        refine ⟨?_, hadm₀⟩
        show some external_task_id = some (externalTaskId e₀.exchange_id)
        rw [hext, hid₀]
    · intro key t hlog
      rw [hdb]
      exact hinv.logged key t hlog
    · rw [hdb]
      exact hinv.receipts
    · intro e he hdir
      rw [hrows]
      by_cases hp : unbound exchange_id e = true
      · obtain ⟨-, -, hnone, -⟩ := of_decide_eq_true hp
        refine ⟨_, Table.mem_updateWhere.2 (Or.inl ⟨e, he, hp, rfl⟩), rfl, hdir, rfl, rfl, rfl,
          ?_⟩
        intro t ht
        rw [hnone] at ht
        cases ht
      · exact ⟨e, Table.mem_updateWhere.2 (Or.inr ⟨he, by simpa using hp⟩), rfl, hdir, rfl, rfl,
          rfl, fun _ h => ⟨h, rfl⟩⟩
    · intro key t h
      rw [hdb]
      exact h

omit [NameCrates] in
theorem storeMessage_kept (exchange_id : Uuid) (message : Message) (stored_id : Uuid)
    (now : DateTime) :
    ExchangesKept s (storeMessage exchange_id message stored_id now s).2 ∧
      (storeMessage exchange_id message stored_id now s).2.db = s.db := by
  obtain ⟨⟨r, s'⟩, hcall⟩ : ∃ result, storeMessage exchange_id message stored_id now s = result :=
    ⟨_, rfl⟩
  rw [hcall]
  rcases storeMessage_cases hcall with ⟨rfl, -⟩ | ⟨rfl, -⟩ | ⟨total, -, hstored⟩
  · exact ⟨.refl _, rfl⟩
  · exact ⟨.refl _, rfl⟩
  · obtain ⟨-, row, t, parts, -, -, -, -, now', rfl⟩ := hstored
    have hcontent : ExchangesKept s { s with messages := t, messageParts := parts } := .of_eq rfl
    refine ⟨hcontent.trans ?_, rfl⟩
    exact exchangesKept_updated (fun _ => rfl) fun _ _ _ _ => rfl

omit [NameCrates] in
/-- What an admission does: nothing, or a receipt with its task under a key that has none. -/
theorem admitSend_cases (i : SendInput) (task : Submission) {context : AdmissionContext}
    (hcontext : context.transport = "a2a") :
    ((admitSend i task context s).1 ≠ .ok .inserted ∧ (admitSend i task context s).2 = s) ∨
    ((admitSend i task context s).1 = .ok .inserted ∧
      s.db.transportReceipts.get ("a2a", context.external_event_id) = none ∧
      ∃ db r, (admitSend i task context s).2 = { s with db := db } ∧ r.task_id = some ⟨i.id⟩ ∧
        s.db.transportReceipts.Puts ("a2a", context.external_event_id) r
          db.transportReceipts) := by
  obtain ⟨⟨r, db'⟩, hcall⟩ : ∃ result, GuiguBridge.admitTask (i.task task).toAgentTask i.event
    i.runtime_instance (some context) s.db = result := ⟨_, rfl⟩
  cases hget : s.db.transportReceipts.get ("a2a", context.external_event_id) with
  | some row =>
    rw [← hcontext] at hget
    have hseen := admitTask_seen (i.task task).toAgentTask i.event i.runtime_instance hget
    refine Or.inl ⟨?_, ?_⟩
    · simp only [admitSend, hseen, TransportReceiptRow.answer]
      by_cases hkind : row.receipt_kind = .ordinary
      · simp [hkind]
      · simp [hkind]
    · simp only [admitSend, hseen]
  | none =>
    rw [← hcontext] at hget
    rcases admitTask_new hget hcall with ⟨rfl, hputs, -⟩ | ⟨rfl, e, rfl⟩
    · rw [hcontext] at hputs
      exact Or.inr ⟨by simp only [admitSend, hcall], rfl, db',
        boundReceipt (i.task task).toAgentTask i.event context, by simp only [admitSend, hcall],
        rfl, hputs⟩
    · refine Or.inl ⟨?_, by simp only [admitSend, hcall]⟩
      simp only [admitSend, hcall]
      nofun

/-- An admission. -/
theorem saga_admitTask {log : List SendEvent} (hinv : SagaInv s log) (i : SendInput)
    (task : Submission) {context : AdmissionContext} (hcontext : context.transport = "a2a") :
    SagaInv (statement i.answer (admitSend i task context) s).2
        (log ++ admissionLog i task context s) ∧
      SagaRely s (statement i.answer (admitSend i task context) s).2 := by
  have hnothing : SagaInv s (log ++ []) ∧ SagaRely s s := by
    rw [List.append_nil]
    exact ⟨hinv, .refl s⟩
  by_cases hfailed : i.answer = .failed
  · have hlog : admissionLog i task context s = [] := by simp [admissionLog, hfailed]
    rw [hlog, hfailed]
    exact hnothing
  · have hstore : (statement i.answer (admitSend i task context) s).2 =
        (admitSend i task context s).2 := by
      cases hanswer : i.answer with
      | ok => rfl
      | failed => exact absurd hanswer hfailed
      | lost => rfl
    rw [hstore]
    rcases admitSend_cases (s := s) i task hcontext with ⟨hne, hsame⟩ |
      ⟨hins, hfree, db, r, hdb, htask, hputs⟩
    · have hlog : admissionLog i task context s = [] := by simp [admissionLog, hne]
      rw [hlog, hsame]
      exact hnothing
    · have hlog : admissionLog i task context s =
          [.admitted context.external_event_id ⟨i.id⟩] := by simp [admissionLog, hfailed, hins]
      rw [hlog, hdb]
      have hget : db.transportReceipts.get ("a2a", context.external_event_id) = some r := by
        rw [hputs, if_pos rfl]
      have hadmitted : ∀ key t, Admitted s.db key t → Admitted db key t := by
        rintro key t ⟨r', hr', ht'⟩
        refine ⟨r', ?_, ht'⟩
        rw [hputs, if_neg]
        · exact hr'
        · intro hkey
          obtain ⟨-, rfl⟩ := Prod.mk.inj hkey
          rw [hfree] at hr'
          cases hr'
      refine ⟨⟨hinv.unique, ?_, ?_, ?_, ?_⟩, ?_, hadmitted⟩
      · intro e he hdir t ht
        obtain ⟨hext, hadm⟩ := hinv.bound e he hdir t ht
        exact ⟨hext, hadmitted _ _ hadm⟩
      · intro key t hmem
        rcases List.mem_append.mp hmem with hold | hnew
        · exact hadmitted key t (hinv.logged key t hold)
        · obtain ⟨rfl, rfl⟩ : key = context.external_event_id ∧ t = ⟨i.id⟩ := by
            simpa using hnew
          exact ⟨r, hget, htask⟩
      · -- a key that was admitted before has its receipt
        rw [List.map_append, List.nodup_append]
        refine ⟨hinv.once, List.nodup_singleton _, ?_⟩
        intro key hkey key' hkey'
        obtain ⟨⟨k, t⟩, hmem, rfl⟩ := List.mem_map.mp hkey
        have hkey' : key' = context.external_event_id := List.mem_singleton.mp hkey'
        rw [hkey']
        intro heq
        obtain ⟨r', hr', -⟩ := hinv.logged k t hmem
        have heq : k = context.external_event_id := heq
        rw [heq, hfree] at hr'
        cases hr'
      · intro key r' hr'
        have hput : (if ("a2a", key) = ("a2a", context.external_event_id) then some r
            else s.db.transportReceipts.get ("a2a", key)) = some r' := (hputs _).symm.trans hr'
        clear hr'
        split at hput
        · rename_i hkey
          obtain ⟨-, rfl⟩ := Prod.mk.inj hkey
          obtain rfl := Option.some.inj hput
          exact ⟨_, htask, List.mem_append.mpr (Or.inr (List.mem_singleton.mpr rfl))⟩
        · obtain ⟨t, ht, hmem⟩ := hinv.receipts key r' hput
          exact ⟨t, ht, List.mem_append.mpr (Or.inl hmem)⟩
      · exact (SagaRely.refl s).exchanges

/-- A statement that logs nothing. -/
theorem saga_statement {log : List SendEvent} (hinv : SagaInv s log) {α : Type} {answer : Answer}
    {f : Tables → Except A2aError α × Tables} (h : SagaInv (f s).2 log ∧ SagaRely s (f s).2) :
    SagaInv (statement answer f s).2 (log ++ []) ∧ SagaRely s (statement answer f s).2 := by
  rw [List.append_nil]
  rcases statement_store answer f s with hs | hs
  · rw [hs]
    exact ⟨hinv, .refl s⟩
  · rw [hs]
    exact h

/-- **What a send writes.** -/
theorem saga_served {log : List SendEvent} (hinv : SagaInv s log) (k : Request) (i : SendInput)
    (hneeded : sagaNeeded k s) :
    SagaInv (serve k i s).2.1 (log ++ (serve k i s).2.2) ∧ SagaRely s (serve k i s).2.1 := by
  have hsame : SagaInv s (log ++ []) ∧ SagaRely s s := by
    rw [List.append_nil]
    exact ⟨hinv, .refl s⟩
  have hkept : ∀ s' : Tables, ExchangesKept s s' ∧ s'.db = s.db →
      SagaInv s' log ∧ SagaRely s s' := by
    rintro s' ⟨hexchanges, hdb⟩
    refine hinv.kept hexchanges ?_
    intro key
    rw [hdb]
  cases k with
  | reserveInbound peer_id request_id request_hash context_id =>
    exact saga_statement hinv (saga_reserveInbound hinv peer_id request_id request_hash
      context_id i.id i.now)
  | storeMessage row message =>
    exact saga_statement hinv (hkept _ (storeMessage_kept row.exchange_id message i.id i.now))
  | bindTask exchange_id internal_task_id external_task_id content_bytes =>
    exact saga_statement hinv (saga_bindTask hinv content_bytes i.now hneeded)
  | insertConversation external_id participants =>
    refine saga_statement hinv (hkept _ ?_)
    unfold insertConversation
    dsimp only
    split
    · split
      · exact ⟨.refl s, rfl⟩
      · exact ⟨.refl s, rfl⟩
    · split
      · exact ⟨.of_eq rfl, rfl⟩
      · exact ⟨.refl s, rfl⟩
  | admitTask task context => exact saga_admitTask hinv i task hneeded
  | messageHeader row => simpa only [serve, query_store] using hsame
  | messageHashes row => simpa only [serve, query_store] using hsame
  | upsertAgent peer => simpa only [serve, query_store] using hsame
  | conversationByExternalRef external_id => simpa only [serve, query_store] using hsame
  | receipt key => simpa only [serve, query_store] using hsame
  | taskExists task_id => simpa only [serve, query_store] using hsame
  | getTask task_id => simpa only [serve, query_store] using hsame
  | exchange exchange_id => simpa only [serve, query_store] using hsame
  | latestEvent task_id => simpa only [serve, query_store] using hsame
  | validateTarget to_agent => simpa only [serve, busStep_store] using hsame
  | tryReserve => simpa only [serve, busStep_store] using hsame
  | emit => simpa only [serve, busStep_store] using hsame

end

/-- The rules of the saga; every run meets them. -/
def sagaRules (fs : FileSystem) : Rules server (outsideStep fs) where
  inv c := SagaInv c.1 c.2
  rely c c' := SagaRely c.1 c'.1
  met _ _ := True
  metOutside _ _ := True
  needed k c := sagaNeeded k c.1
  refl c := .refl c.1
  trans _ _ _ h h' := h.trans h'
  served k i _ hinv _ hneeded := saga_served hinv k i hneeded
  beside o _ _ hinv _ := saga_outside fs hinv o

/-! ### What a send knows on its way -/

omit [Externals] [NameCrates] in
/-- The exchange of a request. -/
def Mine (peer request_id hash : String) (exchange_id : Uuid) (s : Tables) : Prop :=
  ∃ e ∈ s.exchanges.rows, e.exchange_id = exchange_id ∧ e.direction = .inbound ∧
    e.peer_id = peer ∧ e.request_id = request_id ∧ e.request_hash = hash

omit [Externals] [NameCrates] in
/-- The exchange is bound. -/
def BoundTo (exchange_id : Uuid) (task_id : TaskId) (external_task_id : String)
    (s : Tables) : Prop :=
  ∃ e ∈ s.exchanges.rows, e.exchange_id = exchange_id ∧ e.direction = .inbound ∧
    e.internal_task_id = some task_id ∧ e.external_task_id = some external_task_id

omit [Externals] [NameCrates] in
theorem Mine.rely {peer request_id hash : String} {exchange_id : Uuid} {s s' : Tables}
    (h : Mine peer request_id hash exchange_id s) (hr : SagaRely s s') :
    Mine peer request_id hash exchange_id s' := by
  obtain ⟨e, he, hid, hdir, hpeer, hreq, hhash⟩ := h
  obtain ⟨e', he', hid', hdir', hpeer', hreq', hhash', -⟩ := hr.exchanges e he hdir
  exact ⟨e', he', hid'.trans hid, hdir', hpeer'.trans hpeer, hreq'.trans hreq,
    hhash'.trans hhash⟩

omit [Externals] [NameCrates] in
theorem BoundTo.rely {exchange_id : Uuid} {task_id : TaskId} {external_task_id : String}
    {s s' : Tables} (h : BoundTo exchange_id task_id external_task_id s) (hr : SagaRely s s') :
    BoundTo exchange_id task_id external_task_id s' := by
  obtain ⟨e, he, hid, hdir, hint, hext⟩ := h
  obtain ⟨e', he', hid', hdir', -, -, -, hbound⟩ := hr.exchanges e he hdir
  obtain ⟨hint', hext'⟩ := hbound task_id hint
  exact ⟨e', he', hid'.trans hid, hdir', hint', hext'.trans hext⟩

omit [Externals] [NameCrates] in
/-- A record says what the exchange is bound to. -/
def RecordTrue (row : ExchangeRecord) (s : Tables) : Prop :=
  ∀ t x, row.internal_task_id = some t → row.external_task_id = some x →
    BoundTo row.exchange_id t x s

omit [Externals] [NameCrates] in
theorem RecordTrue.rely {row : ExchangeRecord} {s s' : Tables} (h : RecordTrue row s)
    (hr : SagaRely s s') : RecordTrue row s' :=
  fun t x ht hx => (h t x ht hx).rely hr

section

variable {fs : FileSystem} {c : Tables × List SendEvent}

omit [NameCrates] in
theorem reserveInbound_mine {s s' : Tables} {peer request_id hash context_id : String}
    {exchange_id : Uuid} {now : DateTime} {reservation : InboundReservation}
    (h : reserveInbound peer request_id hash context_id exchange_id now s =
      (.ok reservation, s')) :
    Mine peer request_id hash reservation.row.exchange_id s' ∧ RecordTrue reservation.row s' := by
  rcases reserveInbound_cases h with ⟨e, hread, rfl, ⟨hhash, hr⟩ | ⟨-, hr⟩⟩ | ⟨-, -, hr⟩ |
    ⟨-, t, ht, rfl, hr⟩
  · obtain ⟨he, hpeer, hdir, hreq⟩ := readRequest_some hread
    rw [Except.ok.inj hr]
    refine ⟨⟨e, he, rfl, hdir, hpeer, hreq, hhash⟩, ?_⟩
    intro t x ht hx
    exact ⟨e, he, rfl, hdir, ht, hx⟩
  · cases hr
  · cases hr
  · rw [Except.ok.inj hr]
    refine ⟨⟨_, (Table.mem_insert ht).mpr (Or.inr rfl), rfl, rfl, rfl, rfl, rfl⟩, ?_⟩
    intro t x ht
    cases ht

/-- What is needed of the statements that do not bind. -/
theorem saga_aside (k : Request) (c : Tables × List SendEvent) (h : Request.Aside k)
    (_ : (sagaRules fs).inv c) : (sagaRules fs).needed k c := by
  cases k with
  | admitTask task context => exact h
  | bindTask exchange_id internal_task_id external_task_id content_bytes => exact h.elim
  | _ => trivial

theorem prepareContent_saga (row : ExchangeRecord) (message : Message) :
    Client.Succeeds (sagaRules fs) (fun _ _ => True) (prepareContent row message) c := by
  have hfree : ∀ k c, (∀ a b d e, k ≠ .bindTask a b d e) → (∀ t x, k ≠ .admitTask t x) →
      (sagaRules fs).inv c → (sagaRules fs).needed k c := by
    intro k c hbind hadmitting _
    cases k with
    | bindTask a b d e => exact absurd rfl (hbind a b d e)
    | admitTask t x => exact absurd rfl (hadmitting t x)
    | _ => trivial
  refine Client.Succeeds.of_only (A := fun k => (∀ a b d e, k ≠ .bindTask a b d e) ∧
    ∀ t x, k ≠ .admitTask t x) (fun k c h => hfree k c h.1 h.2) ?_
  unfold prepareContent messageMatches
  refine Client.Only.bindT (Client.Only.bindT (only_ask ⟨nofun, nofun⟩) ?_) ?_
  · intro header
    split
    · refine Client.Only.bindT (only_ask ⟨nofun, nofun⟩) ?_
      intro hashes
      split
      · exact only_pure _
      · exact only_throw _
    · exact only_pure _
  · intro found
    split
    · exact only_pure _
    · by_cases hzero : row.content_bytes = 0
      · simp only [hzero]
        exact only_ask ⟨nofun, nofun⟩
      · simp only [hzero]
        exact only_throw _

theorem prepareSend_saga (endpoints : String → Option EndpointId) (peer endpoint : String)
    (params : NormalizedSend) :
    Client.Succeeds (sagaRules fs)
      (fun prepared c => prepared.params = params ∧
        Mine peer params.request_id params.hash prepared.row.exchange_id c.1 ∧
        RecordTrue prepared.row c.1) (prepareSend endpoints peer endpoint params) c := by
  unfold prepareSend
  refine (succeeds_orElse fun _ _ => trivial : Client.Succeeds (sagaRules fs)
    (fun _ _ => True) _ c).bind ?_
  intro task_text c _
  refine (succeeds_orElse fun _ _ => trivial : Client.Succeeds (sagaRules fs)
    (fun _ _ => True) _ c).bind ?_
  intro to_agent c _
  have hreserve : Client.Succeeds (sagaRules fs)
      (fun reservation c =>
        Mine peer params.request_id params.hash (InboundReservation.row reservation).exchange_id
          c.1 ∧ RecordTrue (InboundReservation.row reservation) c.1)
      (ask (.reserveInbound peer params.request_id params.hash params.context_id)) c := by
    refine succeeds_ask ?_
    intro c' _ _ _
    refine ⟨trivial, ?_⟩
    intro i reservation hok
    have hok : (statement i.answer (reserveInbound peer params.request_id params.hash
      params.context_id i.id i.now) c'.1).1 = .ok reservation := hok
    have hafter := statement_ok hok
    rw [hafter] at hok
    refine reserveInbound_mine (s := c'.1) (Prod.ext hok ?_)
    exact (congrArg Prod.snd hafter).symm
  refine hreserve.bind ?_
  rintro reservation c hmine
  have hcontent : Client.Succeeds (sagaRules fs)
      (fun _ c => True ∧
        Mine peer params.request_id params.hash reservation.row.exchange_id c.1 ∧
        RecordTrue reservation.row c.1) (prepareContent reservation.row params.message) c :=
    (prepareContent_saga reservation.row params.message).frame
      (fun _ _ hf hr => ⟨hf.1.rely hr, hf.2.rely hr⟩) hmine
  refine hcontent.bind ?_
  rintro bytes c ⟨-, hmine, hrecord⟩
  exact .pure ⟨rfl, hmine, hrecord⟩

/-- The task that the receipt names. -/
theorem admittedTask_saga (key : String) :
    Client.Succeeds (sagaRules fs) (fun o c => ∀ t, o = some t → Admitted c.1.db key t)
      (admittedTask key) c := by
  have hreceipt : Client.Succeeds (sagaRules fs)
      (fun row c => ∀ r t, row = some r → r.task_id = some t → Admitted c.1.db key t)
      (ask (.receipt key)) c := by
    refine succeeds_ask ?_
    intro c' _ _ _
    refine ⟨trivial, ?_⟩
    rintro i row hok r t rfl ht
    have hread : c'.1.db.transportReceipts.get ("a2a", key) = some r :=
      Except.ok.inj (query_ok hok)
    have hafter : (server.after (.receipt key) i c').1 = c'.1 := query_keeps _ _ _
    rw [hafter]
    exact ⟨r, hread, ht⟩
  unfold admittedTask
  refine hreceipt.bind ?_
  intro row c hrow
  cases row with
  | none => exact .pure nofun
  | some row =>
    dsimp only
    cases htask : row.task_id with
    | none => exact .throw
    | some task_id =>
      dsimp only
      split
      · have hexists : Client.Succeeds (sagaRules fs)
            (fun _ c => True ∧ Admitted c.1.db key task_id) (ask (.taskExists task_id)) c :=
          (succeeds_ask fun _ _ _ _ => ⟨trivial, fun _ _ _ => trivial⟩).frame
            (fun _ _ hf hr => SagaRely.admitted hr _ _ hf) (hrow row task_id rfl htask)
        refine hexists.bind ?_
        rintro found c ⟨-, hadmitted⟩
        split
        · refine .pure ?_
          rintro t ht
          obtain rfl := Option.some.inj ht
          exact hadmitted
        · exact .throw
      · exact .throw

theorem admit_saga (peer : String) (prepared : PreparedSend) (from_agent : EndpointId)
    (conversation : ConversationRow) :
    Client.Succeeds (sagaRules fs)
      (fun winner c => Admitted c.1.db (admissionKey peer prepared.params.request_id) winner)
      (admitPrepared peer prepared from_agent conversation) c := by
  unfold admitPrepared
  refine (Client.Succeeds.of_only saga_aside (admittedTask_aside _)).bind ?_
  intro existing c _
  refine (Client.Succeeds.of_only saga_aside ?_ : Client.Succeeds (sagaRules fs)
    (fun _ _ => True) _ c).bind ?_
  · cases existing with
    | some task_id => exact only_pure ()
    | none => exact submit_aside _ rfl
  intro _ c _
  refine (admittedTask_saga _).bind ?_
  intro winner c hwinner
  refine (succeeds_orElse (fun t ht => hwinner t ht) : Client.Succeeds (sagaRules fs)
    (fun t c => Admitted c.1.db (admissionKey peer prepared.params.request_id) t) _ c).bind ?_
  intro winner c hadmitted
  have htask : Client.Succeeds (sagaRules fs)
      (fun _ c => True ∧
        Admitted c.1.db (admissionKey peer prepared.params.request_id) winner)
      (orFail (storage .admission) (ask (.getTask winner))) c :=
    (succeeds_orFail (succeeds_ask fun _ _ _ _ => ⟨trivial, fun _ _ _ => trivial⟩)).frame
      (fun _ _ hf hr => SagaRely.admitted hr _ _ hf) hadmitted
  refine htask.bind ?_
  rintro task c ⟨-, hadmitted⟩
  refine (succeeds_orElse fun _ _ => hadmitted : Client.Succeeds (sagaRules fs)
    (fun _ c => Admitted c.1.db (admissionKey peer prepared.params.request_id) winner) _ c).bind ?_
  intro task c hadmitted
  split
  · exact .pure hadmitted
  · exact .throw

omit [NameCrates] in
/-- A binding that took effect. -/
theorem bindTask_bound {s : Tables} {exchange_id : Uuid} {task_id : TaskId}
    {external_task_id : String} {content_bytes : Nat} {i : SendInput}
    (hinbound : ∃ e ∈ s.exchanges.rows, e.exchange_id = exchange_id ∧ e.direction = .inbound)
    (hok : (serve (.bindTask exchange_id task_id external_task_id content_bytes) i s).1 =
      .ok true) :
    BoundTo exchange_id task_id external_task_id
      (serve (.bindTask exchange_id task_id external_task_id content_bytes) i s).2.1 := by
  have hok : (statement i.answer (bindTask exchange_id task_id external_task_id content_bytes
    i.now) s).1 = .ok true := hok
  show BoundTo exchange_id task_id external_task_id (statement i.answer (bindTask exchange_id
    task_id external_task_id content_bytes i.now) s).2
  have hafter := statement_ok hok
  rw [hafter] at hok ⊢
  obtain ⟨⟨r, s'⟩, hcall⟩ : ∃ result, bindTask exchange_id task_id external_task_id
    content_bytes i.now s = result := ⟨_, rfl⟩
  rw [hcall] at hok ⊢
  rcases bindTask_cases hcall with ⟨-, e, rfl⟩ | ⟨hr, rfl⟩
  · cases hok
  · have hone : s.exchanges.affected (unbound exchange_id) = 1 :=
      of_decide_eq_true (Except.ok.inj (hr.symm.trans hok))
    obtain ⟨e, hget, hp⟩ := (Table.affected_eq_one_iff (k := exchange_id)
      (fun e he => (of_decide_eq_true he).1)).mp hone
    obtain ⟨e', he', hid', hdir'⟩ := hinbound
    have hsame : e' = e := s.exchanges.eq_of_key_eq he' (Table.mem_of_get hget)
      (hid'.trans (Table.key_of_get hget).symm)
    have hf : ∀ e : ExchangeRow, (e.boundTo task_id external_task_id content_bytes
      i.now).exchange_id = e.exchange_id := fun _ => rfl
    have hid : e.exchange_id = exchange_id := Table.key_of_get hget
    refine ⟨e.boundTo task_id external_task_id content_bytes i.now, ?_, hid, ?_, rfl, rfl⟩
    · show e.boundTo task_id external_task_id content_bytes i.now ∈
        (s.exchanges.updateWhere (unbound exchange_id) _ hf).rows
      exact Table.mem_updateWhere.2 (Or.inl ⟨e, Table.mem_of_get hget, hp, rfl⟩)
    · rw [hsame] at hdir'
      exact hdir'

/-- What is read of the exchange. -/
theorem exchange_saga {peer request_id hash : String} {exchange_id : Uuid}
    (hmine : Mine peer request_id hash exchange_id c.1) :
    Client.Succeeds (sagaRules fs)
      (fun o c => ∀ row, o = some row → RecordTrue row c.1 ∧ row.exchange_id = exchange_id)
      (ask (.exchange exchange_id)) c := by
  refine succeeds_ask ?_
  intro c' hrely _ _
  refine ⟨trivial, ?_⟩
  rintro i o hok row rfl
  have hread : (c'.1.exchanges.get exchange_id).map ExchangeRow.decode = some row :=
    Except.ok.inj (query_ok hok)
  have hafter : (server.after (.exchange exchange_id) i c').1 = c'.1 := query_keeps _ _ _
  rw [hafter]
  obtain ⟨e, hget, rfl⟩ := Option.map_eq_some_iff.mp hread
  obtain ⟨e', he', hid', hdir', -⟩ := hmine.rely hrely
  have hsame : e' = e := c'.1.exchanges.eq_of_key_eq he' (Table.mem_of_get hget)
    (hid'.trans (Table.key_of_get hget).symm)
  rw [hsame] at hdir'
  have hid : e.exchange_id = exchange_id := Table.key_of_get hget
  refine ⟨?_, hid⟩
  intro t x ht hx
  exact ⟨e, Table.mem_of_get hget, rfl, hdir', ht, hx⟩

/-- The exchange is bound to the task that was admitted. -/
theorem bind_saga {peer hash : String} {prepared : PreparedSend} {winner : TaskId}
    (hmine : Mine peer prepared.params.request_id hash prepared.row.exchange_id c.1)
    (hrecord : RecordTrue prepared.row c.1)
    (hadmitted : Admitted c.1.db (admissionKey peer prepared.params.request_id) winner) :
    Client.Succeeds (sagaRules fs)
      (fun _ c => BoundTo prepared.row.exchange_id winner
        (externalTaskId prepared.row.exchange_id) c.1) (bind prepared winner) c := by
  unfold bind
  dsimp only
  split
  · split
    · rename_i hbound
      exact .pure (hrecord _ _ hbound.1 hbound.2)
    · exact .throw
  · have hbind : Client.Succeeds (sagaRules fs)
        (fun changed c => (changed = true → BoundTo prepared.row.exchange_id winner
            (externalTaskId prepared.row.exchange_id) c.1) ∧
          Mine peer prepared.params.request_id hash prepared.row.exchange_id c.1)
        (ask (.bindTask prepared.row.exchange_id winner
          (externalTaskId prepared.row.exchange_id) prepared.content_bytes)) c := by
      refine Client.Succeeds.frame (fun _ _ hf hr => Mine.rely hf hr) (succeeds_ask ?_) hmine
      intro c' hrely _ _
      have hrely : SagaRely c.1 c'.1 := hrely
      obtain ⟨e, he, hid, hdir, hpeer, hreq, -⟩ := hmine.rely hrely
      have hadm := hrely.admitted _ _ hadmitted
      rw [← hpeer, ← hreq] at hadm
      refine ⟨⟨rfl, e, he, hid, hdir, hadm⟩, ?_⟩
      rintro i changed hok rfl
      exact bindTask_bound ⟨e, he, hid, hdir⟩ hok
    refine hbind.bind ?_
    rintro changed c ⟨hchanged, hmine⟩
    split
    · rename_i htrue
      exact .pure (hchanged htrue)
    · refine (exchange_saga hmine).bind ?_
      intro rebound c hrebound
      refine (succeeds_orElse (fun row hrow => hrebound row hrow) : Client.Succeeds
        (sagaRules fs) (fun row c => RecordTrue row c.1 ∧
          row.exchange_id = prepared.row.exchange_id) _ c).bind ?_
      rintro row c ⟨htrue, hid⟩
      split
      · rename_i hbound
        have hboundTo := htrue _ _ hbound.1 hbound.2
        rw [hid] at hboundTo
        exact .pure hboundTo
      · exact .throw

/-- A snapshot carries the identity that the exchange is bound to. -/
theorem snapshot_saga {row : ExchangeRecord} (hrecord : RecordTrue row c.1) :
    Client.Succeeds (sagaRules fs)
      (fun snap c => ∃ t, BoundTo row.exchange_id t (TaskSnapshot.id snap) c.1)
      (snapshot row) c := by
  unfold snapshot
  refine (succeeds_orElse (fun t ht => ⟨ht, hrecord⟩) : Client.Succeeds (sagaRules fs)
    (fun t c => row.internal_task_id = some t ∧ RecordTrue row c.1) _ c).bind ?_
  rintro task_id c ⟨htask, hrecord⟩
  have hevent : Client.Succeeds (sagaRules fs) (fun _ c => True ∧ RecordTrue row c.1)
      (orFail (storage .snapshot) (ask (.latestEvent task_id))) c :=
    (succeeds_orFail (succeeds_ask fun _ _ _ _ => ⟨trivial, fun _ _ _ => trivial⟩)).frame
      (fun _ _ hf hr => RecordTrue.rely hf hr) hrecord
  refine hevent.bind ?_
  rintro event c ⟨-, hrecord⟩
  refine (succeeds_orElse (fun x hx => ⟨task_id, hrecord task_id x htask hx⟩) :
    Client.Succeeds (sagaRules fs) (fun x c => ∃ t, BoundTo row.exchange_id t x c.1) _ c).bind ?_
  intro id c hbound
  exact .pure hbound

/-- What the peer of a send that succeeded is told. -/
def Told (peer request_id hash : String) (snap : TaskSnapshot) (s : Tables) : Prop :=
  ∃ exchange_id t, Mine peer request_id hash exchange_id s ∧ BoundTo exchange_id t snap.id s

omit [Externals] [NameCrates] in
theorem Told.rely {peer request_id hash : String} {snap : TaskSnapshot} {s s' : Tables}
    (h : Told peer request_id hash snap s) (hr : SagaRely s s') :
    Told peer request_id hash snap s' := by
  obtain ⟨exchange_id, t, hmine, hbound⟩ := h
  exact ⟨exchange_id, t, hmine.rely hr, hbound.rely hr⟩

theorem bindAndSnapshot_saga {peer hash : String} {prepared : PreparedSend} {winner : TaskId}
    (hmine : Mine peer prepared.params.request_id hash prepared.row.exchange_id c.1)
    (hrecord : RecordTrue prepared.row c.1)
    (hadmitted : Admitted c.1.db (admissionKey peer prepared.params.request_id) winner) :
    Client.Succeeds (sagaRules fs)
      (fun snap c => Told peer prepared.params.request_id hash snap c.1)
      (bindAndSnapshot prepared winner) c := by
  unfold bindAndSnapshot
  refine ((bind_saga hmine hrecord hadmitted).frame (fun _ _ hf hr => Mine.rely hf hr)
    hmine).bind ?_
  rintro _ c ⟨-, hmine⟩
  refine ((exchange_saga hmine).frame (fun _ _ hf hr => Mine.rely hf hr) hmine).bind ?_
  rintro o c ⟨hrows, hmine⟩
  refine (succeeds_orElse (fun row hrow => ⟨hrows row hrow, hmine⟩) : Client.Succeeds
    (sagaRules fs) (fun row c => (RecordTrue row c.1 ∧ row.exchange_id =
      prepared.row.exchange_id) ∧ Mine peer prepared.params.request_id hash
        prepared.row.exchange_id c.1) _ c).bind ?_
  rintro row c ⟨⟨hrecord, hid⟩, hmine⟩
  refine ((snapshot_saga hrecord).frame (fun _ _ hf hr => Mine.rely hf hr) hmine).imp ?_
  rintro snap c ⟨⟨t, hbound⟩, hmine⟩
  rw [hid] at hbound
  exact ⟨prepared.row.exchange_id, t, hmine, hbound⟩

theorem send_saga (endpoints : String → Option EndpointId) (peer endpoint : String)
    (params : NormalizedSend) :
    Client.Succeeds (sagaRules fs)
      (fun snap c => Told peer params.request_id params.hash snap c.1)
      (send endpoints peer endpoint params) c := by
  unfold send
  refine (prepareSend_saga endpoints peer endpoint params).bind ?_
  rintro prepared c ⟨rfl, hprepared⟩
  have hkept : ∀ c c' : Tables × List SendEvent,
      (Mine peer prepared.params.request_id prepared.params.hash prepared.row.exchange_id c.1 ∧
        RecordTrue prepared.row c.1) → SagaRely c.1 c'.1 →
      Mine peer prepared.params.request_id prepared.params.hash prepared.row.exchange_id c'.1 ∧
        RecordTrue prepared.row c'.1 :=
    fun _ _ hf hr => ⟨hf.1.rely hr, hf.2.rely hr⟩
  refine ((Client.Succeeds.of_only saga_aside (prepareIdentity_aside peer prepared)).frame hkept
    hprepared).bind ?_
  rintro ⟨from_agent, conversation⟩ c ⟨-, hprepared⟩
  refine ((admit_saga peer prepared from_agent conversation).frame hkept hprepared).bind ?_
  rintro winner c ⟨hadmitted, hmine, hrecord⟩
  exact bindAndSnapshot_saga hmine hrecord hadmitted

/-- **What a send that succeeded has found.** -/
theorem handle_replies (endpoints : String → Option EndpointId) (peer endpoint : String)
    (params : NormalizedSend) :
    (handle endpoints peer endpoint params).Keeps (sagaRules fs)
      (fun reply c => ∀ snap, reply.result = .ok snap →
        Told reply.peer reply.request_id reply.request_hash snap c.1) c := by
  unfold handle
  refine Client.Keeps.bind (send_saga endpoints peer endpoint params) ?_
  intro result c hresult snap hsnap
  exact hresult snap hsnap

/-! ### A request under another hash -/

/-- A send asks for its exchange first, and ends with the error that it is answered. -/
theorem handle_asks {endpoints : String → Option EndpointId} {peer endpoint : String}
    {params : NormalizedSend} {text : String} {to_agent : EndpointId}
    (htext : textParts params.message.parts = some text)
    (htarget : endpoints endpoint = some to_agent) :
    ∃ next, handle endpoints peer endpoint params =
        .ask (.reserveInbound peer params.request_id params.hash params.context_id) next ∧
      ∀ error, next (.error error) =
        .done ⟨peer, params.request_id, params.hash, .error error⟩ := by
  unfold handle send prepareSend
  rw [htext, htarget]
  exact ⟨_, rfl, fun _ => rfl⟩

/-- What is refused before any statement. -/
theorem handle_refuses {endpoints : String → Option EndpointId} {peer endpoint : String}
    {params : NormalizedSend}
    (h : textParts params.message.parts = none ∨ endpoints endpoint = none) :
    ∃ error, handle endpoints peer endpoint params =
      .done ⟨peer, params.request_id, params.hash, .error error⟩ := by
  unfold handle send prepareSend
  cases htext : textParts params.message.parts with
  | none => exact ⟨_, rfl⟩
  | some text =>
    cases htarget : endpoints endpoint with
    | none => exact ⟨_, rfl⟩
    | some to_agent =>
      rw [htext, htarget] at h
      rcases h with h | h
      · cases h
      · cases h

omit [NameCrates] in
/-- **An exchange under another hash is a conflict.** -/
theorem reserveInbound_conflict {s : Tables} {e : ExchangeRow} {request_hash : String}
    (hunique : ∀ e ∈ s.exchanges.rows, ∀ e' ∈ s.exchanges.rows, e.direction = .inbound →
      e'.direction = .inbound → e.peer_id = e'.peer_id → e.request_id = e'.request_id → e = e')
    (he : e ∈ s.exchanges.rows) (hdir : e.direction = .inbound)
    (hhash : e.request_hash ≠ request_hash) (context_id : String) (exchange_id : Uuid)
    (now : DateTime) :
    reserveInbound e.peer_id e.request_id request_hash context_id exchange_id now s =
      (.error .conflict, s) := by
  obtain ⟨⟨r, s'⟩, hcall⟩ : ∃ result, reserveInbound e.peer_id e.request_id request_hash
    context_id exchange_id now s = result := ⟨_, rfl⟩
  rw [hcall]
  have hnone : readRequest e.peer_id .inbound e.request_id s ≠ none := by
    intro hread
    exact readRequest_none hread e he ⟨rfl, hdir, rfl⟩
  rcases reserveInbound_cases hcall with ⟨e', hread, rfl, ⟨hsame, -⟩ | ⟨-, rfl⟩⟩ | ⟨hread, -⟩ |
    ⟨hread, -⟩
  · obtain ⟨he', hpeer, hdir', hreq⟩ := readRequest_some hread
    rw [hunique e he e' he' hdir hdir' hpeer.symm hreq.symm, hsame] at hhash
    exact absurd rfl hhash
  · rfl
  · exact absurd hread hnone
  · exact absurd hread hnone

omit [NameCrates] in
/-- However the statement is answered, it changes nothing. -/
theorem serve_conflict {s : Tables} {e : ExchangeRow} {request_hash : String}
    (hunique : ∀ e ∈ s.exchanges.rows, ∀ e' ∈ s.exchanges.rows, e.direction = .inbound →
      e'.direction = .inbound → e.peer_id = e'.peer_id → e.request_id = e'.request_id → e = e')
    (he : e ∈ s.exchanges.rows) (hdir : e.direction = .inbound)
    (hhash : e.request_hash ≠ request_hash) (context_id : String) (i : SendInput) :
    ∃ error, serve (.reserveInbound e.peer_id e.request_id request_hash context_id) i s =
        (.error error, s, []) ∧ (i.answer = .ok → error = .conflict) := by
  have hcall := reserveInbound_conflict hunique he hdir hhash context_id i.id i.now
  simp only [serve, statement, hcall]
  cases i.answer with
  | ok => exact ⟨_, rfl, fun _ => rfl⟩
  | failed => exact ⟨_, rfl, fun h => by cases h⟩
  | lost => exact ⟨_, rfl, fun h => by cases h⟩

/-! ### The convergence of the copies -/

/-- The exchanges of a request. -/
def Tables.inboundOf (s : Tables) (peer request_id : String) : List ExchangeRow :=
  s.exchanges.rows.filter fun e =>
    decide (e.direction = .inbound ∧ e.peer_id = peer ∧ e.request_id = request_id)

/-- The admissions under a key. -/
def admissionsOf (log : List SendEvent) (key : String) : List SendEvent :=
  log.filter fun event => decide (event.key = key)

omit [Externals] [NameCrates] in
theorem mem_inboundOf {s : Tables} {peer request_id : String} {e : ExchangeRow} :
    e ∈ s.inboundOf peer request_id ↔
      e ∈ s.exchanges.rows ∧ e.direction = .inbound ∧ e.peer_id = peer ∧
        e.request_id = request_id := by
  unfold Tables.inboundOf
  rw [List.mem_filter, decide_eq_true_iff]

omit [Externals] [NameCrates] in
theorem inboundOf_nodup (s : Tables) (peer request_id : String) :
    (s.inboundOf peer request_id).Nodup :=
  (List.Nodup.of_map _ s.exchanges.nodup).filter _

/-- One exchange for a request. -/
theorem SagaInv.inboundOf_eq {s : Tables} {log : List SendEvent} (hinv : SagaInv s log)
    {peer request_id : String} {e : ExchangeRow} (he : e ∈ s.inboundOf peer request_id) :
    s.inboundOf peer request_id = [e] := by
  by_contra hne
  rcases ((inboundOf_nodup s peer request_id).ne_singleton_iff e).mp hne with hnil |
    ⟨e', he', hdiffer⟩
  · rw [hnil] at he
    exact absurd he List.not_mem_nil
  · obtain ⟨he, hdir, hpeer, hreq⟩ := mem_inboundOf.1 he
    obtain ⟨he', hdir', hpeer', hreq'⟩ := mem_inboundOf.1 he'
    exact hdiffer (hinv.unique e' he' e he hdir' hdir (hpeer'.trans hpeer.symm)
      (hreq'.trans hreq.symm))

/-- One admission for a key. -/
theorem SagaInv.admissionsOf_eq {s : Tables} {log : List SendEvent} (hinv : SagaInv s log)
    {event : SendEvent} (hmem : event ∈ log) : admissionsOf log event.key = [event] := by
  by_contra hne
  have hnodup : (admissionsOf log event.key).Nodup := (List.Nodup.of_map _ hinv.once).filter _
  rcases (hnodup.ne_singleton_iff event).mp hne with hnil | ⟨other, hother, hdiffer⟩
  · exact List.filter_eq_nil_iff.mp hnil event hmem (decide_eq_true rfl)
  · obtain ⟨hother, hkey⟩ := List.mem_filter.mp hother
    exact hdiffer (List.inj_on_of_nodup_map hinv.once hother hmem (of_decide_eq_true hkey))

/-- What a peer is told is the identity of the one exchange, bound to the one task. -/
theorem SagaInv.told {s : Tables} {log : List SendEvent} (hinv : SagaInv s log)
    {peer request_id hash : String} {snap : TaskSnapshot} (h : Told peer request_id hash snap s) :
    ∃ e t, s.inboundOf peer request_id = [e] ∧ e.request_hash = hash ∧
      e.internal_task_id = some t ∧ e.external_task_id = some snap.id ∧
      snap.id = externalTaskId e.exchange_id ∧
      Admitted s.db (admissionKey peer request_id) t ∧
      admissionsOf log (admissionKey peer request_id) =
        [.admitted (admissionKey peer request_id) t] := by
  obtain ⟨exchange_id, t, ⟨e, he, hid, hdir, hpeer, hreq, hhash⟩, e', he', hid', -, hint, hext⟩ := h
  obtain rfl : e' = e := s.exchanges.eq_of_key_eq he' he (hid'.trans hid.symm)
  obtain ⟨hexternal, hadmitted⟩ := hinv.bound e' he hdir t hint
  rw [hpeer, hreq] at hadmitted
  obtain ⟨r, hget, htask⟩ := hadmitted
  obtain ⟨t', htask', hmem⟩ := hinv.receipts _ r hget
  obtain rfl : t' = t := Option.some.inj (htask'.symm.trans htask)
  exact ⟨e', t', hinv.inboundOf_eq (mem_inboundOf.2 ⟨he, hdir, hpeer, hreq⟩), hhash, hint, hext,
    Option.some.inj (hext.symm.trans hexternal), ⟨r, hget, htask⟩, hinv.admissionsOf_eq hmem⟩

section

variable (fs : FileSystem) (moves : List IngressMove) (hsends : Sends moves) (n : Nat)

include hsends in
/-- Every run of sends keeps the saga. -/
theorem saga_run : SagaInv (ingressAt fs moves n).store (ingressAt fs moves n).log ∧
    ∀ reply, .done reply ∈ (ingressAt fs moves n).procs → ∀ snap, reply.result = .ok snap →
      Told reply.peer reply.request_id reply.request_hash snap (ingressAt fs moves n).store := by
  have hstable : ∀ (reply : Reply) (c c' : Tables × List SendEvent),
      (∀ snap, reply.result = .ok snap →
        Told reply.peer reply.request_id reply.request_hash snap c.1) →
      SagaRely c.1 c'.1 → ∀ snap, reply.result = .ok snap →
        Told reply.peer reply.request_id reply.request_hash snap c'.1 :=
    fun _ _ _ h hr snap hsnap => (h snap hsnap).rely hr
  have hinit : SagaInv Tables.empty [] := by
    refine ⟨?_, ?_, ?_, List.nodup_nil, ?_⟩
    · exact fun e he => absurd he List.not_mem_nil
    · exact fun e he => absurd he List.not_mem_nil
    · exact fun key t ht => absurd ht List.not_mem_nil
    · intro key r hr
      cases hr
  have hstart : ∀ t, .start t ∈ moves → ∀ c, (sagaRules fs).inv c →
      t.Keeps (sagaRules fs) (fun reply c => ∀ snap, reply.result = .ok snap →
        Told reply.peer reply.request_id reply.request_hash snap c.1) c := by
    intro t ht c _
    obtain ⟨endpoints, peer, endpoint, params, rfl⟩ := hsends t ht
    exact handle_replies endpoints peer endpoint params
  obtain ⟨hinv, hkeeps⟩ := clients_run (T := sagaRules fs) hstable hinit hstart
    ⟨fun _ _ _ _ _ _ _ => trivial, fun _ _ _ => trivial⟩ n
  exact ⟨hinv, fun reply hreply => hkeeps _ hreply⟩

include hsends in
/-- **A request under another hash is a conflict and changes nothing**, in whatever state its
send finds the store. -/
theorem conflict_run {index : Nat} {input : SendInput} {endpoints : String → Option EndpointId}
    {peer endpoint : String} {params : NormalizedSend} {e : ExchangeRow}
    (hmove : moves[n]? = some (.advance index input))
    (hproc : (ingressAt fs moves n).procs[index]? =
      some (handle endpoints peer endpoint params))
    (he : e ∈ (ingressAt fs moves n).store.inboundOf peer params.request_id)
    (hhash : e.request_hash ≠ params.hash) :
    (ingressAt fs moves (n + 1)).store = (ingressAt fs moves n).store ∧
    (ingressAt fs moves (n + 1)).log = (ingressAt fs moves n).log ∧
    ∃ error, (ingressAt fs moves (n + 1)).procs[index]? =
        some (.done ⟨peer, params.request_id, params.hash, .error error⟩) ∧
      (input.answer = .ok → textParts params.message.parts ≠ none → endpoints endpoint ≠ none →
        error = .conflict) := by
  have hsucc : ingressAt fs moves (n + 1) =
      (ingressSystem fs).move (ingressAt fs moves n) (.advance index input) :=
    System.worldAt_succ hmove
  rw [hsucc, System.move_advance_some hproc]
  have hlt : index < (ingressAt fs moves n).procs.length :=
    (List.getElem?_eq_some_iff.mp hproc).1
  obtain ⟨hmem, hdir, hpeer, hreq⟩ := mem_inboundOf.1 he
  have hquiet : ∀ (t : Client Request Request.Answered Reply) (error : A2aError),
      (ingressSystem fs).advance index input t (ingressAt fs moves n).store =
        (.done ⟨peer, params.request_id, params.hash, .error error⟩,
          (ingressAt fs moves n).store, []) →
      ((ingressSystem fs).advance index input t (ingressAt fs moves n).store).2.1 =
          (ingressAt fs moves n).store ∧
        (ingressAt fs moves n).log ++
          ((ingressSystem fs).advance index input t (ingressAt fs moves n).store).2.2 =
          (ingressAt fs moves n).log ∧
        ((ingressAt fs moves n).procs.set index
          ((ingressSystem fs).advance index input t (ingressAt fs moves n).store).1)[index]? =
          some (.done ⟨peer, params.request_id, params.hash, .error error⟩) := by
    intro t error h
    rw [h, List.append_nil]
    exact ⟨rfl, rfl, List.getElem?_set_self hlt⟩
  by_cases hrefused : textParts params.message.parts = none ∨ endpoints endpoint = none
  · obtain ⟨error, hdone⟩ : ∃ error, handle endpoints peer endpoint params =
        .done ⟨peer, params.request_id, params.hash, .error error⟩ := handle_refuses hrefused
    rw [hdone]
    obtain ⟨hstore, hlog, hend⟩ :=
      hquiet (.done ⟨peer, params.request_id, params.hash, .error error⟩) error rfl
    refine ⟨hstore, hlog, error, hend, ?_⟩
    intro _ htext htarget
    exact absurd hrefused (not_or.mpr ⟨htext, htarget⟩)
  · obtain ⟨htext, htarget⟩ := not_or.mp hrefused
    obtain ⟨text, htext⟩ := Option.ne_none_iff_exists'.mp htext
    obtain ⟨to_agent, htarget⟩ := Option.ne_none_iff_exists'.mp htarget
    obtain ⟨next, hasks, hnext⟩ : ∃ next, handle endpoints peer endpoint params =
          .ask (.reserveInbound peer params.request_id params.hash params.context_id) next ∧
        ∀ error, next (.error error) =
          .done ⟨peer, params.request_id, params.hash, .error error⟩ :=
      handle_asks htext htarget
    obtain ⟨error, hserve, hconflict⟩ := serve_conflict (saga_run fs moves hsends n).1.unique
      hmem hdir hhash params.context_id input
    rw [hpeer, hreq] at hserve
    rw [hasks]
    have hadvance : (ingressSystem fs).advance index input
        (.ask (.reserveInbound peer params.request_id params.hash params.context_id) next)
        (ingressAt fs moves n).store =
        (.done ⟨peer, params.request_id, params.hash, .error error⟩,
          (ingressAt fs moves n).store, []) := by
      show (next (serve _ input (ingressAt fs moves n).store).1,
        (serve _ input (ingressAt fs moves n).store).2) = _
      rw [hserve, hnext]
    obtain ⟨hstore, hlog, hend⟩ := hquiet _ error hadvance
    exact ⟨hstore, hlog, error, hend, fun hok _ _ => hconflict hok⟩

end

/-- **The copies of a send converge.**  Whatever fails on the way and however the copies
interleave: a request has one exchange and its key one admission; each send that succeeded was
answered with the identity of that exchange, which is bound to the task that was admitted; and a
request under another hash is a conflict that changes nothing. -/
theorem send_convergence (fs : FileSystem) (moves : List IngressMove) (hsends : Sends moves)
    (n : Nat) :
    let w := ingressAt fs moves n
    (∀ peer request_id, (w.store.inboundOf peer request_id).length ≤ 1) ∧
    (∀ key, (admissionsOf w.log key).length ≤ 1) ∧
    (∀ reply snap, .done reply ∈ w.procs → reply.result = .ok snap →
      ∃ e t, w.store.inboundOf reply.peer reply.request_id = [e] ∧
        e.request_hash = reply.request_hash ∧ e.internal_task_id = some t ∧
        e.external_task_id = some snap.id ∧ snap.id = externalTaskId e.exchange_id ∧
        Admitted w.store.db (admissionKey reply.peer reply.request_id) t ∧
        admissionsOf w.log (admissionKey reply.peer reply.request_id) =
          [.admitted (admissionKey reply.peer reply.request_id) t]) ∧
    (∀ reply reply' snap snap', .done reply ∈ w.procs → .done reply' ∈ w.procs →
      reply.result = .ok snap → reply'.result = .ok snap' → reply.peer = reply'.peer →
      reply.request_id = reply'.request_id →
      snap.id = snap'.id ∧ reply.request_hash = reply'.request_hash) ∧
    (∀ index input endpoints peer endpoint params e, moves[n]? = some (.advance index input) →
      w.procs[index]? = some (handle endpoints peer endpoint params) →
      e ∈ w.store.inboundOf peer params.request_id → e.request_hash ≠ params.hash →
      (ingressAt fs moves (n + 1)).store = w.store ∧ (ingressAt fs moves (n + 1)).log = w.log ∧
      ∃ error, (ingressAt fs moves (n + 1)).procs[index]? =
          some (.done ⟨peer, params.request_id, params.hash, .error error⟩) ∧
        (input.answer = .ok → textParts params.message.parts ≠ none → endpoints endpoint ≠ none →
          error = .conflict)) := by
  obtain ⟨hinv, htold⟩ := saga_run fs moves hsends n
  refine ⟨?_, ?_, ?_, ?_, ?_⟩
  · intro peer request_id
    cases hlist : (ingressAt fs moves n).store.inboundOf peer request_id with
    | nil => exact Nat.zero_le 1
    | cons e rest =>
      have hone := hinv.inboundOf_eq (hlist ▸ List.mem_cons_self : e ∈ _)
      rw [← hlist, hone]
      exact Nat.le_refl 1
  · intro key
    cases hlist : admissionsOf (ingressAt fs moves n).log key with
    | nil => exact Nat.zero_le 1
    | cons event rest =>
      obtain ⟨hmem, hkey⟩ := List.mem_filter.mp (hlist ▸ List.mem_cons_self :
        event ∈ admissionsOf (ingressAt fs moves n).log key)
      have hone := hinv.admissionsOf_eq hmem
      rw [of_decide_eq_true hkey] at hone
      rw [← hlist, hone]
      exact Nat.le_refl 1
  · intro reply snap hreply hsnap
    exact hinv.told (htold reply hreply snap hsnap)
  · intro reply reply' snap snap' hreply hreply' hsnap hsnap' hpeer hreq
    obtain ⟨e, t, hone, hhash, -, hext, -⟩ := hinv.told (htold reply hreply snap hsnap)
    obtain ⟨e', t', hone', hhash', -, hext', -⟩ :=
      hinv.told (htold reply' hreply' snap' hsnap')
    rw [← hpeer, ← hreq, hone] at hone'
    obtain rfl : e = e' := (List.cons.inj hone').1
    exact ⟨Option.some.inj (hext.symm.trans hext'), hhash.symm.trans hhash'⟩
  · intro index input endpoints peer endpoint params e hmove hproc he hhash
    exact conflict_run fs moves hsends n hmove hproc he hhash

end

end

/-- The same request with another message. -/
def otherSend : Client Request Request.Answered Reply :=
  handle (fun _ => some ⟨7⟩) "peer" "agent"
    { helloParams with message := { message_id := "m", role := .user, parts := [.text "bye"] } }

/-- A step whose statement took effect and was not answered. -/
def lostStep (index id : Nat) : IngressMove :=
  .advance index
    { answer := .lost, id := BitVec.ofNat 128 id, event_id := BitVec.ofNat 128 id,
      now := DateTime.ofSecs 0, deadline := none, bus := .queueFull, runtime_instance := "r" }

/-- The first copy is not told that its task was admitted, the second one goes through, and then
the request comes with another message. -/
def retriedSend : List IngressMove :=
  [.start helloSend, .start helloSend, .start otherSend] ++
    ((List.range 10).map fun n => helloStep 0 (1 + n)) ++ [lostStep 0 11] ++
    ((List.range 13).map fun n => helloStep 1 (12 + n)) ++ [helloStep 2 25]

theorem retriedSend_sends : Sends retriedSend := by
  intro t ht
  have hcases : t = helloSend ∨ t = otherSend := by
    simpa [retriedSend, helloStep, lostStep] using ht
  rcases hcases with rfl | rfl
  · exact ⟨_, _, _, _, rfl⟩
  · exact ⟨_, _, _, _, rfl⟩

/-- What a send has ended with. -/
def ending : Option (Client Request Request.Answered Reply) → Option (Except A2aError String)
  | some (.done reply) => some (reply.result.map (·.id))
  | _ => none

/-- One task, and the answer names the exchange that is bound to it. -/
theorem send_convergence_retriedSend :
    let w := ingressAt noFiles retriedSend 28
    ((ending w.procs[1]?).bind Except.toOption).isSome = true ∧
    (admissionsOf w.log (admissionKey "peer" "r")).length = 1 ∧
    ∀ reply snap, .done reply ∈ w.procs → reply.result = .ok snap →
      ∃ e t, w.store.inboundOf reply.peer reply.request_id = [e] ∧
        e.request_hash = reply.request_hash ∧ e.internal_task_id = some t ∧
        e.external_task_id = some snap.id ∧ snap.id = externalTaskId e.exchange_id ∧
        Admitted w.store.db (admissionKey reply.peer reply.request_id) t ∧
        admissionsOf w.log (admissionKey reply.peer reply.request_id) =
          [.admitted (admissionKey reply.peer reply.request_id) t] := by
  refine ⟨by decide +kernel, by decide +kernel, ?_⟩
  exact (send_convergence noFiles retriedSend retriedSend_sends 28).2.2.1

end A2a

end GuiguBridge

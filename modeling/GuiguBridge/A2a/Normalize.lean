import GuiguBridge.A2a.Ingress
import GuiguBridge.Lib.Utf8
import GuiguBridge.Reference

/-!
# How a send is named

`normalize_send` reads the parameters of a `message/send` (`src/src/a2a/wire/mod.rs`).  A request
of the older profile brings a `requestId`; one of the standard profile is named by its JSON-RPC
id, a text or a number.  Both names are texts, and the exchanges of a peer are kept under them.

* `Message.fromJson` — what serde accepts for a message;
* `normalizeSend` — the two profiles, and the bounds that both keep;
* `SameName` — when two requests have one name;
* `request_identity` — **two accepted sends have one request id exactly when they have one
  name**, and otherwise neither is answered, or refused, because of the other;
* `request_ids_collide` — a number and its digits, two JSON-RPC ids over one `requestId`, and
  one name in both profiles.
-/

namespace GuiguBridge

open Relational

namespace A2a

/-- A request to send: its JSON-RPC id and its parameters. -/
structure SendRequest where
  rpc_id : Json
  params : Json

/-! ### Reading -/

/-- `Map::get`. -/
def get (fields : List (String × Json)) (key : String) : Option Json :=
  (fields.find? fun f => f.1 = key).map (·.2)

/-- `Value::as_str`. -/
def asStr : Json → Option String
  | .str value => some value
  | _ => none

/-- The name of a variant without fields: a text, or the only field of an object, which is
null. -/
def unitVariant : Json → Option String
  | .str name => some name
  | .obj [(name, .null)] => some name
  | _ => none

/-- `Deserialize` of `Role`. -/
def Role.fromJson (value : Json) : Option Role :=
  match unitVariant value with
  | some "user" => some .user
  | some "agent" => some .agent
  | _ => none

/-- The fields of a variant of `Part`. -/
def Part.fromFields (kind : String) (content : Json) : Option Part :=
  match kind with
  | "text" => (stringField ["text"] "text" content).map .text
  | "data" => (structField ["data"] "data" content).map .data
  | "file_inline" => do
    let mime_type ← stringField ["mime_type", "data"] "mime_type" content
    let value ← stringField ["mime_type", "data"] "data" content
    some (.fileInline mime_type value)
  | "file_uri" => (stringField ["uri"] "uri" content).map .fileUri
  | _ => none

/-- `Deserialize` of `Part`, which is tagged inside: by a field, or by its first item. -/
def Part.fromJson : Json → Option Part
  | .obj fields => ((get fields "kind").bind asStr).bind fun kind =>
    Part.fromFields kind (.obj fields)
  | .arr (.str kind :: items) => Part.fromFields kind (.arr items)
  | _ => none

/-- The fields of a message. -/
def messageFields : List String := ["messageId", "role", "parts"]

/-- `Deserialize` of `Message`. -/
def Message.fromJson (value : Json) : Option Message := do
  let message_id ← stringField messageFields "messageId" value
  let role ← (structField messageFields "role" value).bind Role.fromJson
  match structField messageFields "parts" value with
  | some (.arr items) => (items.mapM Part.fromJson).map fun parts => ⟨message_id, role, parts⟩
  | _ => none

/-! ### Normalizing -/

/-- `PROTOCOL_VERSION`. -/
def protocolVersion : String := "0.3.0"

/-- `bounded`. -/
def bounded (value : String) : Option String :=
  if value ≠ "" ∧ value.utf8ByteSize ≤ 256 then some value else none

/-- The decimal digits of a number. -/
def decimal (n : Nat) : String := String.ofList (Nat.toDigits 10 n)

/-- `rpc_id_key`; a number is a `u64`. -/
def rpcIdKey : Json → Option String
  | .str value => bounded value
  | .num n => if 0 ≤ n ∧ n < 18446744073709551616 then some (decimal n.toNat) else none
  | _ => none

/-- The fields of the parameters of the older profile. -/
def sendParamsFields : List String := ["protocolVersion", "requestId", "contextId", "message"]

/-- The parameters are of the older profile. -/
def isLegacy (fields : List (String × Json)) : Bool :=
  ["protocolVersion", "requestId", "contextId"].any fun key => (get fields key).isSome

/-- The send of the older profile. -/
def normalizeLegacy (fields : List (String × Json)) : Option NormalizedSend :=
  if (get fields "configuration").isSome || (get fields "metadata").isSome then none
  else do
    let version ← stringField sendParamsFields "protocolVersion" (.obj fields)
    let request_id ← stringField sendParamsFields "requestId" (.obj fields)
    let context_id ← stringField sendParamsFields "contextId" (.obj fields)
    let message ← (structField sendParamsFields "message" (.obj fields)).bind Message.fromJson
    if version ≠ protocolVersion then none
    else do
      let request_id ← bounded request_id
      let context_id ← bounded context_id
      some ⟨.legacyOwnedV030, request_id, context_id, message⟩

section

variable [Externals]

/-- `bounded_extension`. -/
def boundedExtension : Option Json → Bool
  | none => true
  | some value => decide ((Externals.jsonText value).utf8ByteSize ≤ 65536)

/-- The send of the standard profile. -/
def normalizeStandard (fields : List (String × Json)) (rpc_id : Json) : Option NormalizedSend :=
  if fields.any (fun f => !(["message", "configuration", "metadata"].contains f.1)) then none
  else if !boundedExtension (get fields "configuration") ||
      !boundedExtension (get fields "metadata") then none
  else
    match get fields "message" with
    | some (.obj content) => do
      let message ← Message.fromJson (.obj content)
      let request ← rpcIdKey rpc_id
      let context_id ← bounded (((get content "contextId").bind asStr).getD
        (Externals.uuidText (Externals.newV5 namespaceOid
          ("guigu-agent-bridge:a2a:context:" ++ request))))
      some ⟨.a2aV030, request, context_id, message⟩
    | _ => none

/-- The bounds on the message and on the canonical text. -/
def NormalizedSend.admissible (n : NormalizedSend) : Bool :=
  decide (n.message.parts.length ≤ 64 ∧ n.message.message_id ≠ "" ∧
    n.message.message_id.utf8ByteSize ≤ 256 ∧ n.canonical.utf8ByteSize ≤ 1048576)

/-- `normalize_send`; the error has no content. -/
def normalizeSend (params rpc_id : Json) : Option NormalizedSend :=
  match params with
  | .obj fields =>
    (if isLegacy fields then normalizeLegacy fields else normalizeStandard fields rpc_id).filter
      (·.admissible)
  | _ => none

/-- What `normalize_send` makes of a request. -/
def SendRequest.normalize (r : SendRequest) : Option NormalizedSend :=
  normalizeSend r.params r.rpc_id

end

/-! ### Names -/

/-- The `requestId` of the parameters. -/
def SendRequest.requestId (r : SendRequest) : Option String :=
  stringField sendParamsFields "requestId" r.params

/-- A JSON-RPC id as a text: its characters, or its digits. -/
inductive IdText : Json → String → Prop
  | str (value : String) : IdText (.str value) value
  | num (n : Nat) : IdText (.num n) (decimal n)

/-- One id is a number, and the other the text of its digits. -/
def Numeral (a b : Json) : Prop := ∃ n : Nat, a = .num n ∧ b = .str (decimal n)

/-- The two requests have one name, each in its profile. -/
def SameName (r s : SendRequest) : WireProfile → WireProfile → Prop
  | .legacyOwnedV030, .legacyOwnedV030 => r.requestId = s.requestId
  | .a2aV030, .a2aV030 =>
    r.rpc_id = s.rpc_id ∨ Numeral r.rpc_id s.rpc_id ∨ Numeral s.rpc_id r.rpc_id
  | .legacyOwnedV030, .a2aV030 => ∃ name, r.requestId = some name ∧ IdText s.rpc_id name
  | .a2aV030, .legacyOwnedV030 => ∃ name, s.requestId = some name ∧ IdText r.rpc_id name

/-! ### The names are texts -/

theorem decimal_injective {m n : Nat} (h : decimal m = decimal n) : m = n := by
  have hdigits : Nat.toDigits 10 m = Nat.toDigits 10 n := String.ofList_injective h
  have hread : ∀ k, (Rfc3339.readAllDigits 0 0 (Nat.toDigits 10 k ++ [])).1 = k := by
    intro k
    rw [Rfc3339.readAllDigits_toDigits]
    rfl
  rw [← hread m, hdigits, hread n]

/-- An id has one text. -/
theorem IdText.unique {id : Json} {a b : String} (ha : IdText id a) (hb : IdText id b) :
    a = b := by
  cases ha with
  | str => cases hb; rfl
  | num n =>
    generalize hid : Json.num (n : Int) = id at hb
    cases hb with
    | str value => cases hid
    | num m =>
      have hnum : (n : Int) = m := Json.num.inj hid
      rw [show n = m by omega]

/-- Two ids have one text when they are one id, or a number and its digits. -/
theorem IdText.eq_iff {a b : Json} {s t : String} (ha : IdText a s) (hb : IdText b t) :
    s = t ↔ a = b ∨ Numeral a b ∨ Numeral b a := by
  constructor
  · rintro rfl
    cases ha with
    | str value =>
      cases hb with
      | str value => exact .inl rfl
      | num n => exact .inr (.inr ⟨n, rfl, rfl⟩)
    | num n =>
      generalize htext : decimal n = s at hb
      cases hb with
      | str value => exact .inr (.inl ⟨n, rfl, by rw [htext]⟩)
      | num m => exact .inl (by rw [decimal_injective htext])
  · rintro (rfl | ⟨n, rfl, rfl⟩ | ⟨n, rfl, rfl⟩)
    · exact ha.unique hb
    · exact ha.unique (.num n) |>.trans ((IdText.str _).unique hb)
    · exact ha.unique (.str _) |>.trans ((IdText.num n).unique hb)

theorem bounded_eq_some {value text : String} (h : bounded value = some text) : text = value := by
  unfold bounded at h
  split at h
  · exact (Option.some.inj h).symm
  · cases h

theorem rpcIdKey_idText {id : Json} {text : String} (h : rpcIdKey id = some text) :
    IdText id text := by
  cases id with
  | str value =>
    rw [bounded_eq_some h]
    exact .str value
  | num n =>
    simp only [rpcIdKey] at h
    split at h
    · rename_i hn
      obtain rfl := Option.some.inj h
      have hcast : ((n.toNat : Nat) : Int) = n := Int.toNat_of_nonneg hn.1
      have htext := IdText.num n.toNat
      rw [hcast] at htext
      exact htext
    · cases h
  | null => cases h
  | bool b => cases h
  | arr items => cases h
  | obj fields => cases h

theorem normalizeLegacy_name {fields : List (String × Json)} {n : NormalizedSend}
    (h : normalizeLegacy fields = some n) : n.profile = .legacyOwnedV030 ∧
      stringField sendParamsFields "requestId" (.obj fields) = some n.request_id := by
  unfold normalizeLegacy at h
  split at h
  · cases h
  · simp only [Option.bind_eq_bind, Option.bind_eq_some_iff] at h
    obtain ⟨version, -, request, hrequest, context, -, message, -, h⟩ := h
    split at h
    · cases h
    · simp only [Option.bind_eq_some_iff, Option.some.injEq] at h
      obtain ⟨request_id, hbounded, context_id, -, rfl⟩ := h
      exact ⟨rfl, by rw [hrequest, bounded_eq_some hbounded]⟩

section

variable [Externals]

theorem normalizeStandard_name {fields : List (String × Json)} {rpc_id : Json}
    {n : NormalizedSend} (h : normalizeStandard fields rpc_id = some n) :
    n.profile = .a2aV030 ∧ rpcIdKey rpc_id = some n.request_id := by
  unfold normalizeStandard at h
  split at h
  · cases h
  · split at h
    · cases h
    · split at h
      · simp only [Option.bind_eq_bind, Option.bind_eq_some_iff, Option.some.injEq] at h
        obtain ⟨message, -, request, hrequest, context_id, -, rfl⟩ := h
        exact ⟨rfl, hrequest⟩
      · cases h

/-- What names an accepted request, in its profile. -/
theorem SendRequest.normalize_name {r : SendRequest} {p : NormalizedSend}
    (h : r.normalize = some p) :
    (p.profile = .legacyOwnedV030 ∧ r.requestId = some p.request_id) ∨
      (p.profile = .a2aV030 ∧ IdText r.rpc_id p.request_id) := by
  unfold normalize normalizeSend at h
  split at h
  · rename_i fields hparams
    have hread := (Option.filter_eq_some_iff.mp h).1
    split at hread
    · refine .inl ?_
      rw [requestId, hparams]
      exact normalizeLegacy_name hread
    · obtain ⟨hprofile, hkey⟩ := normalizeStandard_name hread
      exact .inr ⟨hprofile, rpcIdKey_idText hkey⟩
  · cases h

/-- **Two accepted sends have one request id exactly when they have one name.** -/
theorem SendRequest.request_id_eq_iff {r s : SendRequest} {p q : NormalizedSend}
    (hr : r.normalize = some p) (hs : s.normalize = some q) :
    p.request_id = q.request_id ↔ SameName r s p.profile q.profile := by
  obtain ⟨hp, hname⟩ | ⟨hp, hname⟩ := r.normalize_name hr
  · obtain ⟨hq, hname'⟩ | ⟨hq, hname'⟩ := s.normalize_name hs
    · rw [hp, hq]
      show _ ↔ r.requestId = s.requestId
      rw [hname, hname', Option.some.injEq]
    · rw [hp, hq]
      constructor
      · intro heq
        exact ⟨p.request_id, hname, heq ▸ hname'⟩
      · rintro ⟨name, hrequest, htext⟩
        obtain rfl := Option.some.inj (hname.symm.trans hrequest)
        exact htext.unique hname'
  · obtain ⟨hq, hname'⟩ | ⟨hq, hname'⟩ := s.normalize_name hs
    · rw [hp, hq]
      constructor
      · intro heq
        exact ⟨q.request_id, hname', heq ▸ hname⟩
      · rintro ⟨name, hrequest, htext⟩
        obtain rfl := Option.some.inj (hname'.symm.trans hrequest)
        exact hname.unique htext
    · rw [hp, hq]
      exact hname.eq_iff hname'

/-! ### What a name decides -/

omit [Externals] in
theorem length_beBytes (n : Nat) : (beBytes n).length = 8 := rfl

omit [Externals] in
/-- The bytes name the request of a peer. -/
theorem admissionName_injective {peer a b : String}
    (h : admissionName peer a = admissionName peer b) : a = b := by
  simp only [admissionName, List.append_assoc] at h
  have hpeer := List.append_cancel_left (List.append_cancel_left (List.append_cancel_left
    (List.append_cancel_left h)))
  have hlength : (beBytes a.utf8ByteSize).length = (beBytes b.utf8ByteSize).length := by
    rw [length_beBytes, length_beBytes]
  exact Utf8.toList_toUTF8_injective (List.append_inj_right hpeer hlength)

/-- Neither of two sends of a peer meets the other: the reservation of one changes nothing that
the other finds, what answers or refuses the other is an exchange of its own, and their tasks
are admitted under two names. -/
structure Apart (peer : String) (p q : NormalizedSend) : Prop where
  found : ∀ (exchange_id : Uuid) (now : DateTime) (s : Tables),
    readRequest peer .inbound q.request_id
      (reserveInbound peer p.request_id p.hash p.context_id exchange_id now s).2 =
    readRequest peer .inbound q.request_id s
  answered : ∀ (exchange_id : Uuid) (now : DateTime) (s : Tables) (row : ExchangeRecord),
    (reserveInbound peer q.request_id q.hash q.context_id exchange_id now s).1 =
      .ok (.replay row) → row.request_id ≠ p.request_id
  refused : ∀ (exchange_id : Uuid) (now : DateTime) (s : Tables),
    (reserveInbound peer q.request_id q.hash q.context_id exchange_id now s).1 =
      .error .conflict →
    ∃ e ∈ s.exchanges.rows, e.request_id ≠ p.request_id ∧
      e.request_id = q.request_id ∧ e.request_hash ≠ q.hash
  admitted : admissionName peer p.request_id ≠ admissionName peer q.request_id

theorem readRequest_reserveInbound_of_ne {peer a b hash context_id : String} (h : a ≠ b)
    (exchange_id : Uuid) (now : DateTime) (s : Tables) :
    readRequest peer .inbound b (reserveInbound peer a hash context_id exchange_id now s).2 =
      readRequest peer .inbound b s := by
  have hcall : reserveInbound peer a hash context_id exchange_id now s =
      ((reserveInbound peer a hash context_id exchange_id now s).1,
        (reserveInbound peer a hash context_id exchange_id now s).2) := rfl
  obtain ⟨e, -, hs, -⟩ | ⟨-, hs, -⟩ | ⟨-, t, ht, hs, -⟩ := reserveInbound_cases hcall
  · rw [hs]
  · rw [hs]
  · rw [hs]
    obtain ⟨-, hrows⟩ := (Table.insert_eq_some_iff _ _ _).mp ht
    have hother : decide ((reservedInbound exchange_id peer a hash context_id now).peer_id = peer ∧
        (reservedInbound exchange_id peer a hash context_id now).direction = .inbound ∧
        (reservedInbound exchange_id peer a hash context_id now).request_id = b) = false :=
      decide_eq_false fun hsel => h hsel.2.2
    simp only [readRequest, hrows, List.find?_append, List.find?_singleton, hother]
    simp

/-- Sends with two request ids do not meet. -/
theorem apart_of_ne {p q : NormalizedSend} (h : p.request_id ≠ q.request_id) (peer : String) :
    Apart peer p q where
  found exchange_id now s := readRequest_reserveInbound_of_ne h exchange_id now s
  answered exchange_id now s row hrow := by
    have hcall : reserveInbound peer q.request_id q.hash q.context_id exchange_id now s =
        (.ok (.replay row), (reserveInbound peer q.request_id q.hash q.context_id exchange_id now s).2) := by
      rw [← hrow]
    obtain ⟨e, hread, -, hcase⟩ | ⟨-, -, hr⟩ | ⟨-, t, -, -, hr⟩ := reserveInbound_cases hcall
    · obtain ⟨-, hreplay⟩ | ⟨-, hconflict⟩ := hcase
      · cases hreplay
        have hid : e.request_id = q.request_id := (readRequest_some hread).2.2.2
        show e.request_id ≠ p.request_id
        rw [hid]
        exact h.symm
      · cases hconflict
    · cases hr
    · cases hr
  refused exchange_id now s hconflict := by
    have hcall : reserveInbound peer q.request_id q.hash q.context_id exchange_id now s =
        (.error .conflict, (reserveInbound peer q.request_id q.hash q.context_id exchange_id now s).2) := by
      rw [← hconflict]
    obtain ⟨e, hread, -, hcase⟩ | ⟨-, -, hr⟩ | ⟨-, t, -, -, hr⟩ := reserveInbound_cases hcall
    · obtain ⟨-, hreplay⟩ | ⟨hhash, -⟩ := hcase
      · cases hreplay
      · obtain ⟨he, -, -, hid⟩ := readRequest_some hread
        exact ⟨e, he, fun hp => h (hp.symm.trans hid), hid, hhash⟩
    · cases hr
    · cases hr
  admitted hname := h (admissionName_injective hname)

/-- **Two accepted sends of a peer have one request id exactly when they have one name, in
their profiles; with two names they do not meet.**  A send that is repeated is the same in every
respect. -/
theorem request_identity {r s : SendRequest} {p q : NormalizedSend} (hr : r.normalize = some p)
    (hs : s.normalize = some q) (peer : String) :
    (p.request_id = q.request_id ↔ SameName r s p.profile q.profile) ∧
      (¬ SameName r s p.profile q.profile → Apart peer p q ∧ Apart peer q p) ∧
      (r = s → p.request_id = q.request_id ∧ p.canonical = q.canonical) := by
  have hiff := SendRequest.request_id_eq_iff hr hs
  refine ⟨hiff, fun hname => ?_, ?_⟩
  · have hne : p.request_id ≠ q.request_id := fun heq => hname (hiff.mp heq)
    exact ⟨apart_of_ne hne peer, apart_of_ne hne.symm peer⟩
  · rintro rfl
    obtain rfl := Option.some.inj (hr.symm.trans hs)
    exact ⟨rfl, rfl⟩

end

/-! ### One name for two requests -/

/-- A message of one text. -/
def helloMessage : Json :=
  .obj [("messageId", .str "m"), ("role", .str "user"),
    ("parts", .arr [.obj [("kind", .str "text"), ("text", .str "hello")]]),
    ("contextId", .str "c")]

/-- A send of the standard profile. -/
def standardSend (rpc_id : Json) : SendRequest := ⟨rpc_id, .obj [("message", helloMessage)]⟩

/-- A send of the older profile, with the request id `1`. -/
def legacySend (rpc_id : Json) : SendRequest :=
  ⟨rpc_id, .obj [("protocolVersion", .str "0.3.0"), ("requestId", .str "1"),
    ("contextId", .str "c"), ("message", helloMessage)]⟩

/-- What becomes of such a send. -/
def helloNamed (profile : WireProfile) : NormalizedSend :=
  ⟨profile, "1", "c", ⟨"m", .user, [.text "hello"]⟩⟩

theorem helloNamed_admissible (profile : WireProfile) :
    (helloNamed profile).admissible = true := by
  cases profile with
  | legacyOwnedV030 => decide
  | a2aV030 => decide

theorem standardSend_normalize {rpc_id : Json} (h : rpcIdKey rpc_id = some "1") :
    (standardSend rpc_id).normalize = some (helloNamed .a2aV030) := by
  have hread : normalizeStandard [("message", helloMessage)] rpc_id =
      some (helloNamed .a2aV030) := by
    unfold normalizeStandard
    rw [h]
    rfl
  show (normalizeStandard [("message", helloMessage)] rpc_id).filter (·.admissible) = _
  rw [hread, Option.filter_some, if_pos (helloNamed_admissible _)]

theorem legacySend_normalize (rpc_id : Json) :
    (legacySend rpc_id).normalize = some (helloNamed .legacyOwnedV030) := by
  show (some (helloNamed .legacyOwnedV030)).filter (·.admissible) = _
  rw [Option.filter_some, if_pos (helloNamed_admissible _)]

/-- What a second send under one request id is told. -/
theorem reserveInbound_again (peer request_id hash hash' context_id : String) (i j : Uuid)
    (now : DateTime) :
    (reserveInbound peer request_id hash' context_id j now
      (reserveInbound peer request_id hash context_id i now Tables.empty).2).1 =
      if hash = hash' then
        .ok (.replay (reservedInbound i peer request_id hash context_id now).decode)
      else .error .conflict := by
  have hread : readRequest peer .inbound request_id
      (reserveInbound peer request_id hash context_id i now Tables.empty).2 =
        some (reservedInbound i peer request_id hash context_id now) := by
    simp [reserveInbound, readRequest, Tables.empty, Table.insert, Table.empty, reservedInbound]
  generalize (reserveInbound peer request_id hash context_id i now Tables.empty).2 = s at hread ⊢
  unfold reserveInbound
  rw [hread]
  show (if hash = hash' then (_, s) else (_, s) : _ × Tables).1 = _
  split
  · rfl
  · rfl

/-- A send of each profile, under one name. -/
theorem request_identity_profiles :
    ((helloNamed .a2aV030).request_id = (helloNamed .legacyOwnedV030).request_id ↔
      SameName (standardSend (.num 1)) (legacySend (.str "r")) .a2aV030 .legacyOwnedV030) ∧
    (¬ SameName (standardSend (.num 1)) (legacySend (.str "r")) .a2aV030 .legacyOwnedV030 →
      Apart "peer" (helloNamed .a2aV030) (helloNamed .legacyOwnedV030) ∧
        Apart "peer" (helloNamed .legacyOwnedV030) (helloNamed .a2aV030)) ∧
    (standardSend (.num 1) = legacySend (.str "r") →
      (helloNamed .a2aV030).request_id = (helloNamed .legacyOwnedV030).request_id ∧
        (helloNamed .a2aV030).canonical = (helloNamed .legacyOwnedV030).canonical) :=
  request_identity (standardSend_normalize (by decide)) (legacySend_normalize _) "peer"

/-- The reservation of the second of two sends, after that of the first. -/
def secondReservation (p q : NormalizedSend) : Except A2aError InboundReservation :=
  (reserveInbound "peer" q.request_id q.hash q.context_id 2 default
    (reserveInbound "peer" p.request_id p.hash p.context_id 1 default Tables.empty).2).1

/-- **The number `1` and the text `"1"` share an exchange**: the second send is answered with
the first one's.  Two JSON-RPC ids over one `requestId` share it too, and a send of the older
profile with that `requestId` is refused for the first. -/
theorem request_ids_collide :
    (Json.num 1 ≠ Json.str "1" ∧
      (standardSend (.num 1)).normalize = some (helloNamed .a2aV030) ∧
      (standardSend (.str "1")).normalize = some (helloNamed .a2aV030) ∧
      secondReservation (helloNamed .a2aV030) (helloNamed .a2aV030) =
        .ok (.replay
          (reservedInbound 1 "peer" "1" (helloNamed .a2aV030).hash "c" default).decode)) ∧
    (Json.str "a" ≠ Json.str "b" ∧
      (legacySend (.str "a")).normalize = some (helloNamed .legacyOwnedV030) ∧
      (legacySend (.str "b")).normalize = some (helloNamed .legacyOwnedV030)) ∧
    ((helloNamed .a2aV030).profile ≠ (helloNamed .legacyOwnedV030).profile ∧
      (helloNamed .a2aV030).request_id = (helloNamed .legacyOwnedV030).request_id ∧
      secondReservation (helloNamed .a2aV030) (helloNamed .legacyOwnedV030) =
        .error .conflict) := by
  have hone : ∀ rpc_id, rpcIdKey rpc_id = some "1" →
      (standardSend rpc_id).normalize = some (helloNamed .a2aV030) :=
    fun _ => standardSend_normalize
  refine ⟨⟨Json.noConfusion, hone _ (by decide), hone _ (by decide), ?_⟩,
    ⟨?_, legacySend_normalize _, legacySend_normalize _⟩, by decide, rfl, ?_⟩
  · rw [secondReservation, reserveInbound_again, if_pos rfl]
    rfl
  · intro h
    exact absurd (Json.str.inj h) (by decide)
  · have hhash : (helloNamed .a2aV030).hash ≠ (helloNamed .legacyOwnedV030).hash := by
      decide +kernel
    exact (reserveInbound_again _ _ _ _ _ _ _ _).trans (if_neg hhash)

end A2a

end GuiguBridge

import GuiguBridge.Bus.Worker
import Mathlib.Data.String.Basic

/-!
# The configuration

The tree that a configuration file is loaded into (`src/src/config.rs`).  How the text of a file
becomes the tree is in `Config.Placeholders`, `Config.Secrets` and `Config.Load`; here a
`ConfigSource` answers with a tree or with an error.

A path is its text, so that two paths are equal here only when they have the same text; a `PathBuf`
is compared by its components.

* `OrderedMap` — a `BTreeMap` with text keys, **in the one form it has**: its entries in the order
  of the keys, so that equal maps are equal values;
* `Config` — the sections, with every field of the source.
-/

namespace GuiguBridge

/-- A `BTreeMap<String, _>`. -/
structure OrderedMap (α : Type) where
  entries : List (String × α)
  sorted : (entries.map Prod.fst).Pairwise (· < ·)

namespace OrderedMap

variable {α : Type}

theorem ext_entries {m m' : OrderedMap α} (h : m.entries = m'.entries) : m = m' := by
  cases m
  cases m'
  simp only at h
  subst h
  rfl

instance [DecidableEq α] : DecidableEq (OrderedMap α) := fun m m' =>
  decidable_of_iff (m.entries = m'.entries) ⟨ext_entries, fun h => h ▸ rfl⟩

/-- The map without entries. -/
def empty : OrderedMap α := ⟨[], .nil⟩

/-- `BTreeMap::get`. -/
def get (m : OrderedMap α) (key : String) : Option α :=
  (m.entries.find? fun e => e.1 = key).map Prod.snd

end OrderedMap

structure BridgeConfig where
  database : String
  session_root : String
  max_task_depth : Nat
  max_task_hops : Nat
  default_timeout_seconds : Nat
  queue_capacity : Nat
  event_capacity : Nat
  shutdown_timeout_seconds : Nat
  owner_evidence_max_age_seconds : Nat
  /-- The text of the `SocketAddr`. -/
  health_bind : Option String
  deriving DecidableEq

structure RuntimeConfig where
  legacy_acp_results : Bool
  allow_nonterminal_end_turn : Bool
  max_turns : Nat
  max_wall_seconds : Nat
  max_inactivity_seconds : Nat
  max_no_progress : Nat
  max_output_bytes : Nat
  lease_ttl_seconds : Nat
  deriving DecidableEq

structure GatewayTransportConfig where
  enabled : Bool
  room_id : String
  peer_id : String
  local_endpoint_id : String
  remote_endpoint_id : String
  allowed_senders : List String
  generation : Nat
  max_payload_bytes : Nat
  deadline_seconds : Nat
  deriving DecidableEq

structure SecretString where
  exposed : String
  deriving DecidableEq

structure A2aPeerConfig where
  url : String
  expected_peer_id : String
  token : SecretString
  allowed_targets : List String
  private_ca : Option String
  danger_accept_invalid_certs : Bool
  deriving DecidableEq

structure A2aTransportConfig where
  enabled : Bool
  listen : String
  allow_private_plaintext : Bool
  max_body_bytes : Nat
  terminal_content_ttl_seconds : Nat
  retained_bytes_ceiling : Nat
  retained_bytes_low_watermark : Nat
  cleanup_batch : Nat
  exposed_endpoints : List String
  peers : OrderedMap A2aPeerConfig
  deriving DecidableEq

structure MatrixRoutesConfig where
  aliases : OrderedMap String
  rooms : OrderedMap String
  direct : OrderedMap (List String)
  deriving DecidableEq

structure MatrixTransportConfig where
  enabled : Bool
  homeserver : String
  user_id : String
  device_id : String
  access_token : SecretString
  monitor_room : String
  sync_capacity : Nat
  allowed_users : List String
  routes : MatrixRoutesConfig
  admin_users : List String
  admin_rooms : List String
  crypto_store_path : Option String
  device_trusted : Bool
  deriving DecidableEq

structure TransportsConfig where
  matrix : MatrixTransportConfig
  a2a : A2aTransportConfig
  gateway : GatewayTransportConfig
  deriving DecidableEq

structure AgentEndpointConfig where
  transport : TransportType
  command : Option String
  args : List String
  enabled : Bool
  workspace : Option String
  additional_workspaces : List String
  peer : Option String
  deriving DecidableEq

structure Config where
  bridge : BridgeConfig
  transports : TransportsConfig
  runtime : RuntimeConfig
  agents : OrderedMap AgentEndpointConfig
  deriving DecidableEq

end GuiguBridge

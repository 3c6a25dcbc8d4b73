import GuiguBridge.Lib.Json
import GuiguBridge.Models

/-!
# What the bridge calls and does not define

The crates under the bridge (`chrono`, `uuid`, `serde_json`, `sqlx`) and the file system enter the
model as parameters.

* `Externals` — the functions of those crates that the modelled code calls.  The class holds
  no law: a result that needs one (a text that reads back, say) names it as a hypothesis;
* `FileSystem` — `std::fs::canonicalize` and what the code asks of its answer, as one fixed
  function of the path.
-/

namespace GuiguBridge

/-- Functions of third-party crates. -/
class Externals where
  /-- `DateTime::to_rfc3339_opts(SecondsFormat::Nanos, true)`. -/
  rfc3339Nanos : DateTime → String
  /-- `DateTime::to_rfc3339`. -/
  toRfc3339 : DateTime → String
  /-- `str::parse::<DateTime<Utc>>`. -/
  parseDateTime : String → Option DateTime
  /-- `DateTime::parse_from_rfc3339`, normalised to UTC. -/
  parseFromRfc3339 : String → Option DateTime
  /-- The text `chrono`'s `Serialize` writes for an instant. -/
  serdeDateTime : DateTime → String
  /-- `DateTime::checked_add_signed` of a `std` duration; `none` also when the duration is
  too long for `chrono`. -/
  checkedAdd : DateTime → Duration → Option DateTime
  /-- `Uuid::new_v5` of a text. -/
  newV5 : Uuid → String → Uuid
  /-- `Uuid::new_v5` of the bytes of another identity. -/
  newV5OfUuid : Uuid → Uuid → Uuid
  /-- The hyphenated lower-case text of a UUID. -/
  uuidText : Uuid → String
  /-- `Uuid::parse_str`. -/
  parseUuid : String → Option Uuid
  /-- The text of an `sqlx` error for a violated constraint. -/
  sqlErrorText : String
  /-- SQLite's `datetime(text, modifier)`; `none` is `NULL`. -/
  sqliteDatetime : String → String → Option String
  /-- `serde_json::to_string`. -/
  jsonText : Json → String
  /-- `serde_json::from_str` into a value. -/
  parseJson : String → Option Json

/-- A path as the operating system has it: bytes. -/
structure PathBuf where
  bytes : List UInt8
  deriving DecidableEq, Inhabited

/-- What `std::fs::canonicalize` answered: whether the path is a directory, and `to_str` of
each of its components. -/
structure CanonicalPath where
  isDir : Bool
  components : List (Option String)
  deriving DecidableEq

/-- The file system as the claims of workspaces see it. -/
structure FileSystem where
  canonicalize : PathBuf → Option CanonicalPath
  toStringLossy : PathBuf → String

/-- A file system without files. -/
def noFiles : FileSystem := ⟨fun _ => none, fun _ => ""⟩

end GuiguBridge

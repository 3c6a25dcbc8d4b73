import GuiguBridge.Admission.Guard
import GuiguBridge.Reference

/-!
# Records as JSON

The bytes of a record as `serde_json` writes them, for texts in ASCII, computed: what the runs
below work with.  A record is read in the form in which it is written only.
-/

namespace GuiguBridge.Admission

namespace FileIdentity

def toJson (identity : FileIdentity) : Json :=
  .obj [("path", .str identity.path), ("device", .num identity.device),
    ("inode", .num identity.inode), ("mode", .num identity.mode),
    ("digest", .str identity.digest)]

def ofJson : Json → Option FileIdentity
  | .obj [(_, .str path), (_, .num device), (_, .num inode), (_, .num mode), (_, .str digest)] =>
    some ⟨path, device.toNat, inode.toNat, mode.toNat, digest⟩
  | _ => none

end FileIdentity

namespace Record

def fields (record : Record) : List (String × Json) :=
  [("version", .num record.version), ("kind", .str record.kind), ("pid", .num record.pid),
    ("starttime", .num record.starttime), ("executable", record.executable.toJson),
    ("config", record.config.toJson), ("database", record.database.toJson),
    ("nonce", .str record.nonce)]

def ofJson : Json → Option Record
  | .obj [(_, .num version), (_, .str kind), (_, .num pid), (_, .num starttime),
      (_, executable), (_, config), (_, database), (_, .str nonce)] => do
    let executable ← FileIdentity.ofJson executable
    let config ← FileIdentity.ofJson config
    let database ← FileIdentity.ofJson database
    some ⟨version.toNat, kind, pid.toNat, starttime.toNat, executable, config, database, nonce⟩
  | _ => none

theorem ofJson_fields (record : Record) : ofJson (.obj record.fields) = some record := rfl

def bytes (record : Record) : List Nat := (Json.obj record.fields).render.map Char.toNat

def ofBytes (bytes : List Nat) : Option Record :=
  match (Json.parse (bytes.map Char.ofNat)).bind ofJson with
  | none => none
  | some record => if record.bytes = bytes then some record else none

theorem chars_bytes (record : Record) :
    record.bytes.map Char.ofNat = (Json.obj record.fields).render := by
  rw [bytes, List.map_map]
  refine (List.map_congr_left ?_).trans (List.map_id _)
  intro c _
  exact Char.ofNat_toNat c

theorem ofBytes_bytes (record : Record) : ofBytes record.bytes = some record := by
  rw [ofBytes, chars_bytes, Json.parse_render, Option.bind_some, ofJson_fields]
  exact if_pos rfl

theorem bytes_ofBytes {bytes : List Nat} {record : Record} (h : ofBytes bytes = some record) :
    record.bytes = bytes := by
  unfold ofBytes at h
  split at h
  · cases h
  · split at h
    · rename_i heq
      exact Option.some.inj h ▸ heq
    · cases h

/-- The bytes of a record are not the beginning of another one's. -/
theorem bytes_prefix {record record' : Record} (h : record'.bytes <+: record.bytes) :
    record' = record := by
  have hchars := h.map Char.ofNat
  rw [chars_bytes, chars_bytes] at hchars
  have hfields := Json.render_obj_prefix hchars
  have hread := ofJson_fields record'
  rw [hfields, ofJson_fields] at hread
  exact (Option.some.inj hread).symm

end Record

instance jsonRecords : RecordCrates := ⟨Record.bytes, Record.ofBytes⟩

theorem jsonRecords_lawful : LawfulRecords := by
  intro record bytes hpre
  show Record.ofBytes bytes = if bytes = record.bytes then some record else none
  split
  · rename_i heq
    rw [heq, Record.ofBytes_bytes]
  · rename_i hne
    cases hread : Record.ofBytes bytes with
    | none => rfl
    | some other =>
      have hbytes := Record.bytes_ofBytes hread
      rw [← hbytes] at hpre hne
      exact absurd (congrArg Record.bytes (Record.bytes_prefix hpre)) hne

end GuiguBridge.Admission

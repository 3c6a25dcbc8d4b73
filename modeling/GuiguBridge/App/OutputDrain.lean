import GuiguBridge.Acp.OutputFiles
import GuiguBridge.Runtime.Finalization

/-!
# The output drain

A sealed output set is delivered part by part (`src/src/app/output_drain.rs`), by any number of
drains that may fail or stop anywhere and that take over stale claims, while publishers and
terminal closures work on the same store and the same directories.

* `drainOnce`, `cleanupSet` — the drain and the recovery of a half-done cleanup, as threads;
* `OutputWriter` — what the rest of the process does to sets, segments and files;
* `drainsAt` — the runs.
-/

namespace GuiguBridge

open Relational Interleave

/-! ### The drain -/

section

variable [Externals] [HashCrates]

/-- `send_durable`, with the timeout of `drain_once`: the room answers, or it is unknown
whether it has the message. -/
def sendDurable (set : ClaimedOutputSet) (part : DeliveryPart) (body : Bytes) :
    SpoolM (Except DurableSendError Unit) :=
  ExceptT.mk (Thread.atomic fun i w => (.ok i.send, w, [.sent set.set_id part body]))

/-- `acknowledge`, with its effect in the log. -/
def acknowledgePart (set : ClaimedOutputSet) (index : Int) (now : String) : SpoolM Bool :=
  SpoolM.store (acknowledge set index now) fun r =>
    if r = .ok true then [.acked set.set_id index set.claim_owner set.claim_revision] else []

omit [Externals] [HashCrates] in
/-- `begin_cleanup`, the files, `finish_cleanup`: the end of a drain, and what
`recover_cleanup` does for a set. -/
def cleanupSet (set_id now : String) : SpoolM Unit := do
  let segments ← SpoolM.store (beginCleanup set_id now)
  cleanup set_id segments
  SpoolM.store (finishCleanup set_id now)

/-- The loop of `drain_once`.  A drain that has had its `rounds` has stopped. -/
def deliverParts (limit : Nat) (now : String) : Nat → ClaimedOutputSet → SpoolM Nat
  | 0, _ => throw .io
  | rounds + 1, set => do
    let segment ← SpoolM.store fun db => (nextSegment set db, db)
    match segment with
    | none => throw .identity
    | some segment => do
      let bytes ← readDelivery segment
      let _ ← SpoolM.some? (fromUtf8 bytes) .identity
      let outcome ← sendDurable set segment.part bytes
      match outcome with
      | .ok () => do
        let acked ← acknowledgePart set segment.part.index now
        SpoolM.require acked .identity
        if segment.part.index + 1 = set.segment_count then do
          cleanupSet set.set_id now
          pure 1
        else
          deliverParts limit now rounds { set with acknowledged_cursor := segment.part.index }
      | .error error => do
        let _ ← SpoolM.store (recordFailure set (error = .permanent) limit now)
        pure 0

/-- `drain_once`. -/
def drainOnce (owner now stale : String) (limit rounds : Nat) : SpoolM Nat := do
  let claimed ← SpoolM.store (claimNextSet owner now stale)
  match claimed with
  | none => pure 0
  | some set => deliverParts limit now rounds set

end

/-! ### The rest of the process -/

/-- The calls of publishers and of recovery that need no promise. -/
def SpoolCall.plain : SpoolCall → Bool
  | .sealSet .. | .finishAbandon .. | .elsewhere _ => false
  | _ => true

/-- What else writes sets, segments and files.  A publisher seals at least one part, for empty
output too; bytes of a set are given back after `abandon` had its way; the files of a set are
written until it is prepared, and again once it is abandoned. -/
inductive OutputWriter where
  | spool (call : SpoolCall) (hplain : call.plain = true)
  | sealSet (set_id : String) (total_bytes : Int) (total_hash : String)
      (deliveries : List DeliveryPart) (hparts : deliveries ≠ []) (now : String)
  | finishAbandon (set_id now : String)
  | finalizeTerminal (seen : Db) (lease : Lease) (revision : Nat) (generation : String)
      (state : ContinuationState) (observed_bytes : Nat) (event : TaskEvent) (now : DateTime)
  | files (dir : SetDir)
  | elsewhere (other : Db)

/-- The directory of a set replaced. -/
def SpoolFiles.replace (fs : SpoolFiles) (dir : SetDir) : SpoolFiles :=
  match (fs.deleteWhere fun d => decide (d.set_id = dir.set_id)).insert dir with
  | some fs => fs
  | none => fs

/-- The set is in one of the states. -/
def Db.setIn (db : Db) (set_id : String) (states : List SetState) : Bool :=
  match db.acpOutputSets.get set_id with
  | some s => decide (s.state ∈ states)
  | none => false

section

variable [Externals] (spool : OutputSpoolStore)

def OutputWriter.write (w : SpoolWorld) : OutputWriter → SpoolWorld
  | .spool call _ => { w with db := (spoolStep spool w.db call).2 }
  | .sealSet set_id total_bytes total_hash deliveries _ now =>
    { w with db := (GuiguBridge.sealSet set_id total_bytes total_hash deliveries.length
      deliveries now w.db).2 }
  | .finishAbandon set_id now =>
    if w.db.setIn set_id [.abandoned] then
      { w with db := (GuiguBridge.finishAbandon set_id now w.db).2 }
    else w
  | .finalizeTerminal seen lease revision generation state observed_bytes event now =>
    { w with db := (GuiguBridge.finalizeTerminal seen lease revision generation state
      observed_bytes event now w.db).2 }
  | .files dir =>
    if w.db.setIn dir.set_id [.assembling, .abandoned] then
      { w with files := w.files.replace dir }
    else w
  | .elsewhere other =>
    { w with db := { other with acpOutputSets := w.db.acpOutputSets,
                                acpOutputSegments := w.db.acpOutputSegments,
                                acpOutputDeliverySegments := w.db.acpOutputDeliverySegments,
                                acpOutputQuota := w.db.acpOutputQuota } }

end

/-! ### Runs -/

section

variable [Externals] [HashCrates] (spool : OutputSpoolStore)

/-- What `recover_cleanup` does for one set. -/
def recoverSet (set_id now : String) : SpoolM Nat := do
  cleanupSet set_id now
  pure 1

/-- A thread of the output drain. -/
inductive DrainThread : Thread SpoolWorld SpoolInput SpoolEvent (Except OutputSpoolError Nat) → Prop
    where
  | drain (owner now stale : String) (limit rounds : Nat) :
      DrainThread (drainOnce owner now stale limit rounds).run
  | recover (set_id now : String) : DrainThread (recoverSet set_id now).run

abbrev DrainMoves := List (Move (Thread SpoolWorld SpoolInput SpoolEvent
  (Except OutputSpoolError Nat)) SpoolInput OutputWriter)

/-- The store, the files and the log after `n` moves from an empty spool. -/
def drainsAt (moves : DrainMoves) (n : Nat) : SpoolWorld × List SpoolEvent :=
  ((threadSystem fun writer w => OutputWriter.write spool w writer).worldAt
    ⟨Db.empty, Table.empty⟩ moves n).conf

end

end GuiguBridge

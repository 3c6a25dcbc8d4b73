import Mathlib.Data.List.TakeWhile
import GuiguBridge.A2a.Wire
import GuiguBridge.Gateway.Store
import GuiguBridge.Matrix.Router
import GuiguBridge.Runtime.Finalization
import GuiguBridge.Storage.Retry

/-!
# Texts from admission to the first turn

Four ways into the bridge take a text from outside and admit a task with it; the runtime then
begins the task's first turn with that text as its prompt and refuses a prompt that is empty or
too long.

* `Ingress` — the inputs, `Ingress.text` — the text that is admitted;
* `Ingress.Startable` — what an input must be so that its task can begin;
* `prompt_startable_iff` — **exactly the startable inputs make tasks that can begin**.
-/

namespace GuiguBridge

open Relational

/-- What an ingress is given when it admits a task. -/
inductive Ingress where
  /-- A message of a room, and the policy that routes it. -/
  | matrix (event : InboundMatrixEvent) (policy : RoutePolicy)
  /-- The parts of a message of a peer. -/
  | a2a (parts : List A2a.Part)
  /-- An envelope of the gateway. -/
  | gateway (envelope : GatewayEnvelope)
  /-- A retry of a task that ended. -/
  | retry (source : TaskRow)

namespace Ingress

/-- The text of the task that the input is admitted with, if it is. -/
def text : Ingress → Option String
  | matrix event policy => (selectTarget event policy).toOption.map Prod.snd
  | a2a parts => A2a.textParts parts
  | gateway envelope => if envelope.validate = .ok () then some envelope.text else none
  | retry source => some source.text

/-- **The input makes a prompt**: there is a text in it, and the text fits. -/
def Startable : Ingress → Prop
  | matrix event _ =>
    match addressed event.body with
    | some (_, rest) => (∃ c ∈ rest, Text.isWhitespace c = false) ∧
        (String.ofList (Text.trimStart rest)).utf8ByteSize ≤ maxContinuationPromptBytes
    | none => event.body ≠ "" ∧ event.body.utf8ByteSize ≤ maxContinuationPromptBytes
  | a2a parts => ∃ texts, A2a.textsOf parts = some texts ∧ texts ≠ [] ∧ texts ≠ [""] ∧
      A2a.linesBytes texts ≤ maxContinuationPromptBytes
  | gateway envelope => ∃ bytes, envelope.payload = some bytes ∧ bytes ≠ [] ∧
      (fromUtf8Lossy bytes).utf8ByteSize ≤ maxContinuationPromptBytes
  | retry source => source.text ≠ "" ∧ source.text.utf8ByteSize ≤ maxContinuationPromptBytes

end Ingress

/-! ### What the first turn refuses -/

theorem boundedPrompt_error_iff (v : String) :
    boundedPrompt v = .error .continuation ↔
      ¬ (v ≠ "" ∧ v.utf8ByteSize ≤ maxContinuationPromptBytes) := by
  unfold boundedPrompt
  split
  · rename_i h
    simp only [true_iff]
    rintro ⟨hne, hle⟩
    rcases h with h | h
    · exact hne (String.isEmpty_iff.mp h)
    · omega
  · rename_i h
    simp only [reduceCtorEq, false_iff, not_not]
    rw [not_or] at h
    exact ⟨fun he => h.1 (String.isEmpty_iff.mpr he), by omega⟩

section

variable [Externals]

/-- A turn is refused for its prompt when the prompt is out of bounds, and only then. -/
theorem beginContinuation_continuation_iff {lease : Lease} {delivery_id : DeliveryId}
    {prompt : String} {now : DateTime} {db : Db} :
    (beginContinuation lease delivery_id prompt now db).1 = .error .continuation ↔
      boundedPrompt prompt = .error .continuation := by
  obtain ⟨⟨r, db'⟩, hcall⟩ : ∃ result, beginContinuation lease delivery_id prompt now db = result :=
    ⟨_, rfl⟩
  rw [hcall]
  unfold beginContinuation at hcall
  cases hprompt : boundedPrompt prompt with
  | error e =>
    rw [hprompt] at hcall
    have herror : r = .error e := congrArg Prod.fst hcall.symm
    rw [herror]
    simp
  | ok p =>
    rw [hprompt] at hcall
    simp only [reduceCtorEq, iff_false]
    rcases Tx.commit_cases hcall with hok | ⟨-, e, herror, rfl⟩
    · -- the end of the body answers without an error
      obtain ⟨_, _, -, hok⟩ := Tx.bind_ok.1 hok
      obtain ⟨_, _, -, hok⟩ := Tx.bind_ok.1 hok
      obtain ⟨_, _, -, hok⟩ := Tx.bind_ok.1 hok
      obtain ⟨_, _, -, hok⟩ := Tx.bind_ok.1 hok
      obtain ⟨_, _, -, hok⟩ := Tx.bind_ok.1 hok
      obtain ⟨rfl, -⟩ := Tx.pure_ok.1 hok
      exact nofun
    · have hother : e ≠ .continuation := by
        rw [Tx.bind_of_ok rfl] at herror
        refine Tx.Aborts.of_error (P := fun e => e ≠ .continuation) herror ?_
        refine Tx.aborts_bind (Tx.aborts_orElse nofun) fun _ => ?_
        refine Tx.aborts_bind (Tx.aborts_read _) fun _ => ?_
        refine Tx.aborts_bind (Tx.aborts_require nofun) fun _ => ?_
        exact Tx.aborts_bind (Tx.aborts_insert nofun) fun _ => Tx.aborts_pure _
      intro h
      exact hother (Except.error.inj h)

end

/-! ### What each ingress admits -/

theorem trimStart_eq_nil_iff (cs : List Char) :
    Text.trimStart cs = [] ↔ ¬ ∃ c ∈ cs, Text.isWhitespace c = false := by
  unfold Text.trimStart
  rw [List.dropWhile_eq_nil_iff]
  simp

/-- Joined lines are empty when there are none, or only one that is. -/
theorem joinLines_eq_empty_iff (lines : List String) :
    A2a.joinLines lines = "" ↔ lines = [] ∨ lines = [""] := by
  cases lines with
  | nil => simp [A2a.joinLines]
  | cons line rest =>
    cases rest with
    | nil => simp [A2a.joinLines]
    | cons next rest =>
      simp only [reduceCtorEq, List.cons.injEq, and_false, or_self, iff_false]
      intro h
      have hsize := congrArg String.utf8ByteSize h
      rw [A2a.utf8ByteSize_joinLines] at hsize
      simp [A2a.linesBytes] at hsize

/-- A byte string without bytes is the one without text. -/
theorem fromUtf8Lossy_eq_empty_iff (bytes : List UInt8) : fromUtf8Lossy bytes = "" ↔ bytes = [] := by
  unfold fromUtf8Lossy
  cases bytes with
  | nil => simp [lossyChars]
  | cons b bytes => simp [lossyChars]

/-- An admitted text is a prompt exactly when its input is startable. -/
theorem Ingress.startable_iff {input : Ingress} {text : String} (h : input.text = some text) :
    (text ≠ "" ∧ text.utf8ByteSize ≤ maxContinuationPromptBytes) ↔ input.Startable := by
  cases input with
  | matrix event policy =>
    obtain ⟨found, hfound, rfl⟩ := Option.map_eq_some_iff.mp h
    obtain ⟨agent_id, text⟩ := found
    have hselect : selectTarget event policy = .ok (agent_id, text) := by
      cases hs : selectTarget event policy with
      | error e =>
        rw [hs] at hfound
        cases hfound
      | ok pair =>
        rw [hs] at hfound
        cases hfound
        rfl
    have htext := selectTarget_text hselect
    dsimp only [Ingress.Startable]
    cases haddressed : addressed event.body with
    | none =>
      rw [haddressed] at htext
      rw [htext]
    | some found =>
      rw [haddressed] at htext
      dsimp only at htext ⊢
      have hempty : String.ofList (Text.trimStart found.2) ≠ "" ↔
          ∃ c ∈ found.2, Text.isWhitespace c = false := by
        rw [Ne, String.ofList_eq_empty_iff, trimStart_eq_nil_iff, not_not]
      rw [htext, hempty]
  | a2a parts =>
    obtain ⟨texts, htexts, rfl⟩ := Option.map_eq_some_iff.mp h
    rw [A2a.utf8ByteSize_joinLines, Ne, joinLines_eq_empty_iff, not_or]
    constructor
    · rintro ⟨⟨hnil, hone⟩, hle⟩
      exact ⟨texts, htexts, hnil, hone, hle⟩
    · rintro ⟨texts', htexts', hnil, hone, hle⟩
      rw [htexts] at htexts'
      cases htexts'
      exact ⟨⟨hnil, hone⟩, hle⟩
  | gateway envelope =>
    have h : (if envelope.validate = .ok () then some envelope.text else none) = some text := h
    split at h
    · cases h
      unfold GatewayEnvelope.text Ingress.Startable
      cases hpayload : envelope.payload with
      | none => simp [hpayload]
      | some bytes => simp [hpayload, fromUtf8Lossy_eq_empty_iff]
    · cases h
  | retry source =>
    cases h
    exact Iff.rfl

/-- **Exactly the startable inputs make tasks whose first turn is not refused for its prompt.** -/
theorem prompt_startable_iff [Externals] (input : Ingress) (text : String)
    (h : input.text = some text) :
    (∀ lease delivery_id now db,
      (beginContinuation lease delivery_id text now db).1 ≠ .error .continuation) ↔
      input.Startable := by
  rw [← Ingress.startable_iff h]
  constructor
  · intro hall
    by_contra hno
    exact hall ⟨⟨0⟩, ⟨0⟩, 0, 0, default⟩ ⟨0⟩ default Db.empty
      (beginContinuation_continuation_iff.2 ((boundedPrompt_error_iff text).mpr hno))
  · intro hok lease delivery_id now db herror
    exact (boundedPrompt_error_iff text).mp (beginContinuation_continuation_iff.1 herror) hok

/-! ### An address without a text -/

def aliasPolicy : RoutePolicy :=
  { aliases := fun name => if name = "agent" then some "agent-1" else none,
    room_targets := fun _ => none, direct_targets := fun _ => none }

def addressedEvent (body : String) : InboundMatrixEvent :=
  ⟨"$event:test", "!room:test", none, "@user:test", body⟩

theorem prompt_startable_iff_hello :
    (Ingress.matrix (addressedEvent "@agent: hello") aliasPolicy).text = some "hello" ∧
    ∀ lease delivery_id now db,
      (beginContinuation lease delivery_id "hello" now db).1 ≠ .error .continuation := by
  have htext : (Ingress.matrix (addressedEvent "@agent: hello") aliasPolicy).text =
      some "hello" := by decide
  refine ⟨htext, (prompt_startable_iff _ _ htext).mpr ?_⟩
  show (∃ c ∈ [' ', 'h', 'e', 'l', 'l', 'o'], Text.isWhitespace c = false) ∧
    (String.ofList (Text.trimStart [' ', 'h', 'e', 'l', 'l', 'o'])).utf8ByteSize ≤ 4096
  exact ⟨⟨'h', by simp, by decide⟩, by decide⟩

/-- `@agent:` is admitted with an empty text, and its first turn is refused. -/
theorem address_without_text_refused :
    (Ingress.matrix (addressedEvent "@agent:") aliasPolicy).text = some "" ∧
    (beginContinuation endingLease ⟨7⟩ "" (DateTime.ofSecs 1) Db.empty).1 =
      .error .continuation := by
  refine ⟨by decide, ?_⟩
  exact beginContinuation_continuation_iff.2 rfl

end GuiguBridge

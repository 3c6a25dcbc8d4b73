import GuiguBridge.Lib.Json

/-!
# Messages of the A2A protocol

The parts of a message (`src/src/a2a/wire/mod.rs`) and the text of the task that it asks for
(`src/src/a2a/ingress_support.rs`).
-/

namespace GuiguBridge

namespace A2a

inductive Role where
  | user | agent
  deriving DecidableEq

inductive Part where
  | text (text : String)
  | data (data : Json)
  | fileInline (mime_type data : String)
  | fileUri (uri : String)

structure Message where
  message_id : String
  role : Role
  parts : List Part

structure Artifact where
  artifact_id : String
  name : Option String
  description : Option String
  parts : List Part

/-- The texts among the parts; a part that is a link is not supported. -/
def textsOf : List Part → Option (List String)
  | [] => some []
  | .text text :: parts => (textsOf parts).map (text :: ·)
  | .data _ :: parts => textsOf parts
  | .fileInline _ _ :: parts => textsOf parts
  | .fileUri _ :: _ => none

/-- `join("\n")`. -/
def joinLines : List String → String
  | [] => ""
  | [line] => line
  | line :: lines => line ++ "\n" ++ joinLines lines

/-- `text_parts`; the error is `Unsupported`. -/
def textParts (parts : List Part) : Option String := (textsOf parts).map joinLines

/-- The bytes of joined lines: those of the lines, and one between two of them. -/
def linesBytes : List String → Nat
  | [] => 0
  | [line] => line.utf8ByteSize
  | line :: lines => line.utf8ByteSize + 1 + linesBytes lines

theorem utf8ByteSize_joinLines (lines : List String) :
    (joinLines lines).utf8ByteSize = linesBytes lines := by
  induction lines with
  | nil => rfl
  | cons line lines ih =>
    cases lines with
    | nil => rfl
    | cons next rest =>
      show (line ++ "\n" ++ joinLines (next :: rest)).utf8ByteSize =
        line.utf8ByteSize + 1 + linesBytes (next :: rest)
      rw [String.utf8ByteSize_append, String.utf8ByteSize_append, ih]
      rfl

end A2a

end GuiguBridge

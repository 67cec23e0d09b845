/-! The ways in which a call to the host can fail, and the text that reports each. -/

namespace MediaPlayback

/-- Why a host call failed. -/
inductive HostError where
  | notAvailable (what : String)
  | operationFailed (reason : String)
  | unknownSession (session : String)
  | attachmentNotFound (transferId : String)
  | io (reason : String)
deriving DecidableEq, Repr, Inhabited

namespace HostError

/-- The name of a cause. -/
def kind : HostError → String
  | .notAvailable _ => "NotAvailable"
  | .operationFailed _ => "OperationFailed"
  | .unknownSession _ => "UnknownSession"
  | .attachmentNotFound _ => "AttachmentNotFound"
  | .io _ => "Io"

/-- The cause with this name and with what its message is made from. -/
def ofKind? (kind text : String) : Option HostError :=
  [.notAvailable text, .operationFailed text, .unknownSession text, .attachmentNotFound text,
    .io text].find? (·.kind == kind)

theorem ofKind?_kind (e : HostError) : ∃ text, ofKind? e.kind text = some e := by
  cases e <;> exact ⟨_, rfl⟩

def message : HostError → String
  | .notAvailable what => "Bridge capability not available: " ++ what
  | .operationFailed reason => "Bridge operation failed: " ++ reason
  | .unknownSession session => "Unknown playback session: " ++ session
  | .attachmentNotFound transferId => "Attachment not found: " ++ transferId
  | .io reason => "IO error: " ++ reason

end HostError

end MediaPlayback

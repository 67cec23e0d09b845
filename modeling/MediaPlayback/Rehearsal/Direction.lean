import MediaPlayback.Rehearsal.Host

/-! Directions to the scripted host: what it is to do differently from now on. -/

namespace MediaPlayback

/-- Changes of how the host answers. What is absent stays as it was. -/
structure Direction where
  /-- The operations that are to fail, and those that are to fail no more. -/
  errors : List (String × Option HostError) := []
  granted : Option Bool := none
  screen : Option Bool := none
  position : Option Duration := none
  media : List (String × Medium) := []
  attachments : List (String × Attachment) := []
  conversations : List (String × Conversation) := []
  appState : Option AppState := none
deriving Repr

namespace ScriptedHost

/-- Makes an operation fail, or fail no more. -/
def setError (h : ScriptedHost) (operation : String) (error : Option HostError) : ScriptedHost :=
  let others := h.errors.filter (·.1 ≠ operation)
  { h with errors := (error.map fun e => (operation, e)).toList ++ others }

def follow (h : ScriptedHost) (d : Direction) : ScriptedHost :=
  let h := d.errors.foldl (fun h (operation, error) => h.setError operation error) h
  { h with
    granted := d.granted.getD h.granted
    screen := d.screen.getD h.screen
    position := d.position.getD h.position
    media := d.media ++ h.media
    attachments := d.attachments ++ h.attachments
    conversations := d.conversations ++ h.conversations
    appState := d.appState.getD h.appState }

end ScriptedHost
end MediaPlayback

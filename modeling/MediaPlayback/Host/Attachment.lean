import MediaPlayback.Duration
import MediaPlayback.Path

/-! What a host's attachment store knows about a transfer: the file, its tags, and the conversation
it came from. -/

namespace MediaPlayback

/-- A conversation, with the name it is shown under if it has one. -/
structure Conversation where
  id : String
  displayName : Option String := none
deriving DecidableEq, Repr, Inhabited

/-- The name of a conversation for people to read. -/
def Conversation.label (c : Conversation) : String := c.displayName.getD c.id

/-- The file of a transfer and what its tags say. -/
structure Attachment where
  path : Path
  title : Option String := none
  artist : Option String := none
  duration : Option Duration := none
deriving DecidableEq, Repr, Inhabited

end MediaPlayback

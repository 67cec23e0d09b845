import MediaPlayback.Host.Attachment

/-! What a playback notification says, and where a tap on it leads. -/

namespace MediaPlayback

/-- The slot that a notification is shown in. -/
structure NotificationId where
  slot : UInt32
deriving DecidableEq, Repr, Inhabited

inductive TapTarget where
  | player
  | conversation (c : Conversation)
deriving DecidableEq, Repr, Inhabited

structure NotificationContent where
  title : String
  subtitle : Option String
  isPlaying : Bool
  tapTarget : TapTarget
deriving DecidableEq, Repr, Inhabited

end MediaPlayback

import MediaPlayback.Host.Error
import MediaPlayback.Host.Notification
import MediaPlayback.Host.Session
import MediaPlayback.Host.Token
import MediaPlayback.Host.Visibility

/-! The calls that are made to a host, and what a call that succeeds is answered with. Preparing a
session is not among them: its answer comes later, as a message. -/

namespace MediaPlayback

inductive HostCall where
  | subscribeOutput
  | play (session : SessionId)
  | pause (session : SessionId)
  | seek (session : SessionId) (position : Duration)
  | position (session : SessionId)
  | unload (session : SessionId)
  | subscribeFocus
  | requestFocus
  | abandonFocus
  | isScreenOn
  | acquireWakeLock (tag : String) (timeout : Duration)
  | releaseWakeLock (tag : String)
  | showNotification (id : NotificationId) (content : NotificationContent)
  | cancelNotification (id : NotificationId)
  | appState
  | subscribeAppState
  | resolve (transferId : String)
  | conversationFor (transferId : String)
deriving DecidableEq, Repr

/-- What a successful call is answered with. -/
abbrev HostCall.Answer : HostCall → Type
  | .position _ => Duration
  | .requestFocus => FocusGrant
  | .isScreenOn => Bool
  | .appState => AppState
  | .resolve _ => Attachment
  | .conversationFor _ => Option Conversation
  | _ => Unit

/-- What a call is answered with. -/
abbrev HostCall.Result (call : HostCall) : Type := Except HostError call.Answer

end MediaPlayback

import MediaPlayback.Audio.Wave
import MediaPlayback.Host.Error
import MediaPlayback.Json.Notification
import MediaPlayback.Json.Parser

/-! A directory of attachments. The file of a transfer is the one whose name, with or without its
last extension, is the transfer's name. One file of the directory is no attachment: the index that
says which conversations the transfers came from. -/

namespace MediaPlayback

/-- Where a link leads, all links on the way followed. -/
inductive LinkTarget where
  | nothing
  | file (bytes : List UInt8)
  | directory
deriving DecidableEq, Repr

inductive EntryContent where
  | file (bytes : List UInt8)
  | directory
  | link (target : LinkTarget)
deriving DecidableEq, Repr

structure Entry where
  /-- Names are texts. A name whose bytes are not UTF-8 has no entry, even if it is so only behind the
  last dot and the rest could be a transfer's. -/
  name : String
  content : EntryContent
deriving DecidableEq, Repr

/-- What is at a place where attachments should be. -/
inductive Place where
  | nothing
  | file
  | directory (entries : List Entry)
deriving DecidableEq, Repr

structure AttachmentDirectory where
  root : Path
  place : Place
deriving Repr

namespace AttachmentDirectory

def indexName : String := "conversations.json"

/-- What is reported of a place that is no directory. -/
def notDirectory : HostError := .io "Not a directory (os error 20)"

/-- What is reported of an index that is a directory. -/
def indexIsDirectory : HostError := .io "Is a directory (os error 21)"

/-- Whether a transfer's name could lead out of the directory, or is empty. -/
def isForbidden (transferId : String) : Bool :=
  transferId.isEmpty || transferId.toList.any (fun c => c = '/' || c = '\\') || transferId = ".."

/-- Whether an entry is a file itself; a link to one is none. -/
def Entry.isFile (e : Entry) : Bool := e.content matches .file _

/-- The bytes that are read at an entry, if there is something; links are followed. -/
def Entry.read (e : Entry) : Except HostError (Option (List UInt8)) :=
  match e.content with
  | .file bytes | .link (.file bytes) => .ok (some bytes)
  | .directory | .link .directory => .error indexIsDirectory
  | .link .nothing => .ok none

def isNamedAfter (transferId : String) (e : Entry) : Bool :=
  e.name = transferId || stem e.name.toList = transferId.toList

def isFileOf (transferId : String) (e : Entry) : Bool :=
  e.name ≠ indexName && isNamedAfter transferId e && Entry.isFile e

/-- The path of an entry. A slash is put behind the root unless there is one. -/
def pathOf (d : AttachmentDirectory) (name : String) : Path :=
  let divided := d.root.text.toList.getLast?.all (· = '/')
  ⟨d.root.text ++ (if divided then "" else "/") ++ name⟩

/-- The entry that holds a transfer. -/
def findFile (d : AttachmentDirectory) (transferId : String) : Except HostError Entry :=
  if isForbidden transferId then .error (.attachmentNotFound transferId)
  else
    match d.place with
    | .nothing => .error (.attachmentNotFound transferId)
    | .file => .error notDirectory
    | .directory entries =>
      match entries.find? (isFileOf transferId) with
      | some e => .ok e
      | none => .error (.attachmentNotFound transferId)

/-- The file of a transfer and what it says about itself. -/
def resolve (d : AttachmentDirectory) (transferId : String) : Except HostError Attachment :=
  match d.findFile transferId with
  | .error e => .error e
  | .ok e =>
    let description := match e.content with
      | .file bytes => (Wave.describe? bytes).getD {}
      | .directory | .link _ => {}
    .ok {
      path := d.pathOf e.name
      title := description.tags.title
      artist := description.tags.artist
      duration := description.duration }

/-- Reads an index: the last entry of a name counts. -/
def readIndex : Draft → Except Fault (List (String × Conversation))
  | .object fields ending =>
    Draft.readFields
      (fun index name => some fun d => do return (name, ← Conversation.ofDraft d) :: index) []
      fields ending
  | d => .error d.wrongKind

/-- The index that the bytes of a file hold. -/
def indexOf? (bytes : List UInt8) : Option (List (String × Conversation)) :=
  (Json.readBytes readIndex bytes).toOption

/-- The report that the index cannot be understood. -/
def invalidIndex (d : AttachmentDirectory) : HostError :=
  .operationFailed ("Invalid conversation index " ++ (d.pathOf indexName).text)

def conversationFor (d : AttachmentDirectory) (transferId : String) :
    Except HostError (Option Conversation) :=
  match d.place with
  | .nothing => .ok none
  | .file => .error notDirectory
  | .directory entries =>
    match entries.find? (·.name = indexName) with
    | none => .ok none
    | some e =>
      match Entry.read e with
      | .error e => .error e
      | .ok none => .ok none
      | .ok (some bytes) =>
        match indexOf? bytes with
        | some index => .ok (index.lookup transferId)
        | none => .error d.invalidIndex

end AttachmentDirectory
end MediaPlayback

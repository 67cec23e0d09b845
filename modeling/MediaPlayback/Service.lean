import MediaPlayback.Config
import MediaPlayback.Core.Declaration
import MediaPlayback.Event.Bus

/-! The playback service: it starts a playback core for a configuration, follows the host's app
state, and turns transfers into playable items. -/

namespace MediaPlayback

/-- Why no service was started. -/
inductive StartFailure where
  | refused (error : ServiceError)
  /-- A part could not be made for the settings. -/
  | crashed
deriving Repr

/-- The bus of a service and, if it can tick, the period of its position reports. -/
structure ServiceParts where
  bus : Bus CoreEvent
  period : Duration

/-- Makes the parts of a service. The bus cannot be made for every size and the clock not for a
period of zero. -/
def Settings.parts (s : Settings) : Except StartFailure ServiceParts :=
  match Bus.create? s.eventBufferSize.toNat with
  | none => .error .crashed
  | some bus => if s.progressInterval.isZero then .error .crashed else .ok ⟨bus, s.progressInterval⟩

/-- Checks what a service is to be started with, and makes its parts. `clock` says whether there is
something that runs timers. -/
def Settings.startService (s : Settings) (clock : Bool) : Except StartFailure ServiceParts :=
  match s.validate with
  | .error e => .error (.refused (.config e))
  | .ok () =>
    if clock then s.parts
    else
      .error (.refused (.initializationFailed
        "CoreService must be created inside a tokio runtime"))

/-- A service that was started. -/
structure Service (σ L : Type) where
  core : Core σ L
  bus : Bus CoreEvent
  /-- Whether the signal gets to hear of the host's app state. -/
  following : Bool

namespace Config

variable {σ L : Type}

/-- The core of a service before its engine starts: `catalog` is what is known of items so far, and
all that happened is that the start was written to the log. -/
def idleCore (config : Config) (outside : σ) (catalog : Catalog) : Core σ L :=
  let settings := config.settings
  let world : World σ L := { settings, catalog, outside }
  { world := world.log .service .info "Playback core started"
      [("debounce_ms", toString settings.backgroundDebounce.millis64.toNat),
        ("progress_interval_ms", toString settings.progressInterval.millis64.toNat),
        ("attachments", toString config.attachmentStore.isSome)]
    signal := { debounce := settings.backgroundDebounce } }

variable [Surroundings σ L]

/-- The service that is made of its parts: the engine starts, and the signal begins to follow the
host's app state. -/
def serve (config : Config) (parts : ServiceParts) (outside : σ) (catalog : Catalog) :
    Service σ L :=
  let (following, core) := ((config.idleCore outside catalog).launch parts.period).attach
  { core, bus := parts.bus, following }

/-- Starts a service for a configuration, if it is accepted and the parts can be made. -/
def startService (config : Config) (clock : Bool) (outside : σ) (catalog : Catalog) :
    Except StartFailure (Service σ L) :=
  (config.settings.startService clock).map fun parts => config.serve parts outside catalog

end Config

/-- The report that no attachment store was configured. -/
def ServiceError.noAttachmentStore : ServiceError :=
  .capabilityMissing Capability.attachmentStore.name
    "configure an attachment store or an attachments directory to resolve transfers"

namespace World

variable {σ L : Type} [Surroundings σ L]

/-- Makes the item of a transfer. That its conversation cannot be found does no harm. -/
def resolveItem (w : World σ L) (transferId : String) : Except PlaybackError Item × World σ L :=
  match w.call (.resolve transferId) with
  | (.error e, w) => (.error (.host e), w)
  | (.ok attachment, w) =>
    let (conversation, w) := match w.call (.conversationFor transferId) with
      | (.ok conversation, w) => (conversation, w)
      | (.error e, w) =>
        (none, w.log .item .debug "Conversation lookup failed"
          [("transfer_id", transferId), ("error", e.message)])
    let (item, catalog) := w.catalog.ofAttachment transferId attachment conversation
    (.ok item, { w with catalog })

end World

namespace Core

variable {σ L : Type} [Surroundings σ L]

/-- Makes the item of a transfer on behalf of a user. -/
def resolveItem (c : Core σ L) (transferId : String) : Except ServiceError Item × Core σ L :=
  match c.world.resolveItem transferId with
  | (.error e, world) => (.error (.playback e), { c with world })
  | (.ok item, world) =>
    (.ok item, { c with
      world := world.log .service .debug "Resolved playable item"
        [("transfer_id", transferId), ("file", item.fileName)] })

/-- Makes the item of a transfer and plays it. -/
def playAttachment (c : Core σ L) (transferId : String) : Except ServiceError Item × Core σ L :=
  match c.resolveItem transferId with
  | (.error e, c) => (.error e, c)
  | (.ok item, c) =>
    if c.phase = .running then (.ok item, c.post (.playItem item))
    else (.error (.playback .engineShutdown), c)

end Core
end MediaPlayback

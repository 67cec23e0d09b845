import MediaPlayback.Engine.Holdings
import MediaPlayback.Engine.Presenter
import MediaPlayback.Engine.Transition
import MediaPlayback.Rehearsal.Direction
import MediaPlayback.Rehearsal.Observer

/-! A bench: the parts of an engine that deal with the host, with a scripted host and without the
engine around them. Each part is tried on its own, and the bench shows what reached the host. -/

namespace MediaPlayback

structure Bench where
  world : ScriptedWorld
  shelf : Shelf := []
  /-- How much of the trace was shown. -/
  seen : Nat := 0
  /-- Sessions that were asked for and not prepared yet, by name. -/
  requested : List (String × OutputRequest) := []

namespace Bench

def ofItems (host : ScriptedHost) (settings : Settings) (items : List (String × ItemRequest)) :
    Bench :=
  let (shelf, catalog) := Catalog.stock {} [] items
  { world := { outside := host, settings, catalog }, shelf }

def setWorld (b : Bench) (world : ScriptedWorld) : Bench := { b with world }

def fetch (b : Bench) (request : ItemRequest) : Item × Bench :=
  let (item, catalog) := b.world.catalog.fetch b.shelf request
  (item, b.setWorld { b.world with catalog })

/-- Changes how the host answers. -/
def direct (b : Bench) (d : Direction) : Bench :=
  b.setWorld { b.world with outside := b.world.outside.follow d }

/-- Asks for a session for an item. The one before is unloaded at once. -/
def request (b : Bench) (name : String) (item : ItemRequest) : Bench :=
  let (item, b) := b.fetch item
  let output := b.world.catalog.outputRequest item
  { b with
    world := b.world.destroyOutput World.replacing
    requested := (name, output) :: b.requested.filter (·.1 ≠ name) }

/-- Prepares a session that was asked for, if there is one of that name. -/
def prepare? (b : Bench) (name : String) : Option (Except HostError PreparedSession × Bench) :=
  (b.requested.lookup name).map fun output =>
    let world := b.world.record (.prepares output)
    let path := output.path.text
    let (result, outside) := ((world.outside.admit? path).getD world.outside).prepare path
    (result,
      { b with
        world := { world with outside }
        requested := b.requested.filter (·.1 ≠ name) })

/-- What reached the host since the bench was looked at last. -/
def look (b : Bench) : List Act × Bench :=
  let history := b.world.history
  ((history.drop b.seen).filterMap (Rehearsal.act? b.world.outside),
    { b with seen := history.length })

end Bench
end MediaPlayback

import VersionedAssets.Response.Sink
import VersionedAssets.Store

/-! # The world of a request

What lies outside of a request and what it leaves there: the host, the clocks, the streams opened so
far, the journal, and the paths that stores were asked for. Two kinds of actions run in it. Serving
actions yield a value; handling actions also write a response.
-/

namespace VersionedAssets

/-- A path that a store was asked for. -/
structure Enquiry where
  store : String
  path : String
  deriving DecidableEq, Repr

/-- Everything outside of a request. -/
structure World where
  host : Host := {}
  /-- Every stream opened so far. -/
  streams : List Stream := []
  /-- The journal, the oldest record first. -/
  journal : List Record := []
  /-- Records below this level are dropped. -/
  threshold : Level := Level.debug
  /-- What stores were asked for, the oldest enquiry first. -/
  enquiries : List Enquiry := []
  /-- Remarks that layers around the application leave, the oldest first. -/
  remarks : List String := []
  /-- The coming readings of the clock in seconds; the last one stays. -/
  clock : List Float := [0]
  /-- How many request ids were drawn. -/
  drawnIds : Nat := 0
  /-- The time of day as access records show it. -/
  timestamp : String := ""
  /-- The milliseconds since 1970. -/
  now : Int := 0

/-- An action that yields a value. What it did to the world stays when it fails. -/
abbrev Serving (α : Type) := ExceptT Fault (StateM World) α

namespace World

/-- Adds a record to the journal unless it is below the threshold. -/
def note (world : World) (record : Record) : World :=
  if record.level < world.threshold then world
  else { world with journal := world.journal ++ [record] }

/-- Adds records to the journal. -/
def noteAll (world : World) (records : List Record) : World := records.foldl note world

/-- The reading of the clock, and the world in which the next one is due. -/
def readClock (world : World) : Float × World :=
  match world.clock with
  | [] => (0, world)
  | [last] => (last, world)
  | reading :: rest => (reading, { world with clock := rest })

/-- A request id: the number of ids drawn, in eight hexadecimal digits. -/
def drawId (world : World) : String × World :=
  let drawn := world.drawnIds + 1
  (String.ofList (Text.Quoted.hex 8 drawn), { world with drawnIds := drawn })

end World

namespace Serving

/-- Writes a record. -/
def note (channel : String) (level : Level) (text : String) : Serving Unit :=
  modify fun world => world.note { channel, level, text }

/-- Leaves a remark. -/
def remark (text : String) : Serving Unit :=
  modify fun world => { world with remarks := world.remarks ++ [text] }

/-- Reads the clock. -/
def readClock : Serving Float := fun world =>
  let (reading, after) := world.readClock
  (.ok reading, after)

/-- Draws a request id. -/
def drawId : Serving String := fun world =>
  let (id, after) := world.drawId
  (.ok id, after)

/-- Asks a store for a path. -/
def ask (store : Store) (path : String) : Serving (Option Location) := fun world =>
  let answer := store.lookup world.host path
  let asked := { world with enquiries := world.enquiries ++ [Enquiry.mk store.name path] }
  (answer.outcome, asked.noteAll answer.records)

/-- The last-modified time of a location. -/
def lastModified (location : Location) : Serving Int := fun world =>
  (location.lastModified world.host.files, world)

/-- Opens a location and gives the number of the stream. -/
def openStream (location : Location) : Serving Nat := fun world =>
  match location.open? world.host.files with
  | .error fault => (.error fault, world)
  | .ok stream =>
    (.ok world.streams.length, { world with streams := world.streams ++ [stream] })

/-- Runs an operation on a response and gives the response afterwards. The response is given also
when the operation fails. -/
def onResponse {α : Type} (response : Response) (operation : Writing α) (world : World) :
    Except Fault α × Response × World :=
  let (outcome, sink) := operation { response, streams := world.streams }
  (outcome, sink.response, { world with streams := sink.streams })

end Serving

/-- A response being written and the world around it. -/
structure Exchange where
  response : Response := {}
  world : World

/-- An action that writes a response. -/
abbrev Handling (α : Type) := ExceptT Fault (StateM Exchange) α

namespace Handling

/-- Runs an operation on the response. -/
def write {α : Type} (operation : Writing α) : Handling α := fun exchange =>
  let (outcome, response, world) := Serving.onResponse exchange.response operation exchange.world
  (outcome, { response, world })

/-- Runs an action that leaves the response alone. -/
def serve {α : Type} (action : Serving α) : Handling α := fun exchange =>
  let (outcome, world) := action exchange.world
  (outcome, { exchange with world })

/-- Goes on with a value or fails. -/
def ofExcept {α : Type} (outcome : Except Fault α) : Handling α := fun exchange =>
  (outcome, exchange)

/-- Writes a record. -/
def note (channel : String) (level : Level) (text : String) : Handling Unit :=
  serve (Serving.note channel level text)

/-- The response as it is now. -/
def response : Handling Response := return (← get).response

end Handling

end VersionedAssets

import CatalogFeeds.Cache.Store
import CatalogFeeds.Engine.Decode
import CatalogFeeds.Engine.Request
/-!
Running endpoints.

A run builds the URL, looks for a fresh payload in the cache, sends the request if there is none,
stores what comes back and decodes it. A payload from the cache that does not decode is fetched
once more. A run acts on a session, which holds the files and the requests sent so far; requests
are answered by a transport. The storage that files are in refuses nothing, unless another one is
named.
-/

namespace CatalogFeeds

open CatalogFeeds.Time

/-- What a catalogue answers to a request. -/
structure Response where
  status : Nat
  body : ByteArray

/-- Answers requests, or tells why there is no answer. -/
abbrev Transport := Request → EndpointM Response

/-- What surrounds a run: who answers requests, the cache if there is one, and the time. -/
structure Surroundings where
  transport : Transport
  cache : Option PayloadStore := none
  now : Instant

/-- What runs act on: the files, and the requests sent so far. -/
structure Session where
  files : FileTree
  sent : List Request := []

/-- Actions on a session that may fail; a failure leaves the session as it is at that point. -/
abbrev RunM := ExceptT EndpointError (StateM Session)

/-- Where a payload comes from. -/
inductive Supplier where
  | cache
  | network
  deriving DecidableEq, Repr

/-- A payload. From the network it comes with the names of the path it was stored at, or with
the reason why it was not stored. -/
structure Payload where
  body : ByteArray
  origin : Supplier
  storedAt : Option (List String) := none
  storeError : Option StoreError := none

/-- The records of a run, and the payload they were read from. -/
structure Harvest (α : Type) where
  records : List α
  raw : ByteArray
  origin : Supplier
  storeError : Option StoreError := none

namespace Engine

/-- The key of the file that a payload is stored in; an empty key has none. -/
def entryKey? (engine : Engine) (key : String) : Option (List String) :=
  if key.isEmpty then none
  else some [engine.name, if FilePath.hasExtension key then key else key ++ ".json"]

/-- The instant since which a payload has to have been stored to be fresh. -/
def staleBefore (engine : Engine) (now : Instant) : Instant :=
  now.minus engine.ttl.seconds engine.ttl.nanoseconds

/-- The cache and the key of an endpoint's payload, if it is to be stored at all. -/
def cacheSlot? (engine : Engine) (around : Surroundings) (key : String) :
    Option (PayloadStore × List String) := do
  return (← around.cache, ← engine.entryKey? key)

/-- The fresh payload of a slot. An entry that cannot be read or is empty counts as missing. -/
def cached? (engine : Engine) (around : Surroundings) (files : FileTree)
    (slot : Option (PayloadStore × List String)) : Option ByteArray := do
  let (cache, entry) ← slot
  match cache.freshEntry files entry (engine.staleBefore around.now) with
  | .ok (some body) => if body.isEmpty then none else some body
  | _ => none

/-- Sends a request and records that it was sent. -/
def send (around : Surroundings) (request : Request) : RunM Response := do
  modify fun session => { session with sent := session.sent ++ [request] }
  match around.transport request with
  | .ok response => return response
  | .error error => throw error

/-- Stores a payload in its slot. A failure to do so does not lose the payload. -/
def store (around : Surroundings) (slot : Option (PayloadStore × List String)) (body : ByteArray)
    (storage : Storage := .sound) : RunM Payload := do
  match slot with
  | none => return { body, origin := .network }
  | some (cache, entry) =>
    let session ← get
    let (written, files) := cache.write around.now session.files entry body storage
    set { session with files }
    match written with
    | .ok names => return { body, origin := .network, storedAt := some names }
    | .error error => return { body, origin := .network, storeError := some error }

/-- Fetches a payload from the network. An answer with a status of 400 or more is an error. -/
def fetchFresh (engine : Engine) (around : Surroundings) (endpoint : Endpoint) (params : Params)
    (start : String) (storage : Storage := .sound) : RunM Payload := do
  let url ← engine.urlFor endpoint params
  let request ← engine.requestFor endpoint params url
  let response ← send around request
  if 400 ≤ response.status then throw (.status response.status (Url.maskText url.render))
  store around (engine.cacheSlot? around (params.entryName start)) response.body storage

/-- Fetches a payload, from the cache if it is fresh. -/
def fetch (engine : Engine) (around : Surroundings) (endpoint : Endpoint) (params : Params)
    (start : String) (storage : Storage := .sound) : RunM Payload := do
  let _ ← engine.urlFor endpoint params
  let session ← get
  match engine.cached? around session.files (engine.cacheSlot? around (params.entryName start)) with
  | some body => return { body, origin := .cache }
  | none => engine.fetchFresh around endpoint params start storage

/-- The run that a payload amounts to. -/
def finish {α : Type} (payload : Payload) (records : List α) : Harvest α where
  records
  raw := payload.body
  origin := payload.origin
  storeError := payload.storeError

/-- Fetches a payload and decodes it. A payload from the cache that does not decode is fetched
again. -/
def run {α : Type} (engine : Engine) (around : Surroundings) (endpoint : Endpoint)
    (read : Json → Except ShapeError α) (params : Params) (start : String)
    (storage : Storage := .sound) : RunM (Harvest α) := do
  let payload ← engine.fetch around endpoint params start storage
  match payload.origin, engine.decode endpoint read payload.body with
  | _, .ok records => return finish payload records
  | .network, .error error => throw error
  | .cache, .error _ =>
    let payload ← engine.fetchFresh around endpoint params start storage
    let records ← engine.decode endpoint read payload.body
    return finish payload records

end Engine

end CatalogFeeds

import Provenance.Decimal.Shortest
import Provenance.Journal
import Provenance.Settings

/-!
# Loading documents

A load asks for both documents at once, the tables before the fields.  It fails as soon as one of
them fails, and it succeeds when both have arrived.  Requests are numbered in the order in which
they are sent.
-/

namespace Provenance

/-- A value that comes with a failure. -/
inductive HostValue where
  | text (s : String)
  | number (x : Float)
  | undefined

/-- A value in the report of a failure. -/
def HostValue.message : HostValue → String
  | text s => s
  | number x => "JsValue(" ++ Decimal.plain x ++ ")"
  | undefined => "JsValue(undefined)"

/-- The body of a response. -/
inductive ResponseBody where
  | text (s : String)
  | notText
  | unreadable (value : HostValue)

/-- What a request leads to. -/
inductive Answer where
  | failed (value : HostValue)
  | response (status : Nat) (body : ResponseBody)

/-! ## Answers -/

/-- Whether a status is a success. -/
def isSuccess (status : Nat) : Bool := 200 ≤ status && status ≤ 299

/-- Read the body of a response from an address. -/
def ResponseBody.read (url : String) : ResponseBody → Except LoadFailure (List RawRelation)
  | text s => parseDocument url s
  | notText => .error (.body url "response body is not text")
  | unreadable value => .error (.body url value.message)

namespace Answer

/-- Read the document that an address answers with. -/
def read (url : String) : Answer → Except LoadFailure (List RawRelation)
  | failed value => .error (.fetch url value.message)
  | response status body => if isSuccess status then body.read url else .error (.http status url)

/-- The lines about an answer: one if a text has arrived. -/
def journal (url : String) : Answer → Journal
  | response status (.text s) => if isSuccess status then [JournalLine.fetched url s] else []
  | _ => []

end Answer

/-! ## Requests -/

/-- Where requests go.  No request can be made for an address in `badUrls`. -/
structure Network where
  hasWindow : Bool
  badUrls : List String

/-- Why a request cannot be sent. -/
def Network.refusal? (net : Network) (url : String) : Option LoadFailure :=
  if net.badUrls.contains url then some (.fetch url "invalid url")
  else if !net.hasWindow then some (.fetch url "no window available")
  else none

/-- An answer to the request of a number. -/
structure Delivery where
  request : Nat
  answer : Answer

/-- How far the load of one document is. -/
inductive Fetch where
  | unsent
  | waiting (request : Nat)
  | arrived (rows : List RawRelation)

/-- What comes of carrying on with something: where it is now, the addresses of the requests sent,
and lines for the journal. -/
structure Progress (α : Type) where
  now : α
  sent : List String := []
  journal : Journal := []

/-- Carry on with a document from an address, when `count` requests have been sent so far. -/
def Fetch.advance (net : Network) (count : Nat) (delivery : Option Delivery) (url : String)
    (fetch : Fetch) : Progress (Except LoadFailure Fetch) :=
  match fetch, delivery with
  | unsent, _ =>
    match net.refusal? url with
    | some failure => { now := .error failure }
    | none => { now := .ok (.waiting count), sent := [url] }
  | waiting request, some d =>
    if d.request = request then
      { now := (d.answer.read url).map .arrived, journal := d.answer.journal url }
    else { now := .ok fetch }
  | _, _ => { now := .ok fetch }

/-! ## Loads -/

/-- A load of both documents. -/
structure Load where
  ticket : LoadTicket
  tables : Fetch
  fields : Fetch

/-- How far a load is. -/
inductive LoadState where
  | running (load : Load)
  | finished (result : Except LoadFailure Documents)

namespace Load

/-- A load that has sent no request yet. -/
def begin (ticket : LoadTicket) : Load := ⟨ticket, .unsent, .unsent⟩

/-- Where a load is after both documents have been carried on with. -/
def join (load : Load) : LoadState × Journal :=
  match load.tables, load.fields with
  | .arrived tables, .arrived fields =>
    let docs : Documents := ⟨tables, fields⟩
    (.finished (.ok docs), [JournalLine.loaded docs])
  | _, _ => (.running load, [])

/-- Carry on with a load: first with the tables, then with the fields. -/
def advance (net : Network) (sources : DataSources) (count : Nat) (delivery : Option Delivery)
    (load : Load) : Progress LoadState :=
  let first := load.tables.advance net count delivery sources.tablesUrl
  match first.now with
  | .error failure => { first with now := .finished (.error failure) }
  | .ok tables =>
    let second := load.fields.advance net (count + first.sent.length) delivery sources.fieldsUrl
    let sent := first.sent ++ second.sent
    let journal := first.journal ++ second.journal
    match second.now with
    | .error failure => { now := .finished (.error failure), sent := sent, journal := journal }
    | .ok fields =>
      let (state, last) := { load with tables := tables, fields := fields }.join
      { now := state, sent := sent, journal := journal ++ last }

end Load

end Provenance

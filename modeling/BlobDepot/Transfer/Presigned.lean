import BlobDepot.Transfer.LocalFile
import BlobDepot.Transfer.Run
import BlobDepot.Url.Basic

/-!
# Presigned transfers

A presigned URL lets its holder move a file to or from a server. The file is sent from its start
on every attempt, and a download starts the file afresh. An answer may name another place, to which
the client then turns. Texts show the URL without its query, which holds the signature; only the
texts of failed connections show it whole.
-/
namespace BlobDepot

inductive Reply where
  /-- Answers the request, with a length that need not be the body's. It may name another place. -/
  | answer (status : Nat) (body : List UInt8) (declared : Option Nat)
      (location : Option String := none)
  /-- Closes the connection after the request. -/
  | close
  /-- Never answers the request. -/
  | hang
  /-- Takes no connection. -/
  | refuse
  deriving DecidableEq, Repr, Inhabited

structure Request where
  verb : String
  target : String
  length : Option Nat
  body : List UInt8
  deriving DecidableEq, Repr, Inhabited

/-- A server and a local file: what the server does with each connection, counted from zero, how
many there were, and the requests received. -/
structure Exchange where
  reply : Nat → Reply
  file : LocalFile
  connections : Nat := 0
  requests : List Request := []

namespace Reply

def hasNoBody (status : Nat) : Bool :=
  status = 101 || status = 204 || status = 304

/-- Lengths from here on stand for something else than a length. -/
def lengthLimit : Nat := UInt64.size - 2

/-- Whether an answer is one: its status has three digits and is final, and its length can be one.
A connection that changes its protocol is answered for good. -/
def isAnswer (status : Nat) (declared : Option Nat) : Bool :=
  (status = 101 || (200 ≤ status && status ≤ 999))
    && (hasNoBody status || declared.all (· < lengthLimit))

/-- The body of an answer as it arrives: as much as was declared, or not to its end. -/
def bodyOf (status : Nat) (body : List UInt8) (declared : Option Nat) : Body :=
  if hasNoBody status then .chunks [] true
  else
    match declared with
    | none => .chunks [body] true
    | some n => if n ≤ body.length then .chunks [body.take n] true else .chunks [body] false

def ofList (replies : List Reply) (n : Nat) : Reply :=
  (replies[n]?.or replies.getLast?).getD .refuse

def response (status : Nat) (body : List UInt8) (declared : Option Nat) : Response :=
  ⟨status, statusReason status, bodyOf status body declared⟩

end Reply

namespace Exchange

def connect (x : Exchange) : Exchange :=
  { x with connections := x.connections + 1 }

def receive (x : Exchange) (r : Request) : Exchange :=
  { x.connect with requests := x.requests ++ [r] }

end Exchange

/-- The request with which an answer of a status is followed to another target, if it is. Most such
statuses ask for it without a body; the others ask for the same request, but a body that has been
read is not sent twice. -/
def Request.redirected (r : Request) (status : Nat) (target : String) : Option Request :=
  if status = 301 || status = 302 || status = 303 then some ⟨"GET", target, none, []⟩
  else if (status = 307 || status = 308) && r.length.isNone then some { r with target }
  else none

/-- A client: how many answers in a row it follows that name another place, and the URL that such a
name stands for in an answer from a URL. By default it makes out none. -/
structure Client where
  hops : Nat := 10
  resolve : Url → String → Option Url := fun _ _ => none

/-- Where a client turns after an answer to a request, and what it asks there. -/
def Client.next (client : Client) (url : Url) (r : Request) (status : Nat)
    (location : Option String) : Option (Url × Request) := do
  let url ← client.resolve url (← location)
  let r ← r.redirected status url.target
  pure (url, r)

namespace Url

def connectionText (u : Url) : String :=
  "error sending request for url (" ++ u.bare.render ++ ")"

def builderText (u : Url) : String :=
  "builder error for url (" ++ u.withoutUser.render ++ ")"

def redirectText (u : Url) : String :=
  "error following redirect for url (" ++ u.bare.render ++ ")"

end Url

def connected (s : Scene Exchange) : Scene Exchange :=
  { s with world := s.world.connect }

def received (r : Request) (s : Scene Exchange) : Scene Exchange :=
  { s with world := s.world.receive r }

def broken (operation text : String) : Ending (Except OperationError Response) :=
  .ready (.error ⟨operation, .connection text⟩)

/-- Sends a request and waits for its answer. As long as answers name other places it asks there, so
many times at most. -/
def Client.send (client : Client) (operation : String) :
    (hops : Nat) → Url → Request → Work Exchange (Except OperationError Response)
  | hops, url, r, s =>
    if !url.canBeSent then (broken operation url.builderText, s)
    else
      match s.world.reply s.world.connections with
      | .refuse => (broken operation url.connectionText, connected s)
      | .close => (broken operation url.connectionText, received r s)
      | .hang => (.hangs, received r s)
      | .answer status body declared location =>
        if Reply.isAnswer status declared then
          match client.next url r status location, hops with
          | none, _ => (.ready (.ok (Reply.response status body declared)), received r s)
          | some _, 0 => (broken operation url.redirectText, received r s)
          | some (url, r'), hops + 1 => client.send operation hops url r' (received r s)
        else (broken operation url.connectionText, received r s)

/-- A transfer between a presigned URL and a local path, by a client. -/
structure Transfer where
  url : Url
  path : String
  client : Client := {}

namespace Transfer

def uploadName (t : Transfer) : String :=
  "upload " ++ t.path ++ " to " ++ t.url.withoutQuery.render

def downloadName (t : Transfer) : String :=
  "download " ++ t.url.withoutQuery.render ++ " to " ++ t.path

/-- Sends the request of an attempt. One that cannot be read to its end is not received. -/
def send (t : Transfer) (operation : String) (r : Option Request) :
    Work Exchange (Except OperationError Response) := fun s =>
  match r with
  | some r => t.client.send operation t.client.hops t.url r s
  | none =>
    if !t.url.canBeSent then (broken operation t.url.builderText, s)
    else (broken operation t.url.connectionText, connected s)

def fileFailure (t : Transfer) (operation : String) (fault : IoFault) : OperationError :=
  ⟨operation, .io t.path fault⟩

def putRequest (t : Transfer) (data : List UInt8) : Request :=
  ⟨"PUT", t.url.target, some data.length, data⟩

def getRequest (t : Transfer) : Request :=
  ⟨"GET", t.url.target, none, []⟩

def fileLength (f : LocalFile) : Nat :=
  match f.read with
  | .ok data => data.length
  | .error _ => 0

def upload (t : Transfer) : Operation Exchange Nat where
  description := t.uploadName
  start := id
  connect s :=
    match s.world.file.opens with
    | .error fault => (.ready (.error (t.fileFailure t.uploadName fault)), s)
    | .ok _ => t.send t.uploadName (s.world.file.read.toOption.map t.putRequest) s
  onSuccess _ s := (.ready (.ok (fileLength s.world.file)), s)

def brokenBody : IoFault :=
  .custom .other "error decoding response body"

/-- Fetches into the local file. The value is the number of bytes written. -/
def download (t : Transfer) : Operation Exchange Nat where
  description := t.downloadName
  start := id
  connect := t.send t.downloadName (some t.getRequest)
  onSuccess r s :=
    let data := r.body.bytes
    match s.world.file.write data with
    | .error fault => (.ready (.error (t.fileFailure t.downloadName fault)), s)
    | .ok file =>
      let s : Scene Exchange := { s with world := { s.world with file } }
      if r.body.isComplete then (.ready (.ok data.length), s)
      else (.ready (.error (t.fileFailure t.downloadName brokenBody)), s)

end Transfer
end BlobDepot

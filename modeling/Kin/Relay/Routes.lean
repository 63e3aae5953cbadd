import Kin.Lib.Rows
import Kin.Lib.Run
import Kin.Py.FromIso
import Kin.Py.IsoOrder
import Kin.Py.Unquote

/-!
`kin_relay/routes.py` over the tables of `kin_relay/db.py`: the directory of
usernames and keys, and the mailboxes. A handler runs to its end before the next
one starts; what it wrote without a commit is rolled back when its connection is
closed. Clock readings come with a request.
-/

namespace Kin.Relay

open Kin.Lib Kin.Py

/-! ### Tables -/

structure DirectoryEntry where
  username : String
  publicKey : String
  x25519PublicKey : String
  endpoint : String
  deriving DecidableEq

structure MailboxRow where
  messageId : Nat
  username : String
  senderUsername : String
  encryptedBlob : String
  receivedAt : String
  expiresAt : String
  deriving DecidableEq

/-- The two tables, rows in the order of their ids, and the largest id that
`AUTOINCREMENT` has given out. -/
structure RelayDb where
  directoryEntries : List DirectoryEntry
  mailbox : List MailboxRow
  sequence : Nat

def createSchema : RelayDb := ⟨[], [], 0⟩

def RelayDb.entry? (db : RelayDb) (username : String) : Option DirectoryEntry :=
  Rows.lookup DirectoryEntry.username db.directoryEntries username

def RelayDb.publicKey? (db : RelayDb) (username : String) : Option String :=
  (db.entry? username).map DirectoryEntry.publicKey

/-- The largest row id; after it an `AUTOINCREMENT` insert fails. -/
def maxRowId : Nat := 2 ^ 63 - 1

/-! ### Requests and responses -/

structure InboxHeaders where
  xUsername : Option String
  xSignature : Option String
  xTimestamp : Option String

inductive Request
  | register (body : DirectoryEntry)
  | lookup (username : String)
  | deliver (username senderUsername encryptedBlob : String)
  | fetchInbox (headers : InboxHeaders)
  | acknowledgeInbox (messageIds : List Int) (headers : InboxHeaders)

structure InboxMessage where
  messageId : Nat
  senderUsername : String
  encryptedBlob : String
  deriving DecidableEq

inductive Response
  | httpException (status : Nat) (detail : String)
  /-- An exception that no handler catches. -/
  | internalServerError
  | registered
  | found (publicKey x25519PublicKey endpoint : String)
  | queued
  | inbox (messages : List InboxMessage)
  | acknowledged (count : Nat)
  deriving DecidableEq

/-- A request with the readings of the clock while it is handled. Only the fetch
reads the clock twice. -/
structure Arrival where
  request : Request
  now : Datetime
  later : Datetime

/-- What the routes take from outside: `Ed25519PublicKey.from_public_bytes(key).verify`
(`false` when either raises), the order in which SQLite returns the rows of a query
with `ORDER BY received_at`, and its limit on the variables of a statement. -/
structure Externals where
  verify : List UInt8 → List UInt8 → String → Bool
  orderByReceivedAt : List MailboxRow → List MailboxRow
  maxVariables : Nat

section

variable (ext : Externals) (db : RelayDb)

/-! ### The directory -/

def registerEndpoint (body : DirectoryEntry) : Response × RelayDb :=
  match db.entry? body.username with
  | some entry =>
      if entry.publicKey ≠ body.publicKey then
        (.httpException 409 "Username is already registered to a different key.", db)
      else
        (.registered,
          { db with
            directoryEntries :=
              Rows.modify DirectoryEntry.username db.directoryEntries body.username fun entry =>
                { entry with
                  endpoint := body.endpoint
                  x25519PublicKey := body.x25519PublicKey } })
  | none =>
      (.registered, { db with directoryEntries := db.directoryEntries ++ [body] })

def lookupEndpoint (username : String) : Response :=
  match db.entry? username with
  | some entry => .found entry.publicKey entry.x25519PublicKey entry.endpoint
  | none => .httpException 404 ("Username '" ++ username ++ "' not found in directory.")

/-! ### Delivery -/

/-- `deliver_to_mailbox`. The expiry is seven days on; past the year 9999 that overflows. -/
def deliverToMailbox (now : Datetime) (username senderUsername encryptedBlob : String) :
    Response × RelayDb :=
  match db.entry? username with
  | none =>
      (.httpException 404 ("Recipient username '" ++ username ++ "' is not registered."), db)
  | some _ =>
      match now.addDays? 7 with
      | none => (.internalServerError, db)
      | some expires =>
          if db.sequence < maxRowId then
            (.queued,
              { db with
                mailbox := db.mailbox ++
                  [{ messageId := db.sequence + 1
                     username
                     senderUsername
                     encryptedBlob
                     receivedAt := isoformat now.instant
                     expiresAt := isoformat expires.instant }]
                sequence := db.sequence + 1 })
          else (.internalServerError, db)

/-! ### The owner's requests -/

def replayWindowMinutes : Nat := 5

/-- `from_public_bytes(bytes.fromhex(key)).verify(bytes.fromhex(signature), message)`. -/
def signatureValid (publicKey signature message : String) : Bool :=
  match fromHex publicKey, fromHex signature with
  | some key, some signature => ext.verify key signature message
  | _, _ => false

def authenticateInboxRequest (now : Datetime) (headers : InboxHeaders)
    (signedMessage : Option String) : Except Response String :=
  match headers.xUsername with
  | none => .error (.httpException 400 "Missing X-Username header for authentication.")
  | some username =>
  match headers.xSignature with
  | none => .error (.httpException 400 "Missing X-Signature header for authentication.")
  | some signature =>
  match headers.xTimestamp with
  | none => .error (.httpException 400 "Missing X-Timestamp header for authentication.")
  | some xTimestamp =>
  match fromisoformat xTimestamp with
  | none => .error (.httpException 400 "Invalid X-Timestamp format. Must be ISO 8601.")
  | some timestamp =>
      if replayWindowMinutes * 60 * 1000000 < Int.natAbs (now.instant - timestamp.utc) then
        .error (.httpException 401 "X-Timestamp is outside the allowed 5-minute window.")
      else
        match db.publicKey? username with
        | none => .error (.httpException 401 "User not found in directory.")
        | some publicKey =>
            -- `signed_message or ...`: an empty message counts as absent
            let message := (signedMessage.filter (· ≠ "")).getD (username ++ ":" ++ xTimestamp)
            if signatureValid ext publicKey signature message then .ok username
            else .error (.httpException 401 "Invalid signature.")

/-- `fetch_inbox`. The clean-up is committed only when something is returned. -/
def fetchInbox (now later : Datetime) (headers : InboxHeaders) : Response × RelayDb :=
  match authenticateInboxRequest ext db now headers none with
  | .error response => (response, db)
  | .ok username =>
      let nowStr := isoformat later.instant
      let mailbox := db.mailbox.filter fun row =>
        !decide (row.username = username ∧ row.expiresAt < nowStr)
      let rows := ext.orderByReceivedAt <| mailbox.filter fun row =>
        decide (row.username = username ∧ nowStr ≤ row.expiresAt)
      if rows = [] then (.inbox [], db)
      else
        (.inbox (rows.map fun row => ⟨row.messageId, row.senderUsername, row.encryptedBlob⟩),
          { db with mailbox })

/-- `json.dumps({"message_ids": ids}, separators=(",", ":"))`. -/
def ackPayload (messageIds : List Int) : String :=
  "\x7b\"message_ids\":[" ++ ",".intercalate (messageIds.map toString) ++ "]\x7d"

/-- What an f-string writes for an absent header. -/
def headerText (header : Option String) : String := header.getD "None"

def ackMessage (headers : InboxHeaders) (messageIds : List Int) : String :=
  headerText headers.xUsername ++ ":" ++ headerText headers.xTimestamp ++ ":" ++
    ackPayload messageIds

/-- `sqlite3` binds integers of 64 bits only. -/
def bindable (n : Int) : Bool := -2 ^ 63 ≤ n && n < 2 ^ 63

def acknowledgeInbox (now : Datetime) (messageIds : List Int) (headers : InboxHeaders) :
    Response × RelayDb :=
  match authenticateInboxRequest ext db now headers (some (ackMessage headers messageIds)) with
  | .error response => (response, db)
  | .ok username =>
      if messageIds = [] then (.acknowledged 0, db)
      else if ext.maxVariables < messageIds.length + 1 || !messageIds.all bindable then
        (.internalServerError, db)
      else
        let mailbox := db.mailbox.filter fun row =>
          !decide (row.username = username ∧ (row.messageId : Int) ∈ messageIds)
        (.acknowledged (db.mailbox.length - mailbox.length), { db with mailbox })

/-! ### One request -/

def handle (arrival : Arrival) : Response × RelayDb :=
  match arrival.request with
  | .register body => registerEndpoint db body
  | .lookup username => (lookupEndpoint db username, db)
  | .deliver username senderUsername encryptedBlob =>
      deliverToMailbox db arrival.now username senderUsername encryptedBlob
  | .fetchInbox headers => fetchInbox ext db arrival.now arrival.later headers
  | .acknowledgeInbox messageIds headers =>
      acknowledgeInbox ext db arrival.now messageIds headers

end

end Kin.Relay

import RecordSearch.Storage.Command

/-!
# A store on a server

Each command goes to the server as a list of words, and the server's answer, a reply or an error line,
becomes the command's outcome. Writing no fields sends nothing.

## Main definitions

* `Command.request?` — the words sent for a command.
* `ServerError.report`, `ErrorLine.report` — an error and an error line in words.
* `Reply.signalled?` — an error within a reply, which makes the command fail.
* `Command.interpret` — the outcome of a command from the server's answer.
* `ServerScript` — a server that answers from a script, and its `Storage` instance.
-/

namespace RecordSearch

/-- What a server sends back. -/
inductive ServerAnswer where
  | reply (r : Reply)
  /-- An error line without its mark: a code, and perhaps a blank and more words. -/
  | error (line : String)

/-- The words that a command is sent as, if it is sent at all. -/
def Command.request? : Command → Option (List String)
  | .createIndex arguments => some ("FT.CREATE" :: arguments)
  | .dropIndex index => some ["FT.DROPINDEX", index]
  | .search arguments => some ("FT.SEARCH" :: arguments)
  | .readHash key => some ["HGETALL", key]
  | .writeHash _ [] => none
  | .writeHash key fields => some ("HMSET" :: key :: fields.flatMap fun f => [f.1, f.2])

/-- The command's name in reports of its failure. -/
def Command.title : Command → String
  | .createIndex _ => "FT.CREATE"
  | .dropIndex _ => "FT.DROPINDEX"
  | .search _ => "FT.SEARCH"
  | .readHash _ => "HGETALL"
  | .writeHash .. => "HSET"

namespace ServerError

/-- The kinds of failure that a server signals by a code of its own. -/
def signalled? (code : String) : Option String :=
  if code = "ERR" then some "ResponseError"
  else if code = "LOADING" then some "BusyLoadingError"
  else if code = "READONLY" then some "ReadOnly"
  else none

/-- The error in words. -/
def report (e : ServerError) : String :=
  match signalled? e.code, e.detail? with
  | some kind, none => "An error was signalled by the server- " ++ kind
  | some kind, some detail => "An error was signalled by the server - " ++ kind ++ ": " ++ detail
  | none, none => e.code ++ ": Unknown extension error encountered"
  | none, some detail => e.code ++ ": " ++ detail

/-- The error of a line: its code, and what follows the first blank. -/
def ofLine (line : String) : ServerError where
  code := String.ofList (line.toList.takeWhile (· ≠ ' '))
  detail? :=
    match line.toList.dropWhile (· ≠ ' ') with
    | [] => none
    | _ :: detail => some (String.ofList detail)

end ServerError

/-- An error line in words. -/
def ErrorLine.report (line : String) : String :=
  (ServerError.ofLine line).report

namespace Reply

mutual

/-- A reply as a client takes it: a simple `OK` is the bare acknowledgement. -/
def received : Reply → Reply
  | simple s => if s = "OK" then okay else simple s
  | array items => array (receivedAll items)
  | set items => set (receivedAll items)
  | map entries => map (receivedPairs entries)
  | annotated data attributes => annotated data.received (receivedPairs attributes)
  | push kind items => push kind (receivedAll items)
  | r => r

/-- The replies of a list as a client takes them. -/
def receivedAll : List Reply → List Reply
  | [] => []
  | r :: rest => r.received :: receivedAll rest

/-- The entries of a map as a client takes them. -/
def receivedPairs : List (Reply × Reply) → List (Reply × Reply)
  | [] => []
  | (k, v) :: rest => (k.received, v.received) :: receivedPairs rest

end

mutual

/-- The first error that is signalled anywhere in a reply. -/
def signalled? : Reply → Option ServerError
  | serverError e => some e
  | array items => signalledAmong? items
  | set items => signalledAmong? items
  | push _ items => signalledAmong? items
  | map entries => signalledAmongPairs? entries
  | annotated data attributes => data.signalled?.or (signalledAmongPairs? attributes)
  | _ => none

/-- The first error in the replies of a list. -/
def signalledAmong? : List Reply → Option ServerError
  | [] => none
  | r :: rest => r.signalled?.or (signalledAmong? rest)

/-- The first error in the entries of a map. -/
def signalledAmongPairs? : List (Reply × Reply) → Option ServerError
  | [] => none
  | (k, v) :: rest => (k.signalled?.or v.signalled?).or (signalledAmongPairs? rest)

end

/-- The report of a reply that has not the type wanted. -/
def typeReport (r : Reply) (complaint : String) : String :=
  "Response was of incompatible type - TypeError: " ++ quoted complaint ++ " (response was " ++
    r.inspect ++ ")"

/-- The value of a reply, without what is said about it. -/
def plain : Reply → Reply
  | annotated data _ => data
  | r => r

/-- The text of a field or value. -/
def fieldText (r : Reply) : Except String String :=
  match r.plain with
  | bulk bytes =>
    match validText? bytes with
    | some s => .ok s
    | none => .error "Invalid UTF-8- TypeError"
  | okay => .ok "OK"
  | simple s => .ok s
  | verbatim _ s => .ok s
  | double x => .ok (DecimalLayout.plain.render x)
  | int n => .ok (toString n.toInt)
  | other => .error (other.typeReport "Response type not string compatible.")

/-- Names and values that alternate. -/
def alternating : List Reply → Option (List (Reply × Reply))
  | [] => some []
  | [_] => none
  | name :: value :: rest => (alternating rest).map ((name, value) :: ·)

/-- The names and values of a reply that holds some. -/
def pairs? : Reply → Option (List (Reply × Reply))
  | array items => alternating items
  | map entries => some entries
  | _ => none

/-- The fields of a hash; no reply means none. -/
def hashFields (r : Reply) : Except String (Table String) :=
  match r.plain with
  | nil => .ok .empty
  | other =>
    match other.pairs? with
    | none => .error (other.typeReport "Response type not hashmap compatible")
    | some pairs => do
      let fields ← pairs.mapM fun p => do return (← p.1.fieldText, ← p.2.fieldText)
      return .ofList fields

end Reply

/-- The failure of a command from its report. -/
def Command.failure (c : Command) (report : String) : StorageError :=
  .backend (c.title ++ " failed: " ++ report)

/-- The failure to drop an index, which may be that there is none. -/
def dropFailure (index report : String) : StorageError :=
  let e := (Command.dropIndex index).failure report
  if e.isUnknownIndex then .unknownIndex index else e

/-- The outcome of a command that fails with a report. -/
def Command.failed : (c : Command) → String → Outcome c
  | .dropIndex index, report => .error (dropFailure index report)
  | .createIndex a, report => .error ((Command.createIndex a).failure report)
  | .search a, report => .error ((Command.search a).failure report)
  | .readHash key, report => .error ((Command.readHash key).failure report)
  | .writeHash key fields, report => .error ((Command.writeHash key fields).failure report)

/-- The outcome of a command from a reply that signals no error. -/
def Command.replied : (c : Command) → Reply → Outcome c
  | .createIndex _, _ => .ok ()
  | .dropIndex _, _ => .ok ()
  | .search _, r => .ok r.received
  | .readHash key, r =>
    match r.received.hashFields with
    | .ok fields => .ok fields
    | .error report => .error ((Command.readHash key).failure report)
  | .writeHash .., _ => .ok ()

/-- The outcome of a command from the server's answer. -/
def Command.interpret (c : Command) : ServerAnswer → Outcome c
  | .error line => c.failed (ErrorLine.report line)
  | .reply r =>
    match r.signalled? with
    | none => c.replied r
    | some e => c.failed e.report

/-- The outcome of a command that is not sent. -/
def Command.unsent : (c : Command) → Outcome c
  | .createIndex _ => .ok ()
  | .dropIndex _ => .ok ()
  | .search _ => .ok .nil
  | .readHash _ => .ok .empty
  | .writeHash .. => .ok ()

/-- A server that gives prepared answers in turn, and a bare acknowledgement once they are used up. -/
structure ServerScript where
  answers : List ServerAnswer := []
  /-- The requests received, oldest first. -/
  requests : List (List String) := []

instance : Storage ServerScript where
  respond c := fun s =>
    match c.request? with
    | none => (c.unsent, s)
    | some request =>
      (c.interpret (s.answers.headD (.reply .okay)), ⟨s.answers.drop 1, s.requests ++ [request]⟩)

/-- The failure to connect to an address that is none. -/
def unusableAddress : StorageError :=
  .backend "Redis URL did not parse- InvalidClientConfig"

end RecordSearch

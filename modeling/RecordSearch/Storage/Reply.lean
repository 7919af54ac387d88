import RecordSearch.Numeric.Shortest
import RecordSearch.Text.Quoted
import RecordSearch.Text.Utf8
import RecordSearch.Value

/-!
# Server replies

The values a search server answers with, in either version of its protocol. Only some of them have a text:
byte strings, simple strings, integers and the bare acknowledgement.

## Main definitions

* `ServerError`, `PushKind`, `VerbatimFormat` — parts of some values.
* `Reply` — the values.
* `Reply.ofText` — a text as a byte string.
* `Reply.text?` — the text of a reply.
* `Reply.inspect` — a reply as messages show it.
-/

namespace RecordSearch

/-- An error that a server signals: its code, and perhaps more words. -/
structure ServerError where
  code : String
  detail? : Option String
  deriving DecidableEq, Repr

/-- The error as messages show it. -/
def ServerError.inspect (e : ServerError) : String :=
  match e.detail? with
  | none => "Server error: `" ++ e.code ++ "`"
  | some detail => "Server error: `" ++ e.code ++ ": " ++ detail ++ "`"

/-- What a message is about that a server sends unasked. -/
inductive PushKind where
  | disconnection
  | other (name : String)
  | invalidate
  | message
  | patternMessage
  | shardMessage
  | unsubscribe
  | patternUnsubscribe
  | shardUnsubscribe
  | subscribe
  | patternSubscribe
  | shardSubscribe
  deriving DecidableEq, Repr

/-- The kind's name. -/
def PushKind.label : PushKind → String
  | disconnection => "Disconnection"
  | other name => "Other(" ++ quoted name ++ ")"
  | invalidate => "Invalidate"
  | message => "Message"
  | patternMessage => "PMessage"
  | shardMessage => "SMessage"
  | unsubscribe => "Unsubscribe"
  | patternUnsubscribe => "PUnsubscribe"
  | shardUnsubscribe => "SUnsubscribe"
  | subscribe => "Subscribe"
  | patternSubscribe => "PSubscribe"
  | shardSubscribe => "SSubscribe"

/-- The format of a verbatim string. -/
inductive VerbatimFormat where
  | unknown (name : String)
  | markdown
  | text
  deriving DecidableEq, Repr

/-- The format's name. -/
def VerbatimFormat.label : VerbatimFormat → String
  | unknown name => "Unknown(" ++ quoted name ++ ")"
  | markdown => "Markdown"
  | text => "Text"

/-- A value that a server answers with. -/
inductive Reply where
  | nil
  | int (n : Int64)
  | bulk (bytes : ByteArray)
  | array (items : List Reply)
  | bool (b : Bool)
  | simple (s : String)
  | okay
  | double (x : BinaryFloat)
  | set (items : List Reply)
  | map (entries : List (Reply × Reply))
  /-- A value with more said about it. -/
  | annotated (data : Reply) (attributes : List (Reply × Reply))
  | verbatim (format : VerbatimFormat) (s : String)
  | bigNumber (n : Int)
  | push (kind : PushKind) (items : List Reply)
  | serverError (e : ServerError)
  deriving Inhabited

namespace Reply

/-- A text as a byte string. -/
def ofText (s : String) : Reply :=
  bulk s.toUTF8

/-- The text of a reply that has one. -/
def text? : Reply → Option String
  | bulk bytes => some (textOfBytes bytes)
  | simple s => some s
  | int n => some (toString n.toInt)
  | okay => some "OK"
  | _ => none

@[simp] theorem text?_ofText (s : String) : (ofText s).text? = some s := by
  simp [ofText, text?]

/-- Texts between square brackets. -/
def bracketed (items : List String) : String :=
  "[" ++ ", ".intercalate items ++ "]"

mutual

/-- The reply as messages show it. -/
def inspect : Reply → String
  | nil => "nil"
  | int n => "int(" ++ toString n.toInt ++ ")"
  | bulk bytes =>
    match validText? bytes with
    | some s => "bulk-string('" ++ quoted s ++ "')"
    | none => "binary-data(" ++ bracketed (bytes.data.toList.map fun b => toString b.toNat) ++ ")"
  | array items => "array(" ++ bracketed (inspectAll items) ++ ")"
  | bool b => "boolean(" ++ boolText b ++ ")"
  | simple s => "simple-string(" ++ quoted s ++ ")"
  | okay => "ok"
  | double x => "double(" ++ DecimalLayout.marked.render x ++ ")"
  | set items => "set(" ++ bracketed (inspectAll items) ++ ")"
  | map entries => "map(" ++ bracketed (inspectPairs entries) ++ ")"
  -- What is said about a value is not shown.
  | annotated data _ => "attribute(" ++ data.inspect ++ ")"
  | verbatim format s => "verbatim-string(" ++ format.label ++ "," ++ quoted s ++ ")"
  | bigNumber n => "big-number(" ++ toString n ++ ")"
  | push kind items => "push(" ++ kind.label ++ ", " ++ bracketed (inspectAll items) ++ ")"
  | serverError e => e.inspect

/-- The replies of a list as messages show them. -/
def inspectAll : List Reply → List String
  | [] => []
  | r :: rest => r.inspect :: inspectAll rest

/-- The entries of a map as messages show them. -/
def inspectPairs : List (Reply × Reply) → List String
  | [] => []
  | (k, v) :: rest => ("(" ++ k.inspect ++ ", " ++ v.inspect ++ ")") :: inspectPairs rest

end

end Reply

end RecordSearch

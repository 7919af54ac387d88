import RecordSearch.Storage.Error
import RecordSearch.Storage.Reply
import RecordSearch.Table

/-!
# Storage commands

The five commands that the engine sends to a store. A store is any state type that answers them; each
command determines the type of its answer.

## Main definitions

* `Command`, `Command.Answer` — commands and what they answer with.
* `Storage` — a state type that answers commands.
* `Command.words` — a command as a list of words, for logs.
-/

namespace RecordSearch

/-- What a store can be asked. -/
inductive Command where
  | createIndex (arguments : List String)
  /-- The records under the index are kept. -/
  | dropIndex (index : String)
  | search (arguments : List String)
  | readHash (key : String)
  | writeHash (key : String) (fields : List (String × String))
  deriving DecidableEq, Repr

namespace Command

/-- What a command answers with if it succeeds. -/
@[reducible]
def Answer : Command → Type
  | createIndex _ => Unit
  | dropIndex _ => Unit
  | search _ => Reply
  | readHash _ => Table String
  | writeHash .. => Unit

/-- The five commands without their arguments. -/
inductive Kind where
  | createIndex
  | dropIndex
  | search
  | readHash
  | writeHash
  deriving DecidableEq, Repr

/-- Which of the five a command is. -/
def kind : Command → Kind
  | createIndex _ => .createIndex
  | dropIndex _ => .dropIndex
  | search _ => .search
  | readHash _ => .readHash
  | writeHash .. => .writeHash

/-- The names of the commands in logs. -/
def Kind.label : Kind → String
  | createIndex => "ft_create"
  | dropIndex => "ft_dropindex"
  | search => "ft_search"
  | readHash => "hgetall"
  | writeHash => "hset"

/-- The arguments of a command in a flat list. -/
def arguments : Command → List String
  | createIndex arguments => arguments
  | dropIndex index => [index]
  | search arguments => arguments
  | readHash key => [key]
  | writeHash key fields => key :: fields.flatMap fun f => [f.1, f.2]

/-- A command as a list of words. -/
def words (c : Command) : List String :=
  c.kind.label :: c.arguments

end Command

/-- The outcome of a command. -/
abbrev Outcome (c : Command) := Except StorageError c.Answer

/-- A state type that answers commands. -/
class Storage (σ : Type) where
  /-- Answer a command and move on to the next state. -/
  respond : (c : Command) → StateM σ (Outcome c)

end RecordSearch

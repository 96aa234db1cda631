import PayloadDepot.Fault
import PayloadDepot.Host.BlobName
import PayloadDepot.Host.Environment
import PayloadDepot.Host.Files
import PayloadDepot.Stream.Reader

/-!
# The world of an action

Everything that the library reads or changes besides its arguments is one value:
the readers behind the streams that are in use, the journal, the source of names
for payloads, the clock, the environment, the files, and a state of the caller's
choice in which depots keep theirs.  An effect changes the world and cannot
fail; an action may end in a fault, and what it changed before stays changed.
-/

namespace PayloadDepot

/-- How much a line of the journal matters. -/
inductive Level where
  | error
  | warn
  | info
  | debug
  | trace
deriving DecidableEq, Repr

def Level.name : Level → String
  | error => "ERROR"
  | warn => "WARN"
  | info => "INFO"
  | debug => "DEBUG"
  | trace => "TRACE"

structure JournalLine where
  level : Level
  text : String
deriving DecidableEq, Repr

/-- What actions read and change.  The names of payloads come from a source that is asked for one
name after the other. -/
structure World (δ : Type) where
  readers : Array Reader
  journal : Array JournalLine
  nameSource : Nat → String
  namesIssued : Nat
  clock : Int
  environment : Environment
  files : FileSystem
  state : δ

/-- The world before anything was done in it, at a time and with files and a state of the caller's
choice; payloads are named by numbers. -/
def World.initial {δ : Type} (clock : Int) (files : FileSystem) (state : δ) : World δ where
  readers := #[]
  journal := #[]
  nameSource := BlobName.ofNumber 0
  namesIssued := 0
  clock := clock
  environment := .empty
  files := files
  state := state

/-- A change of the world that cannot fail. -/
abbrev Effect (δ α : Type) := StateM (World δ) α

/-- A change of the world that may end in a fault. -/
abbrev Action (δ α : Type) := ExceptT Fault (StateM (World δ)) α

namespace Action

variable {δ α β : Type}

def fail (fault : Fault) : Action δ α :=
  throw fault

/-- The action of an outcome that is already known. -/
def ofExcept : Except Fault α → Action δ α
  | .ok value => pure value
  | .error fault => fail fault

def lift (effect : Effect δ α) : Action δ α :=
  ExceptT.lift effect

/-- The outcome of an action instead of its fault. -/
def attempt (action : Action δ α) : Effect δ (Except Fault α) :=
  action.run

end Action

namespace World

variable {δ : Type}

def log (level : Level) (text : String) : Effect δ Unit :=
  modify fun world => { world with journal := world.journal.push ⟨level, text⟩ }

/-- A name that was not issued before, if the source repeats none. -/
def freshName : Effect δ String :=
  modifyGet fun world =>
    (world.nameSource world.namesIssued, { world with namesIssued := world.namesIssued + 1 })

/-- The time in milliseconds. -/
def now : Effect δ Int :=
  return (← get).clock

def files? : Effect δ FileSystem :=
  return (← get).files

def onFiles {α : Type} (change : FileSystem → α × FileSystem) : Effect δ α :=
  modifyGet fun world =>
    let (outcome, files) := change world.files
    (outcome, { world with files := files })

end World

/-- A place inside the caller's state where one component keeps its own. -/
structure Cell (δ σ : Type) where
  read : δ → σ
  write : σ → δ → δ

namespace Cell

variable {δ σ α : Type}

def whole : Cell σ σ where
  read := id
  write state _ := state

def load (place : Cell δ σ) : Effect δ σ :=
  return place.read (← get).state

def update (place : Cell δ σ) (change : σ → σ) : Effect δ Unit :=
  modify fun world =>
    { world with state := place.write (change (place.read world.state)) world.state }

/-- Changes what a place holds, with a result. -/
def updateGet (place : Cell δ σ) (change : σ → α × σ) : Effect δ α :=
  modifyGet fun world =>
    let (result, next) := change (place.read world.state)
    (result, { world with state := place.write next world.state })

end Cell

end PayloadDepot

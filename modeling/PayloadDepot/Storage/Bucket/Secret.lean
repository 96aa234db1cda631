import PayloadDepot.Host.World
import PayloadDepot.Text.Blank
import PayloadDepot.Text.Parts
import PayloadDepot.Text.Quoted

/-!
# Secrets

A secret is given as it is, in a variable of the environment, or in a file, and
is read when it is needed.  A secret that is given as it is, is never shown.
-/

namespace PayloadDepot

/-- Where a secret comes from. -/
inductive SecretSource where
  | value (secret : String)
  | variableNamed (name : String)
  | file (path : String)
deriving DecidableEq

namespace SecretSource

variable {δ : Type}

/-- The source that a text describes: what it is, a colon, and a rest that is not empty. -/
def parse (text : String) : Except Fault SecretSource :=
  match Text.splitAtFirst? ':' text.toList with
  | none => .error (.config .secretSource)
  | some (kind, rest) =>
      if rest.isEmpty then .error (.config .secretSource)
      else if kind = "value".toList then .ok (.value (String.ofList rest))
      else if kind = "env".toList then .ok (.variableNamed (String.ofList rest))
      else if kind = "path".toList then .ok (.file (String.ofList rest))
      else .error (.config .secretSource)

/-- How a source is shown; a secret itself is not. -/
def shown : SecretSource → String
  | value _ => "Value(***)"
  | variableNamed name => s!"Env({Text.quoted name})"
  | file path => s!"Path({Text.quoted path})"

def readText (files : FileSystem) (path : String) : Except IoFault String :=
  match files.readFile path with
  | .error fault => .error fault
  | .ok content =>
      match Text.Utf8.decode content with
      | .ok text => .ok text
      | .error _ => .error .notText

/-- Reads the secret; blanks around the text of a file are no part of it. -/
def resolve (source : SecretSource) : Action δ String := do
  let world ← Action.lift get
  match source with
  | value secret => return secret
  | variableNamed name =>
      match world.environment.get? name with
      | some secret => return secret
      | none => Action.fail (.config (.unsetVariable name))
  | file path =>
      match readText world.files path with
      | .ok text => return Text.trim text
      | .error fault => Action.fail (.config (.unreadableSecret path fault))

end SecretSource

end PayloadDepot

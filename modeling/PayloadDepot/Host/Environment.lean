import PayloadDepot.Text.Parts

/-!
# Environments

An environment is a list of lines, each of which is a name, an equals sign and a
value.  Looked at as a whole it is a list of bindings, where a name ends at the
first equals sign behind its first character.  A single variable is looked up by
the front of a line, so that a name may also reach beyond an equals sign.
-/

namespace PayloadDepot

/-- The lines of an environment. -/
structure Environment where
  lines : List String

namespace Environment

def empty : Environment := ⟨[]⟩

/-- The environment in which some names were given values. -/
def ofBindings (bindings : List (String × String)) : Environment :=
  ⟨bindings.map fun (name, value) => name ++ "=" ++ value⟩

/-- What stands in a line behind a name and an equals sign. -/
def valueBehind? (name line : String) : Option String :=
  (Text.afterLeading? (name.toList ++ ['=']) line.toList).map String.ofList

/-- The value of a variable; the first line that begins with it counts. -/
def get? (environment : Environment) (name : String) : Option String :=
  if name.isEmpty then none else environment.lines.findSome? (valueBehind? name)

/-- The name and the value in a line. -/
def bindingOf? (line : String) : Option (String × String) :=
  match line.toList with
  | [] => none
  | first :: later =>
      (Text.splitAtFirst? '=' later).map fun (name, value) =>
        (String.ofList (first :: name), String.ofList value)

def bindings (environment : Environment) : List (String × String) :=
  environment.lines.filterMap bindingOf?

example : (ofBindings [("A", "B=c")]).get? "A=B" = some "c" := by cbv

example : (ofBindings [("A=B", "c"), ("", "d")]).bindings = [("A", "B=c")] := by cbv

end Environment

end PayloadDepot

import PayloadDepot.Fault
import PayloadDepot.Text.Parts

/-!
# Reports of failures

A report opens with what was attempted and then gives the fault and the chain of
what caused it.  A single cause is indented; several are numbered from zero, and
the lines of a text that spans several of them stay in one column.
-/

namespace PayloadDepot

namespace Report

def lines (text : String) : List String :=
  Text.split '\n' text

/-- A text with one margin before its first line and another before the later ones. -/
def indent (firstMargin laterMargin : String) (text : String) : String :=
  match lines text with
  | [] => firstMargin
  | first :: later =>
      later.foldl (fun shown line => shown ++ "\n" ++ laterMargin ++ line) (firstMargin ++ first)

/-- The number of a cause with its colon, the digits ending in the fifth column. -/
def numberMargin (number : Nat) : String :=
  let digits := toString number
  String.ofList (List.replicate (5 - digits.length) ' ') ++ digits ++ ": "

/-- Causes under the numbers from a given one on. -/
def numbered (number : Nat) : List String → List String
  | [] => []
  | cause :: later =>
      indent (numberMargin number) "       " cause :: numbered (number + 1) later

/-- The causes of a failure, each on lines of its own. -/
def causes : List String → List String
  | [] => []
  | [cause] => [indent "    " "    " cause]
  | first :: second :: later => numbered 0 (first :: second :: later)

/-- What was attempted, followed by the causes of its failure. -/
def describe (attempt : String) (chain : List String) : String :=
  match chain with
  | [] => attempt
  | _ :: _ => attempt ++ "\n\nCaused by:\n" ++ String.intercalate "\n" (causes chain)

end Report

namespace Fault

def report (fault : Fault) (attempt : String) : String :=
  Report.describe attempt (fault.message :: fault.chain)

end Fault

end PayloadDepot

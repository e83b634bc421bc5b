import Rulebook.Context.Basic
import Rulebook.Json.Reader
import Rulebook.Json.Writer

/-!
Contexts as JSON objects. The members are values that are neither lists nor objects; of two members
of one name the later counts.
-/

namespace Rulebook.Context

open Json (Fault Parsed)

def toJson (context : Context) : Json :=
  .object (context.toList.map fun (name, value) => (name, .ofValue value))

def readMember (context : Context) (name : String) (text : List Char) :
    Except Fault (Parsed Context) := do
  let (json, text) ← Json.readValue (Json.depthLimit - 1) (← Json.readColon text)
  match json.toValue? with
  | some value => .ok (context.insert name value, text)
  | none => .error .mismatched

def readObject (text : List Char) : Except Fault (Parsed Context) :=
  match Json.skipBlanks text with
  | '\x7b' :: rest =>
    Json.foldMembers Json.readText readMember (rest.length + 1) true empty rest
  | text => .error (Json.refusal text)

def readJson (source : String) : Except Fault Context := Json.readAll readObject source

end Rulebook.Context

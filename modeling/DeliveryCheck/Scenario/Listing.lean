import DeliveryCheck.Scenario.Spec
import DeliveryCheck.Yaml.Decode
import DeliveryCheck.Yaml.Document

namespace DeliveryCheck

open Yaml (Node)

namespace Spec

/-- The entries of a mapping, in which each of several names stands at most once. -/
def uniqueEntries (document : Node) (names : List String) (node : Node) :
    Option (List (String × Node)) := do
  let entries ← Node.entries? document node
  guard (names.all fun name => entries.countP (·.1 = name) ≤ 1)
  return entries

def entryNames : List String :=
  ["name", "kind", "title", "body", "category", "priority", "delay_secs", "buffer_secs",
   "timeout_secs", "interval_ms"]

def ofNode (document node : Node) : Option Spec := do
  let entries ← uniqueEntries document entryNames node
  let text := Node.text? document
  let openText (name : String) : Option (Option String) :=
    ((entries.lookup name).mapM (Node.optional? document text)).map Option.join
  let openWord (name : String) : Option (Option UInt64) :=
    ((entries.lookup name).mapM (Node.optional? document (Node.word64? document))).map Option.join
  return {
    name := ← entries.lookup "name" >>= text
    kind := ← entries.lookup "kind" >>= Node.choice? document Kind.ofText?
    title := ← openText "title"
    body := ← openText "body"
    category := (← (entries.lookup "category").mapM text).getD "system"
    priority := ← openText "priority"
    delaySecs := ← openWord "delay_secs"
    bufferSecs := ← openWord "buffer_secs"
    timeoutSecs := ← openWord "timeout_secs"
    intervalMillis := ← openWord "interval_ms" }

def listOfNode (document : Node) : Option (List Spec) := do
  let entries ← uniqueEntries document ["scenarios"] document
  let items ← entries.lookup "scenarios" >>= Node.items? document
  items.mapM (ofNode document)

def ofYaml (text : String) : Except Error (List Spec) :=
  match Yaml.read text >>= id >>= listOfNode with
  | none => .error (.scenario .malformed)
  | some [] => .error (.scenario .noneDefined)
  | some specs => .ok specs

end Spec

end DeliveryCheck

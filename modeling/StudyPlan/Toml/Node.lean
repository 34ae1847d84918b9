import StudyPlan.Toml.Failure
import StudyPlan.Decimal.Binary64

/-! Documents as trees. Every table remembers how it came about, since that decides what
may still be put into it: a table that a text has written out takes no more keys by
dotted paths, one that only stands on the way to something does. -/
namespace StudyPlan.Toml

structure Key where
  name : String
  span : Span
  deriving DecidableEq, Repr

inductive Leaf where
  | string (s : String)
  | integer (n : Int)
  | float (x : Binary64)
  | bool (b : Bool)
  | moment
  deriving DecidableEq, Repr

inductive Origin where
  | written
  | implied
  | dotted
  deriving DecidableEq, Repr

mutual

inductive Node where
  | leaf (span : Span) (value : Leaf)
  | array (span : Span) (items : List Node)
  | braced (table : Table)
  | table (table : Table)
  | tables (items : List Table)

structure Table where
  span : Option Span
  origin : Origin
  members : List (Key × Node)

end

instance : Inhabited Table := ⟨⟨none, .implied, []⟩⟩

namespace Leaf

def type : Leaf → String
  | string _ => "string"
  | integer _ => "integer"
  | float _ => "float"
  | bool _ => "boolean"
  | moment => "datetime"

end Leaf

namespace Node

def type : Node → String
  | leaf _ value => value.type
  | array .. => "array"
  | braced _ => "inline table"
  | table _ => "table"
  | tables _ => "array of tables"

def span? : Node → Option Span
  | leaf span _ => some span
  | array span _ => some span
  | braced t => t.span
  | table t => t.span
  | tables items =>
    match items.head?.bind (·.span), items.getLast?.bind (·.span) with
    | some first, some last => some ⟨first.start, last.stop⟩
    | _, _ => none

end Node

namespace Table

def member? (t : Table) (name : String) : Option Node :=
  (t.members.find? (·.1.name == name)).map Prod.snd

def push (t : Table) (key : Key) (node : Node) : Table :=
  { t with members := t.members ++ [(key, node)] }

def replace (t : Table) (name : String) (node : Node) : Table :=
  { t with members := t.members.map fun (key, old) => (key, if key.name = name then node else old) }

def remove (t : Table) (name : String) : Table :=
  { t with members := t.members.filter (·.1.name != name) }

def heldAt (t : Table) (path : List Key) (name : String) : Option (List (Key × Node)) :=
  match path with
  | [] =>
    match t.member? name with
    | some (.table held) => some held.members
    | _ => none
  | key :: rest =>
    match t.member? key.name with
    | some (.table inner) => inner.heldAt rest name
    | some (.tables items) => items.getLast?.bind fun inner => inner.heldAt rest name
    | _ => none

def changeLast (change : Table → Except Cause Table) : List Table → Except Cause (List Table)
  | [] => .ok []
  | [t] => do return [← change t]
  | t :: rest => do return t :: (← changeLast change rest)

/-- Change the table at the end of a path; `walked` has been walked already. Tables that are
missing on the way are made, with the given origin; a dotted path may not enter a written
one, and only braces may be entered inside braces. -/
def alter (inBraces : Bool) (origin : Origin) (change : Table → Except Cause Table)
    (walked : List String) (t : Table) : List Key → Except Cause Table
  | [] => change t
  | key :: rest => do
    let walked := walked ++ [key.name]
    let enter (t : Table) := alter inBraces origin change walked t rest
    let enterChecked (t : Table) : Except Cause Table :=
      if origin = .dotted && t.origin = .written then throw (.duplicateKey key.name none)
      else enter t
    match t.member? key.name with
    | none =>
      let made ← enter ⟨none, origin, []⟩
      return t.push key (if inBraces then .braced made else .table made)
    | some (.table inner) => return t.replace key.name (.table (← enterChecked inner))
    | some (.tables items) => return t.replace key.name (.tables (← changeLast enter items))
    | some (.braced inner) =>
      if inBraces then return t.replace key.name (.braced (← enterChecked inner))
      else throw (.notTable walked (Node.braced inner).type)
    | some node => throw (.notTable walked node.type)

/-- Give the key at the end of a path a value. Where `home` names the table, a message about a
key that has one already names it too. -/
def define (inBraces : Bool) (home : Option (List String)) (path : List Key) (key : Key)
    (value : Node) (t : Table) : Except Cause Table :=
  let put (t : Table) : Except Cause Table :=
    if (t.origin == .dotted) == path.isEmpty then throw (.duplicateKey key.name none)
    else if (t.member? key.name).isSome then throw (.duplicateKey key.name home)
    else return t.push key value
  alter inBraces .dotted put [] t path

end Table
end StudyPlan.Toml

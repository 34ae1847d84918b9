import StudyPlan.Yaml.Tokens

/-! YAML documents as trees. Where a text fails the tree is cut: a reader that gets as
far as the cut meets the trouble, and one that stops earlier does not. An alias
holds the number of its anchor; anchors keep their number when a name is used again. -/
namespace StudyPlan.Yaml

structure Scalar where
  text : String
  style : ScalarStyle
  tag : Option String
  deriving DecidableEq, Repr

mutual

inductive Node where
  | cut
  | scalar (mark : Mark) (anchor : Option Nat) (s : Scalar)
  | alias (mark : Mark) (anchor : Nat)
  | sequence (mark : Mark) (anchor : Option Nat) (items : Items)
  | mapping (mark : Mark) (anchor : Option Nat) (members : Members)

inductive Items where
  | close
  | item (value : Node) (rest : Items)

inductive Members where
  | close
  | member (key value : Node) (rest : Members)

end

instance : Inhabited Node := ⟨.cut⟩

inductive Trouble where
  | failure (failure : Failure)
  | unknownAnchor (mark : Mark)
  deriving DecidableEq, Repr

def Trouble.text : Trouble → String
  | failure f => f.text
  | unknownAnchor m => "unknown anchor" ++ if m.isStart then "" else " at " ++ m.text

namespace Node

def empty (m : Mark) : Node := .scalar m none ⟨"", .plain, none⟩

def cutItems : Items := .item .cut .close

def cutMembers : Members := .member .cut .cut .close

mutual

def size : Node → Nat
  | .cut => 0
  | .scalar .. => 1
  | .alias .. => 1
  | .sequence _ _ items => 1 + itemsSize items
  | .mapping _ _ members => 1 + membersSize members

def itemsSize : Items → Nat
  | .close => 1
  | .item .cut _ => 0
  | .item value rest => size value + itemsSize rest

def membersSize : Members → Nat
  | .close => 1
  | .member .cut _ _ => 0
  | .member key value rest => size key + size value + membersSize rest

end

mutual

def anchored : Node → List (Nat × Node)
  | .cut => []
  | .scalar m anchor s => anchor.toList.map (·, .scalar m anchor s)
  | .alias .. => []
  | .sequence m anchor items =>
    anchor.toList.map (·, .sequence m anchor items) ++ itemsAnchored items
  | .mapping m anchor members =>
    anchor.toList.map (·, .mapping m anchor members) ++ membersAnchored members

def itemsAnchored : Items → List (Nat × Node)
  | .close => []
  | .item value rest => anchored value ++ itemsAnchored rest

def membersAnchored : Members → List (Nat × Node)
  | .close => []
  | .member key value rest => anchored key ++ anchored value ++ membersAnchored rest

end

end Node

structure Reading where
  tokens : List Token
  ending : Failure
  anchors : List (String × Nat)
  handles : List (String × String)
  deriving DecidableEq, Repr

namespace Reading

def peek (r : Reading) : Except Trouble Token :=
  match r.tokens with
  | [] => .error (.failure r.ending)
  | token :: _ => .ok token

def advance (r : Reading) : Reading := { r with tokens := r.tokens.drop 1 }

def define (r : Reading) (name : String) : Reading :=
  { r with
    anchors := (name, r.anchors.length) :: r.anchors.filter (·.1 != name) }

structure Properties where
  start : Mark
  anchor : Option String
  tag : Option (WrittenTag × Mark)
  deriving DecidableEq, Repr

def properties (r : Reading) : Except Trouble (Properties × Reading) := do
  let first ← r.peek
  match first.kind with
  | .anchor name =>
    let r := r.advance
    let next ← r.peek
    match next.kind with
    | .tag tag => return (⟨first.start, some name, some (tag, next.start)⟩, r.advance)
    | _ => return (⟨first.start, some name, none⟩, r)
  | .tag tag =>
    let r := r.advance
    let next ← r.peek
    match next.kind with
    | .anchor name => return (⟨first.start, some name, some (tag, first.start)⟩, r.advance)
    | _ => return (⟨first.start, none, some (tag, first.start)⟩, r)
  | _ => return (⟨first.start, none, none⟩, r)

def resolveTag (r : Reading) (p : Properties) : Except Trouble (Option String) :=
  match p.tag with
  | none => .ok none
  | some (tag, mark) =>
    if tag.handle.isEmpty then .ok (some tag.rest)
    else
      match r.handles.lookup tag.handle with
      | some target => .ok (some (target ++ tag.rest))
      | none =>
        .error (.failure (.during "while parsing a node" p.start "found undefined tag handle" mark))

def register (r : Reading) (p : Properties) : Option Nat × Reading :=
  match p.anchor with
  | none => (none, r)
  | some name => (some r.anchors.length, r.define name)

abbrev Read (α : Type) := α × Except Trouble Reading

def missing (context problem : String) (start : Mark) (token : Token) : Trouble :=
  .failure (.during context start problem token.start)

def endsBlockItem (indentless : Bool) : TokenKind → Bool
  | .blockEntry => true
  | .blockEnd => true
  | .key => indentless
  | .value => indentless
  | _ => false

def endsBlockPart : TokenKind → Bool
  | .key => true
  | .value => true
  | .blockEnd => true
  | _ => false

def endsFlowItem : TokenKind → Bool
  | .flowEntry => true
  | .flowSequenceEnd => true
  | _ => false

def endsFlowPart : TokenKind → Bool
  | .flowEntry => true
  | .flowMappingEnd => true
  | _ => false

inductive Shape where
  | blockSequence | indentlessSequence | flowSequence | blockMapping | flowMapping
  deriving DecidableEq, Repr

def shape? (inBlock indentless : Bool) : TokenKind → Option Shape
  | .blockEntry => if indentless then some .indentlessSequence else none
  | .flowSequenceStart => some .flowSequence
  | .flowMappingStart => some .flowMapping
  | .blockSequenceStart => if inBlock then some .blockSequence else none
  | .blockMappingStart => if inBlock then some .blockMapping else none
  | _ => none

mutual

/-- Read a node; `fuel` bounds the depth and the number of parts still to come. -/
def node (fuel : Nat) (inBlock indentless : Bool) (r : Reading) : Read Node :=
  match fuel with
  | 0 => (.cut, .error (.failure r.ending))
  | fuel + 1 =>
    match r.peek with
    | .error t => (.cut, .error t)
    | .ok first =>
      match first.kind with
      | .alias name =>
        match r.anchors.lookup name with
        | some number => (.alias first.start number, .ok r.advance)
        | none => (.cut, .error (.unknownAnchor first.start))
      | _ =>
        match r.properties with
        | .error t => (.cut, .error t)
        | .ok (p, r) =>
          match r.peek, r.resolveTag p with
          | .error t, _ => (.cut, .error t)
          | _, .error t => (.cut, .error t)
          | .ok token, .ok tag =>
            let (anchor, next) := r.register p
            match shape? inBlock indentless token.kind with
            | some shape => collection fuel shape p.start token.start anchor next
            | none =>
              match token.kind with
              | .scalar text style =>
                (.scalar p.start anchor ⟨text, style, if tag = some "!" then none else tag⟩,
                  .ok next.advance)
              | _ =>
                if p.anchor.isSome || p.tag.isSome then
                  (.scalar p.start anchor ⟨"", .plain, tag⟩, .ok next)
                else
                  (.cut, .error (missing
                    (if inBlock then "while parsing a block node" else "while parsing a flow node")
                    "did not find expected node content" p.start token))

def collection (fuel : Nat) (shape : Shape) (start opening : Mark) (anchor : Option Nat)
    (r : Reading) : Read Node :=
  match fuel with
  | 0 => (.cut, .error (.failure r.ending))
  | fuel + 1 =>
    match shape with
    | .indentlessSequence =>
      let (items, next) := blockItems fuel true opening r
      (.sequence start anchor items, next)
    | .blockSequence =>
      let (items, next) := blockItems fuel false opening r.advance
      (.sequence start anchor items, next)
    | .flowSequence =>
      let (items, next) := flowItems fuel true opening r.advance
      (.sequence start anchor items, next)
    | .blockMapping =>
      let (members, next) := blockMembers fuel opening r.advance
      (.mapping start anchor members, next)
    | .flowMapping =>
      let (members, next) := flowMembers fuel true opening r.advance
      (.mapping start anchor members, next)

def part (fuel : Nat) (inBlock indentless : Bool) (omits : TokenKind → Bool) (emptyAt : Option Mark)
    (r : Reading) : Read Node :=
  match fuel with
  | 0 => (.cut, .error (.failure r.ending))
  | fuel + 1 =>
    match r.peek with
    | .error t => (.cut, .error t)
    | .ok token =>
      if omits token.kind then (Node.empty (emptyAt.getD token.start), .ok r)
      else node fuel inBlock indentless r

def blockItems (fuel : Nat) (indentless : Bool) (opening : Mark) (r : Reading) : Read Items :=
  match fuel with
  | 0 => (Node.cutItems, .error (.failure r.ending))
  | fuel + 1 =>
    match r.peek with
    | .error t => (Node.cutItems, .error t)
    | .ok token =>
      if token.kind = .blockEntry then
        match part fuel true false (endsBlockItem indentless) (some token.stop) r.advance with
        | (value, .error t) => (.item value Node.cutItems, .error t)
        | (value, .ok r) =>
          let (rest, next) := blockItems fuel indentless opening r
          (.item value rest, next)
      else if indentless then (.close, .ok r)
      else if token.kind = .blockEnd then (.close, .ok r.advance)
      else
        (Node.cutItems, .error (missing "while parsing a block collection"
          "did not find expected '-' indicator" opening token))

def blockMembers (fuel : Nat) (opening : Mark) (r : Reading) : Read Members :=
  match fuel with
  | 0 => (Node.cutMembers, .error (.failure r.ending))
  | fuel + 1 =>
    match r.peek with
    | .error t => (Node.cutMembers, .error t)
    | .ok token =>
      if token.kind = .key then
        match part fuel true true endsBlockPart (some token.stop) r.advance with
        | (key, .error t) => (.member key .cut Node.cutMembers, .error t)
        | (key, .ok r) =>
          match blockValue fuel r with
          | (value, .error t) => (.member key value Node.cutMembers, .error t)
          | (value, .ok r) =>
            let (rest, next) := blockMembers fuel opening r
            (.member key value rest, next)
      else if token.kind = .blockEnd then (.close, .ok r.advance)
      else
        (Node.cutMembers, .error (missing "while parsing a block mapping"
          "did not find expected key" opening token))

def blockValue (fuel : Nat) (r : Reading) : Read Node :=
  match fuel with
  | 0 => (.cut, .error (.failure r.ending))
  | fuel + 1 =>
    match r.peek with
    | .error t => (.cut, .error t)
    | .ok token =>
      if token.kind = .value then part fuel true true endsBlockPart (some token.stop) r.advance
      else (Node.empty token.start, .ok r)

def flowItems (fuel : Nat) (first : Bool) (opening : Mark) (r : Reading) : Read Items :=
  match fuel with
  | 0 => (Node.cutItems, .error (.failure r.ending))
  | fuel + 1 =>
    match r.peek with
    | .error t => (Node.cutItems, .error t)
    | .ok token =>
      if token.kind = .flowSequenceEnd then (.close, .ok r.advance)
      else if !first && token.kind != .flowEntry then
        (Node.cutItems, .error (missing "while parsing a flow sequence"
          "did not find expected ',' or ']'" opening token))
      else
        let r := if first then r else r.advance
        match r.peek with
        | .error t => (Node.cutItems, .error t)
        | .ok token =>
          if token.kind = .flowSequenceEnd then (.close, .ok r.advance)
          else
            let read :=
              if token.kind = .key then flowPair fuel token.start r.advance
              else node fuel false false r
            match read with
            | (value, .error t) => (.item value Node.cutItems, .error t)
            | (value, .ok r) =>
              let (rest, next) := flowItems fuel false opening r
              (.item value rest, next)

def flowPair (fuel : Nat) (start : Mark) (r : Reading) : Read Node :=
  match fuel with
  | 0 => (.cut, .error (.failure r.ending))
  | fuel + 1 =>
    match r.peek with
    | .error t => (.mapping start none Node.cutMembers, .error t)
    | .ok token =>
      let readKey :=
        if token.kind = .value || endsFlowItem token.kind then
          (Node.empty token.stop, .ok r.advance)
        else node fuel false false r
      match readKey with
      | (key, .error t) => (.mapping start none (.member key .cut .close), .error t)
      | (key, .ok r) =>
        match flowValue fuel endsFlowItem r with
        | (value, .error t) => (.mapping start none (.member key value Node.cutMembers), .error t)
        | (value, .ok r) =>
          match r.peek with
          | .error t => (.mapping start none (.member key value Node.cutMembers), .error t)
          | .ok _ => (.mapping start none (.member key value .close), .ok r)

def flowValue (fuel : Nat) (omits : TokenKind → Bool) (r : Reading) : Read Node :=
  match fuel with
  | 0 => (.cut, .error (.failure r.ending))
  | fuel + 1 =>
    match r.peek with
    | .error t => (.cut, .error t)
    | .ok token =>
      if token.kind = .value then part fuel false false omits none r.advance
      else (Node.empty token.start, .ok r)

def flowMembers (fuel : Nat) (first : Bool) (opening : Mark) (r : Reading) : Read Members :=
  match fuel with
  | 0 => (Node.cutMembers, .error (.failure r.ending))
  | fuel + 1 =>
    match r.peek with
    | .error t => (Node.cutMembers, .error t)
    | .ok token =>
      if token.kind = .flowMappingEnd then (.close, .ok r.advance)
      else if !first && token.kind != .flowEntry then
        (Node.cutMembers, .error (missing "while parsing a flow mapping"
          "did not find expected ',' or '\x7d'" opening token))
      else
        let r := if first then r else r.advance
        match r.peek with
        | .error t => (Node.cutMembers, .error t)
        | .ok token =>
          if token.kind = .flowMappingEnd then (.close, .ok r.advance)
          else
            match flowMember fuel token r with
            | (key, value, .error t) => (.member key value Node.cutMembers, .error t)
            | (key, value, .ok r) =>
              let (rest, next) := flowMembers fuel false opening r
              (.member key value rest, next)

def flowMember (fuel : Nat) (token : Token) (r : Reading) :
    Node × Node × Except Trouble Reading :=
  match fuel with
  | 0 => (.cut, .cut, .error (.failure r.ending))
  | fuel + 1 =>
    if token.kind = .key then
      let omits (kind : TokenKind) : Bool := kind = .value || endsFlowPart kind
      match part fuel false false omits none r.advance with
      | (key, .error t) => (key, .cut, .error t)
      | (key, .ok r) => (key, flowValue fuel endsFlowPart r)
    else
      match node fuel false false r with
      | (key, .error t) => (key, .cut, .error t)
      | (key, .ok r) =>
        match r.peek with
        | .error t => (key, .cut, .error t)
        | .ok token => (key, Node.empty token.start, .ok r)

end

end Reading
end StudyPlan.Yaml

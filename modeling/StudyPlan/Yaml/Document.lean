import StudyPlan.Yaml.Node

/-! The first document of a YAML text. -/
namespace StudyPlan.Yaml

/-- A document: its root, absent in an empty text; the trouble that ends it too early;
and whether another document follows. -/
structure Document where
  root : Option Node
  trouble : Option Trouble
  followed : Bool

namespace Document

def standardHandles : List (String × String) := [("!", "!"), ("!!", "tag:yaml.org,2002:")]

def directives (r : Reading) (versioned : Bool) : List Token → Except Trouble Reading
  | [] => .ok { r with tokens := [] }
  | token :: rest =>
    match token.kind with
    | .version major minor =>
      if versioned then .error (.failure (.plain "found duplicate %YAML directive" token.start))
      else if major ≠ 1 || (minor ≠ 1 && minor ≠ 2) then
        .error (.failure (.plain "found incompatible YAML document" token.start))
      else directives r true rest
    | .tagDirective handle target =>
      if (r.handles.lookup handle).isSome then
        .error (.failure (.plain "found duplicate %TAG directive" token.start))
      else directives { r with handles := r.handles ++ [(handle, target)] } versioned rest
    | _ => .ok { r with tokens := token :: rest, handles := r.handles ++ standardHandles }

def endsContent : TokenKind → Bool
  | .version .. => true
  | .tagDirective .. => true
  | .documentStart => true
  | .documentEnd => true
  | .streamEnd => true
  | _ => false

def fuelFor (r : Reading) : Nat := 4 * r.tokens.length + 8

def content (r : Reading) : Reading.Read Node :=
  match r.peek with
  | .error t => (.cut, .error t)
  | .ok token =>
    if endsContent token.kind then (Node.empty token.start, .ok r)
    else r.node (fuelFor r) true false

def explicit (r : Reading) : Reading.Read Node :=
  match (directives { r with handles := [] } false r.tokens).bind fun r => (r.peek).map (r, ·) with
  | .error t => (.cut, .error t)
  | .ok (r, token) =>
    if token.kind = .documentStart then content r.advance
    else (.cut, .error (.failure (.plain "did not find expected <document start>" token.start)))

def followedBy (tokens : List Token) : Bool :=
  match (tokens.dropWhile (·.kind == .documentEnd)).head? with
  | some token => token.kind != .streamEnd
  | none => true

def finish (root : Node) (after : Except Trouble Reading) : Document :=
  match after with
  | .error t => ⟨some root, some t, true⟩
  | .ok r =>
    match r.peek with
    | .error t => ⟨some root, some t, true⟩
    | .ok _ => ⟨some root, none, followedBy r.tokens⟩

def isAllowed (c : Char) : Bool :=
  c = '\t' || c = '\n' || c = '\r' || (' ' ≤ c && c ≤ '~') || c = '\u0085' ||
    ('\u00a0' ≤ c && c ≤ '\uFFFD') || 0x10000 ≤ c.toNat

def forbidden? (bytes : Nat) : List Char → Option Failure
  | [] => none
  | c :: rest =>
    if isAllowed c then forbidden? (bytes + c.utf8Size) rest
    else
      let place := if bytes = 0 then "" else " at position " ++ toString bytes
      some (.plain ("control characters are not allowed" ++ place) .start)

def ofString (text : String) : Document :=
  match forbidden? 0 text.toList with
  | some f => ⟨some .cut, some (.failure f), true⟩
  | none =>
    let (tokens, failure) := tokens text
    let r : Reading := ⟨tokens, failure.getD (.plain "" .start), [], standardHandles⟩
    match r.peek with
    | .error t => ⟨some .cut, some t, true⟩
    | .ok first =>
      match first.kind with
      | .streamEnd => ⟨none, none, false⟩
      | .version .. => let (root, after) := explicit r; finish root after
      | .tagDirective .. => let (root, after) := explicit r; finish root after
      | .documentStart => let (root, after) := explicit r; finish root after
      | _ => let (root, after) := r.node (fuelFor r) true false; finish root after

def anchored? (table : List (Nat × Node)) (number : Nat) : Option Node :=
  table.reverse.lookup number

end Document
end StudyPlan.Yaml

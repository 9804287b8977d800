import Triage.Yaml.Token

/-!
This module contains the tree that a YAML text describes. A text is one document; aliases stand for the
nodes they name, and where a node is left out there is an empty plain scalar.
-/

namespace Triage
namespace Yaml

/--
A node of the tree.
-/
inductive Node where
  | scalar (text : String) (plain : Bool)
  | list (items : List Node)
  | map (entries : List (Node × Node))

namespace Node

def empty : Node := .scalar "" true

/--
Tokens that are still to be read, and the nodes that were given a name.
-/
structure Source where
  tokens : List Token
  anchors : List (String × Node)

abbrev Build := StateT Source Option

def next? : Build (Option Token) :=
  return (← get).tokens.head?

def skip : Build Unit :=
  modify fun s => { s with tokens := s.tokens.drop 1 }

/--
Whether the next token is one of `ts`. The end counts as none of them.
-/
def isNext (ts : List Token) : Build Bool :=
  return (← next?).any ts.contains

/--
Pass over the next token if it is `t`; say whether it was.
-/
def accept (t : Token) : Build Bool := do
  if ← isNext [t] then
    skip
    return true
  else
    return false

/--
The anchor and the tag in front of a node. The second part of the result says whether there is any of them.
-/
def properties : Build (Option String × Bool) := do
  match ← next? with
  | some (.anchor name) =>
    skip
    if let some (.tag _) ← next? then skip
    return (some name, true)
  | some (.tag _) =>
    skip
    if let some (.anchor name) ← next? then
      skip
      return (some name, true)
    return (none, true)
  | _ => return (none, false)

def bindAnchor (name? : Option String) (node : Node) : Build Node := do
  if let some name := name? then
    modify fun s => { s with anchors := (name, node) :: s.anchors }
  return node

/--
What stands behind an anchor or a tag if there is nothing else.
-/
def leftOut (marked : Bool) : Build Node :=
  if marked then pure empty else failure

mutual
/--
A node. `block` allows blocks that are marked by indentation, and `dashes` allows a list that is not indented.
-/
def build (fuel : Nat) (block dashes : Bool) : Build Node := do
  match fuel with
  | 0 => failure
  | fuel + 1 =>
    if let some (.alias name) ← next? then
      skip
      match (← get).anchors.lookup name with
      | some node => return node
      | none => failure
    else
      let (name?, marked) ← properties
      let node ←
        match ← next? with
        | some (.scalar text plain) =>
          skip
          pure (.scalar (String.ofList text) plain)
        | some .flowListStart =>
          skip
          pure (.list (← flowItems fuel true))
        | some .flowMapStart =>
          skip
          pure (.map (← flowEntries fuel true))
        | some .blockListStart =>
          if block then
            skip
            pure (.list (← blockItems fuel))
          else leftOut marked
        | some .blockMapStart =>
          if block then
            skip
            pure (.map (← blockEntries fuel))
          else leftOut marked
        | some .blockEntry =>
          if dashes then pure (.list (← dashItems fuel)) else leftOut marked
        | _ => leftOut marked
      bindAnchor name? node
termination_by structural fuel

def blockItems (fuel : Nat) : Build (List Node) := do
  match fuel with
  | 0 => failure
  | fuel + 1 =>
    if ← accept .blockEntry then
      let item ← if ← isNext [.blockEntry, .blockEnd] then pure empty else build fuel true false
      return item :: (← blockItems fuel)
    else if ← accept .blockEnd then
      return []
    else
      failure
termination_by structural fuel

/--
The items of a list that is as deep as the map around it.
-/
def dashItems (fuel : Nat) : Build (List Node) := do
  match fuel with
  | 0 => failure
  | fuel + 1 =>
    if ← accept .blockEntry then
      let item ←
        if ← isNext [.blockEntry, .key, .value, .blockEnd] then pure empty else build fuel true false
      return item :: (← dashItems fuel)
    else
      return []
termination_by structural fuel

def blockEntries (fuel : Nat) : Build (List (Node × Node)) := do
  match fuel with
  | 0 => failure
  | fuel + 1 =>
    if ← accept .key then
      let key ← if ← isNext [.key, .value, .blockEnd] then pure empty else build fuel true true
      let value ←
        if ← accept .value then
          if ← isNext [.key, .value, .blockEnd] then pure empty else build fuel true true
        else pure empty
      return (key, value) :: (← blockEntries fuel)
    else if ← accept .blockEnd then
      return []
    else
      failure
termination_by structural fuel

/--
The items of a list in brackets, behind the opening one; `first` says that none has been read.
-/
def flowItems (fuel : Nat) (first : Bool) : Build (List Node) := do
  match fuel with
  | 0 => failure
  | fuel + 1 =>
    if ← accept .flowListEnd then
      return []
    else
      if !first then
        if !(← accept .flowEntry) then failure
      if ← accept .flowListEnd then
        return []
      else
        let item ←
          if ← accept .key then
            let key ←
              if ← isNext [.value, .flowEntry, .flowListEnd] then do
                skip
                pure empty
              else build fuel false false
            let value ←
              if ← accept .value then
                if ← isNext [.flowEntry, .flowListEnd] then pure empty else build fuel false false
              else pure empty
            pure (.map [(key, value)])
          else build fuel false false
        return item :: (← flowItems fuel false)
termination_by structural fuel

/--
The entries of a map in braces, behind the opening one; `first` says that none has been read.
-/
def flowEntries (fuel : Nat) (first : Bool) : Build (List (Node × Node)) := do
  match fuel with
  | 0 => failure
  | fuel + 1 =>
    if ← accept .flowMapEnd then
      return []
    else
      if !first then
        if !(← accept .flowEntry) then failure
      if ← accept .flowMapEnd then
        return []
      else
        let entry ←
          if ← accept .key then
            let key ←
              if ← isNext [.value, .flowEntry, .flowMapEnd] then pure empty else build fuel false false
            let value ←
              if ← accept .value then
                if ← isNext [.flowEntry, .flowMapEnd] then pure empty else build fuel false false
              else pure empty
            pure (key, value)
          else
            pure (← build fuel false false, empty)
        return entry :: (← flowEntries fuel false)
termination_by structural fuel
end

/--
Pass over directives; say whether there was any.
-/
def directives : List Token → Bool × List Token
  | .directive :: ts => (true, (directives ts).2)
  | ts => (false, ts)

/--
The only document of the tokens; none if they are empty.
-/
def document (ts : List Token) : Option (Option Node) :=
  let (directed, rest) := directives ts
  let fuel := 4 * rest.length + 4
  match rest with
  | [] => if directed then none else some none
  | .documentStart :: rest =>
    match rest with
    | [] | .directive :: _ | .documentStart :: _ | .documentEnd :: _ => finish (some (empty, ⟨rest, []⟩))
    | _ => finish ((build fuel true false).run ⟨rest, []⟩)
  | _ => if directed then none else finish ((build fuel true false).run ⟨rest, []⟩)
where
  finish : Option (Node × Source) → Option (Option Node)
    | some (node, s) => if s.tokens.all (· == .documentEnd) then some (some node) else none
    | none => none

/--
The tree of a text, or nothing if the text is empty.
-/
def read? (text : String) : Option (Option Node) :=
  (Token.scan text).bind document

end Node
end Yaml
end Triage

import RowScript.Yaml.Token

/-!
# Nodes of YAML

`Stream.ofTokens?` reads tokens as at most one document: a node, in which an alias stands for the node
that its anchor marks.
-/

namespace RowScript.Yaml

inductive Node
  | scalar (text : String) (style : Style) (tag : Option String)
  | list (tag : Option String) (items : List Node)
  | table (tag : Option String) (members : List (Node × Node))
  | alias (target : Nat)
  deriving Inhabited

/-- The node that is not there. -/
def Node.empty : Node := .scalar "" .plain none

/-- What has been read of a document so far. -/
structure Reading where
  tokens : List Token
  /-- What the handles of tags stand for. -/
  rules : List (String × String)
  /-- The marks by name. -/
  anchors : List (String × Nat) := []
  /-- The marked nodes, the last one first. -/
  marked : List (Nat × Node) := []

namespace Reading

def head? (r : Reading) : Option Token := r.tokens.head?

def skip (r : Reading) : Reading := { r with tokens := r.tokens.drop 1 }

/-- Mark the node that begins here. -/
def withAnchor (r : Reading) (name : Option String) : Reading × Option Nat :=
  match name with
  | none => (r, none)
  | some name =>
    let others := r.anchors.filter (·.1 != name)
    let place := r.anchors.length
    ({ r with anchors := (name, place) :: others }, some place)

def store (r : Reading) (place : Option Nat) (n : Node) : Reading :=
  match place with
  | some place => { r with marked := (place, n) :: r.marked }
  | none => r

/-- A tag with what its handle stands for. -/
def wholeTag? (r : Reading) : Option (String × String) → Option (Option String)
  | none => some none
  | some ("", suffix) => some (some suffix)
  | some (handle, suffix) => (r.rules.lookup handle).map fun start => some (start ++ suffix)

/-- The anchor and the tag in front of a node, in either order. -/
def properties (r : Reading) : Option String × Option (String × String) × Reading :=
  match r.tokens with
  | .anchor name :: .tag h s :: rest => (some name, some (h, s), { r with tokens := rest })
  | .tag h s :: .anchor name :: rest => (some name, some (h, s), { r with tokens := rest })
  | .anchor name :: rest => (some name, none, { r with tokens := rest })
  | .tag h s :: rest => (none, some (h, s), { r with tokens := rest })
  | _ => (none, none, r)

/-- Tokens before which a node is missing. -/
def endsItem : Option Token → Bool
  | some .dash | some .blockEnd => true
  | _ => false

def endsLooseItem : Option Token → Bool
  | some .dash | some .key | some .colon | some .blockEnd => true
  | _ => false

def endsMember : Option Token → Bool
  | some .key | some .colon | some .blockEnd => true
  | _ => false

def endsFlowKey (closing : Token) (t : Option Token) : Bool :=
  t == some .colon || t == some .comma || t == some closing

def endsFlowValue (closing : Token) (t : Option Token) : Bool := t == some .comma || t == some closing

end Reading

open Reading

mutual

/-- A node. Blocks can begin it if `block`, also a list at the column of its key if `loose`. -/
def node? : Nat → Bool → Bool → Reading → Option (Node × Reading)
  | 0, _, _, _ => none
  | fuel + 1, block, loose, r =>
    match r.tokens with
    | .alias name :: rest =>
      (r.anchors.lookup name).map fun place => (.alias place, { r with tokens := rest })
    | _ => do
      let (anchor, tag, r) := r.properties
      let tag? ← r.wholeTag? tag
      let (r, place) := r.withAnchor anchor
      let (n, r) ← content? fuel block loose (anchor.isSome || tag.isSome) tag? r
      return (n, r.store place n)

/-- A node after its anchor and its tag. -/
def content? : Nat → Bool → Bool → Bool → Option String → Reading → Option (Node × Reading)
  | 0, _, _, _, _, _ => none
  | fuel + 1, block, loose, marked, tag, r =>
    match r.tokens with
    | .scalar text style :: rest =>
      let r := { r with tokens := rest }
      if tag == some "!" then some (.scalar text style none, r)
      else some (.scalar text style tag, r)
    | .flowList :: rest => do
      let (items, r) ← flowItems? fuel true { r with tokens := rest }
      return (.list tag items, r)
    | .flowTable :: rest => do
      let (members, r) ← flowMembers? fuel true { r with tokens := rest }
      return (.table tag members, r)
    | t :: rest =>
      if loose && t == .dash then do
        let (items, r) ← looseItems? fuel r
        return (.list tag items, r)
      else if block && t == .blockList then do
        let (items, r) ← items? fuel { r with tokens := rest }
        return (.list tag items, r)
      else if block && t == .blockTable then do
        let (members, r) ← members? fuel { r with tokens := rest }
        return (.table tag members, r)
      else if marked then some (.scalar "" .plain tag, r)
      else none
    | [] => if marked then some (.scalar "" .plain tag, r) else none

/-- The items of a block up to its end. -/
def items? : Nat → Reading → Option (List Node × Reading)
  | 0, _ => none
  | fuel + 1, r =>
    match r.head? with
    | some .dash => do
      let r := r.skip
      let (n, r) ← if endsItem r.head? then some (.empty, r) else node? fuel true false r
      let (rest, r) ← items? fuel r
      return (n :: rest, r)
    | some .blockEnd => some ([], r.skip)
    | _ => none

/-- The items of a list at the column of its key. -/
def looseItems? : Nat → Reading → Option (List Node × Reading)
  | 0, _ => none
  | fuel + 1, r =>
    match r.head? with
    | some .dash => do
      let r := r.skip
      let (n, r) ← if endsLooseItem r.head? then some (.empty, r) else node? fuel true false r
      let (rest, r) ← looseItems? fuel r
      return (n :: rest, r)
    | _ => some ([], r)

/-- The members of a block up to its end. -/
def members? : Nat → Reading → Option (List (Node × Node) × Reading)
  | 0, _ => none
  | fuel + 1, r =>
    match r.head? with
    | some .key => do
      let r := r.skip
      let (k, r) ← if endsMember r.head? then some (.empty, r) else node? fuel true true r
      let (v, r) ← value? fuel r
      let (rest, r) ← members? fuel r
      return ((k, v) :: rest, r)
    | some .blockEnd => some ([], r.skip)
    | _ => none

/-- The value of a member, if there is one. -/
def value? : Nat → Reading → Option (Node × Reading)
  | 0, _ => none
  | fuel + 1, r =>
    match r.head? with
    | some .colon =>
      let r := r.skip
      if endsMember r.head? then some (.empty, r) else node? fuel true true r
    | _ => some (.empty, r)

/-- The items of a list between brackets. -/
def flowItems? : Nat → Bool → Reading → Option (List Node × Reading)
  | 0, _, _ => none
  | fuel + 1, first, r =>
    if r.head? == some .flowListEnd then some ([], r.skip)
    else do
      let r ← if first then some r else if r.head? == some .comma then some r.skip else none
      match r.head? with
      | some .flowListEnd => return ([], r.skip)
      | some .key =>
        let (n, r) ← flowPair? fuel r.skip
        let (rest, r) ← flowItems? fuel false r
        return (n :: rest, r)
      | _ =>
        let (n, r) ← node? fuel false false r
        let (rest, r) ← flowItems? fuel false r
        return (n :: rest, r)

/-- A table of one member, which is an item of a list between brackets. -/
def flowPair? : Nat → Reading → Option (Node × Reading)
  | 0, _ => none
  | fuel + 1, r => do
    let (k, r) ← if endsFlowKey .flowListEnd r.head? then some (.empty, r.skip)
      else node? fuel false false r
    let (v, r) ← flowValue? fuel .flowListEnd r
    return (.table none [(k, v)], r)

/-- The members of a table between braces. -/
def flowMembers? : Nat → Bool → Reading → Option (List (Node × Node) × Reading)
  | 0, _, _ => none
  | fuel + 1, first, r =>
    if r.head? == some .flowTableEnd then some ([], r.skip)
    else do
      let r ← if first then some r else if r.head? == some .comma then some r.skip else none
      match r.head? with
      | some .flowTableEnd => return ([], r.skip)
      | some .key =>
        let r := r.skip
        let (k, r) ← if endsFlowKey .flowTableEnd r.head? then some (.empty, r)
          else node? fuel false false r
        let (v, r) ← flowValue? fuel .flowTableEnd r
        let (rest, r) ← flowMembers? fuel false r
        return ((k, v) :: rest, r)
      | _ =>
        let (k, r) ← node? fuel false false r
        let (rest, r) ← flowMembers? fuel false r
        return ((k, .empty) :: rest, r)

/-- The value of a member between brackets or braces, if there is one. -/
def flowValue? : Nat → Token → Reading → Option (Node × Reading)
  | 0, _, _ => none
  | fuel + 1, closing, r =>
    match r.head? with
    | some .colon =>
      let r := r.skip
      if endsFlowValue closing r.head? then some (.empty, r) else node? fuel false false r
    | _ => some (.empty, r)

end

/-! ### Documents -/

/-- A text with at most one document. -/
structure Stream where
  /-- Nothing if the text has no document. -/
  root : Option Node
  marked : List (Nat × Node)

namespace Stream

/-- The handles that need no rule. -/
def commonRules : List (String × String) := [("!", "!"), ("!!", "tag:yaml.org,2002:")]

/-- The directives in front of a document. Neither a version nor a handle can be given twice. -/
def directives? (versioned : Bool) (rules : List (String × String)) :
    List Token → Option (List (String × String) × List Token)
  | .version :: rest => if versioned then none else directives? true rules rest
  | .tagRule handle start :: rest =>
    if rules.any (·.1 == handle) then none
    else directives? versioned ((handle, start) :: rules) rest
  | rest => some (rules, rest)

/-- The node of a document, after which nothing comes but marks of its end. -/
def wholeNode? (rules : List (String × String)) (tokens : List Token) : Option Stream := do
  let (n, r) ← node? (4 * tokens.length + 4) true false { tokens, rules }
  if r.tokens.all (· == .documentEnd) then return ⟨some n, r.marked⟩ else none

/-- A document after the mark of its start may have no node. -/
def marked? (rules : List (String × String)) (tokens : List Token) : Option Stream :=
  if tokens.all (· == .documentEnd) then some ⟨some .empty, []⟩ else wholeNode? rules tokens

/-- Tokens as at most one document. -/
def ofTokens? (tokens : List Token) : Option Stream := do
  if tokens.isEmpty then return ⟨none, []⟩
  let (rules, rest) ← directives? false [] tokens
  match rest with
  | .documentStart :: rest => marked? (rules ++ commonRules) rest
  | _ => if rest.length < tokens.length then none else wholeNode? commonRules tokens

end Stream

end RowScript.Yaml

import PolicyRollout.Yaml.Lexer
import PolicyRollout.Yaml.Scalar
/-!
Documents from YAML text.  Reading builds the nodes of the first document until
the text goes wrong; everything that was open there breaks off.  An anchor
names the node after it; a name given again counts for the aliases that follow.
-/
namespace PolicyRollout.Yaml

open Document (Fault Break Node Source)

structure Anchored where
  /-- The number of nodes with anchors that began before it. -/
  serial : Nat
  /-- The number by which aliases refer to it. -/
  anchor : Nat
  node : Node

/-- A text between two nodes. -/
structure Reader where
  lexer : Lexer
  /-- What the handles of tags stand for. -/
  handles : List (List Char × List Char)
  /-- The numbers of the names of anchors. -/
  names : List (List Char × Nat)
  /-- The number of nodes with anchors that have begun. -/
  begun : Nat
  anchored : List Anchored
  /-- Where the text has gone wrong. -/
  fault : Option Fault

/-- What stands before the content of a node. -/
structure Properties where
  anchor : Option (List Char)
  tag : Option (List Char × List Char)

namespace Reader

/-- The handles of tags that need no directive. -/
def defaultHandles : List (List Char × List Char) :=
  [(['!'], ['!']), (['!', '!'], "tag:yaml.org,2002:".toList)]

def start (text : List Char) : Reader :=
  ⟨.start text, defaultHandles, [], 0, [], none⟩

/-- The text has gone wrong. -/
def fail (fault : Fault) (r : Reader) : Reader :=
  { r with fault := r.fault.or (some fault) }

/-- The text has gone wrong in a way that is said by its problem and what was being read. -/
def failAt (problem context : String) (r : Reader) : Reader :=
  r.fail (.markup problem none (some context))

/-- The next token, unless the text has gone wrong. -/
def peek (r : Reader) : Option Token × Reader :=
  match r.fault with
  | some _ => (none, r)
  | none => match r.lexer.peek with
    | .error fault => (none, r.fail fault)
    | .ok (token, lexer) => (some token, { r with lexer })

def drop (r : Reader) : Reader :=
  { r with lexer := r.lexer.drop }

/-- What a collection breaks off with. -/
def stop (r : Reader) : Option Break :=
  r.fault.map .at

/-- The node at which the text has gone wrong. -/
def broken (r : Reader) : Node :=
  .broken (.at (r.fault.getD .noDocument))

/-- The number by which aliases refer to a name. -/
def anchorOf? (name : List Char) (r : Reader) : Option Nat :=
  (r.names.find? (·.1 = name)).map (·.2)

/-- Names with one more, or with another number for it. -/
def setName (name : List Char) (number : Nat) :
    List (List Char × Nat) → List (List Char × Nat)
  | [] => [(name, number)]
  | (n, k) :: rest =>
    if n = name then (n, number) :: rest else (n, k) :: setName name number rest

/-- A node begins that may have an anchor; the node is not known yet.  It gets
the number of names there are. -/
def enter (anchor : Option (List Char)) (r : Reader) : Option (Nat × Nat) × Reader :=
  match anchor with
  | none => (none, r)
  | some name =>
    let number := r.names.length
    (some (r.begun, number),
      { r with names := setName name number r.names, begun := r.begun + 1 })

/-- A node ends that may have an anchor. -/
def leave (mark : Option (Nat × Nat)) (node : Node) (r : Reader) : Node × Reader :=
  match mark with
  | none => (node, r)
  | some (serial, anchor) => (node, { r with anchored := ⟨serial, anchor, node⟩ :: r.anchored })

/-- A scalar that is not written. -/
def blank : Node :=
  .scalar (scalar [] .plain none)

/-- An anchor and a tag before a node, in either order. -/
def takeProperties (r : Reader) : Properties × Reader :=
  match r.peek with
  | (some (.anchor name), r) =>
    match r.drop.peek with
    | (some (.tag handle suffix), r) => (⟨some name, some (handle, suffix)⟩, r.drop)
    | (_, r) => (⟨some name, none⟩, r)
  | (some (.tag handle suffix), r) =>
    match r.drop.peek with
    | (some (.anchor name), r) => (⟨some name, some (handle, suffix)⟩, r.drop)
    | (_, r) => (⟨none, some (handle, suffix)⟩, r)
  | (_, r) => (⟨none, none⟩, r)

/-- The tag a handle and the rest stand for. -/
def tag? (handle suffix : List Char) (r : Reader) : Option (List Char) :=
  if handle.isEmpty then some suffix
  else (r.handles.find? (·.1 = handle)).map fun (_, start) => start ++ suffix

/-- The tag before a node in full; it must have a known handle. -/
def resolveTag (p : Properties) (r : Reader) : Option (List Char) × Reader :=
  match p.tag with
  | none => (none, r)
  | some (handle, suffix) => match r.tag? handle suffix with
    | some tag => (some tag, r)
    | none => (none, r.failAt "found undefined tag handle" "while parsing a node")

/-- What a missing node is complained about with. -/
def noContent (block : Bool) (r : Reader) : Reader :=
  r.failAt "did not find expected node content"
    (if block then "while parsing a block node" else "while parsing a flow node")

/-- Whether no value follows in a mapping that is indented. -/
def endsBlockEntry : Token → Bool
  | .key | .value | .blockEnd => true
  | _ => false

/-- Whether no item follows in a list whose dashes are not indented. -/
def endsIndentlessItem : Token → Bool
  | .blockEntry | .key | .value | .blockEnd => true
  | _ => false

/-- Whether no item follows in a list that is indented. -/
def endsBlockItem : Token → Bool
  | .blockEntry | .blockEnd => true
  | _ => false

/-- Whether no value follows in a mapping between braces. -/
def endsFlowEntry : Token → Bool
  | .flowEntry | .flowMappingEnd => true
  | _ => false

/-- Whether no value follows in a pair between square brackets. -/
def endsFlowPair : Token → Bool
  | .flowEntry | .flowSequenceEnd => true
  | _ => false

mutual

/-- The next node.  A `block` node may be a collection that is indented, and an
`indentless` one a list whose dashes are not. -/
def readNode (block indentless : Bool) : (fuel : Nat) → Reader → Node × Reader
  | 0, r => (r.broken, r.fail .tooDeep)
  | fuel + 1, r =>
    match r.peek with
    | (some (.aliasTo name), r) => match r.anchorOf? name with
      | some anchor => (.aliasTo anchor, r.drop)
      | none =>
        let r := r.fail .unknownAnchor
        (r.broken, r)
    | (_, r) =>
      let (properties, r) := r.takeProperties
      let (tag, r) := r.resolveTag properties
      readContent block indentless properties.anchor tag fuel r

/-- The content of a node after its anchor and tag. -/
def readContent (block indentless : Bool) (anchor tag : Option (List Char)) :
    (fuel : Nat) → Reader → Node × Reader
  | 0, r => (r.broken, r.fail .tooDeep)
  | fuel + 1, r =>
    match r.peek with
    | (none, r) => (r.broken, r)
    | (some token, r) =>
      let (mark, inside) := r.enter anchor
      if indentless && token = .blockEntry then
        let (items, r) := readIndentlessItems fuel inside
        r.leave mark (.sequence items r.stop)
      else match token, block with
        | .scalar text style, _ =>
          let tag := if tag = some ['!'] then none else tag
          inside.drop.leave mark (.scalar (scalar text style tag))
        | .flowSequenceStart, _ =>
          let (items, r) := readFlowItems true fuel inside.drop
          r.leave mark (.sequence items r.stop)
        | .flowMappingStart, _ =>
          let (entries, r) := readFlowEntries true fuel inside.drop
          r.leave mark (.mapping entries r.stop)
        | .blockSequenceStart, true =>
          let (items, r) := readBlockItems fuel inside.drop
          r.leave mark (.sequence items r.stop)
        | .blockMappingStart, true =>
          let (entries, r) := readBlockEntries fuel inside.drop
          r.leave mark (.mapping entries r.stop)
        | _, _ =>
          if anchor.isSome || tag.isSome then
            inside.leave mark (.scalar (scalar [] .plain tag))
          else
            let r := r.noContent block
            (r.broken, r)

/-- The next node, or nothing if the next token ends the place for it. -/
def readOptional (ends : Token → Bool) (block indentless : Bool) :
    (fuel : Nat) → Reader → Node × Reader
  | 0, r => (r.broken, r.fail .tooDeep)
  | fuel + 1, r =>
    match r.peek with
    | (none, r) => (r.broken, r)
    | (some token, r) => if ends token then (blank, r) else readNode block indentless fuel r

/-- The value after a key, if there is one. -/
def readValue (ends : Token → Bool) (block : Bool) : (fuel : Nat) → Reader → Node × Reader
  | 0, r => (r.broken, r.fail .tooDeep)
  | fuel + 1, r =>
    match r.peek with
    | (none, r) => (r.broken, r)
    | (some .value, r) => readOptional ends block block fuel r.drop
    | (some _, r) => (blank, r)

/-- The items of a list that is indented, to its end. -/
def readBlockItems : (fuel : Nat) → Reader → List Node × Reader
  | 0, r => ([], r.fail .tooDeep)
  | fuel + 1, r =>
    match r.peek with
    | (none, r) => ([], r)
    | (some .blockEntry, r) =>
      let (item, r) := readOptional endsBlockItem true false fuel r.drop
      let (items, r) := readBlockItems fuel r
      (item :: items, r)
    | (some .blockEnd, r) => ([], r.drop)
    | (some _, r) =>
      ([], r.failAt "did not find expected '-' indicator" "while parsing a block collection")

/-- The items of a list whose dashes are not indented, to its end. -/
def readIndentlessItems : (fuel : Nat) → Reader → List Node × Reader
  | 0, r => ([], r.fail .tooDeep)
  | fuel + 1, r =>
    match r.peek with
    | (some .blockEntry, r) =>
      let (item, r) := readOptional endsIndentlessItem true false fuel r.drop
      let (items, r) := readIndentlessItems fuel r
      (item :: items, r)
    | (_, r) => ([], r)

/-- The entries of a mapping that is indented, to its end. -/
def readBlockEntries : (fuel : Nat) → Reader → List (Node × Node) × Reader
  | 0, r => ([], r.fail .tooDeep)
  | fuel + 1, r =>
    match r.peek with
    | (none, r) => ([], r)
    | (some .key, r) =>
      let (key, r) := readOptional endsBlockEntry true true fuel r.drop
      let (value, r) := readValue endsBlockEntry true fuel r
      let (entries, r) := readBlockEntries fuel r
      ((key, value) :: entries, r)
    | (some .blockEnd, r) => ([], r.drop)
    | (some _, r) => ([], r.failAt "did not find expected key" "while parsing a block mapping")

/-- The items of a list between square brackets, to its end.  Before an item
that is not the `first` a comma must stand. -/
def readFlowItems (first : Bool) : (fuel : Nat) → Reader → List Node × Reader
  | 0, r => ([], r.fail .tooDeep)
  | fuel + 1, r =>
    match r.peek, first with
    | (none, r), _ => ([], r)
    | (some .flowSequenceEnd, r), _ => ([], r.drop)
    | (some .flowEntry, r), false => readFlowItem fuel r.drop
    | (some _, r), true => readFlowItem fuel r
    | (some _, r), false =>
      ([], r.failAt "did not find expected ',' or ']'" "while parsing a flow sequence")

/-- An item of a list between square brackets, and the items after it. -/
def readFlowItem : (fuel : Nat) → Reader → List Node × Reader
  | 0, r => ([], r.fail .tooDeep)
  | fuel + 1, r =>
    match r.peek with
    | (none, r) => ([], r)
    | (some .flowSequenceEnd, r) => ([], r.drop)
    | (some .key, r) =>
      let (item, r) := readFlowPair fuel r.drop
      let (items, r) := readFlowItems false fuel r
      (item :: items, r)
    | (some _, r) =>
      let (item, r) := readNode false false fuel r
      let (items, r) := readFlowItems false fuel r
      (item :: items, r)

/-- A single pair between square brackets.  If it has no key, the token that
stands in its place is passed over. -/
def readFlowPair : (fuel : Nat) → Reader → Node × Reader
  | 0, r => (r.broken, r.fail .tooDeep)
  | fuel + 1, r =>
    match r.peek with
    | (none, r) => (.mapping [] r.stop, r)
    | (some token, r) =>
      let (key, r) :=
        if token = .value || endsFlowPair token then (blank, r.drop)
        else readNode false false fuel r
      let (value, r) := readValue endsFlowPair false fuel r
      let (_, r) := r.peek
      (.mapping [(key, value)] r.stop, r)

/-- The entries of a mapping between braces, to its end.  Before an entry that
is not the `first` a comma must stand. -/
def readFlowEntries (first : Bool) : (fuel : Nat) → Reader → List (Node × Node) × Reader
  | 0, r => ([], r.fail .tooDeep)
  | fuel + 1, r =>
    match r.peek, first with
    | (none, r), _ => ([], r)
    | (some .flowMappingEnd, r), _ => ([], r.drop)
    | (some .flowEntry, r), false => readFlowEntry fuel r.drop
    | (some _, r), true => readFlowEntry fuel r
    | (some _, r), false =>
      ([], r.failAt "did not find expected ',' or '\x7d'" "while parsing a flow mapping")

/-- An entry of a mapping between braces, and the entries after it. -/
def readFlowEntry : (fuel : Nat) → Reader → List (Node × Node) × Reader
  | 0, r => ([], r.fail .tooDeep)
  | fuel + 1, r =>
    match r.peek with
    | (none, r) => ([], r)
    | (some .flowMappingEnd, r) => ([], r.drop)
    | (some .key, r) =>
      let (key, r) :=
        readOptional (fun t => t = .value || endsFlowEntry t) false false fuel r.drop
      let (value, r) := readValue endsFlowEntry false fuel r
      let (entries, r) := readFlowEntries false fuel r
      ((key, value) :: entries, r)
    | (some _, r) =>
      let (key, r) := readNode false false fuel r
      let (next, r) := r.peek
      let value := if next.isNone then r.broken else blank
      let (entries, r) := readFlowEntries false fuel r
      ((key, value) :: entries, r)

end

/-- The directives before a document; `versioned` when a version has been given,
and `own` holds the handles defined so far. -/
def readDirectives : (fuel : Nat) → (versioned : Bool) →
    (own : List (List Char × List Char)) → Reader → Reader
  | 0, _, _, r => r.fail .tooDeep
  | fuel + 1, versioned, own, r =>
    match r.peek with
    | (some (.version major minor), r) =>
      if versioned then r.fail (.markup "found duplicate %YAML directive" none none)
      else if major ≠ 1 || (minor ≠ 1 && minor ≠ 2) then
        r.fail (.markup "found incompatible YAML document" none none)
      else readDirectives fuel true own r.drop
    | (some (.tagPrefix handle value), r) =>
      if own.any (·.1 = handle) then
        r.fail (.markup "found duplicate %TAG directive" none none)
      else readDirectives fuel versioned (own ++ [(handle, value)]) r.drop
    | (_, r) => { r with handles := own ++ defaultHandles }

/-- Whether a token shows that a document is empty. -/
def endsDocument : Token → Bool
  | .version .. | .tagPrefix .. | .documentStart | .documentEnd | .streamEnd => true
  | _ => false

/-- The root of a document that begins with directives or a marker. -/
def readExplicit (fuel : Nat) (r : Reader) : Node × Reader :=
  match (readDirectives fuel false [] r).peek with
  | (some .documentStart, r) => readOptional endsDocument true false fuel r.drop
  | (none, r) => (r.broken, r)
  | (some _, r) =>
    let r := r.fail (.markup "did not find expected <document start>" none none)
    (r.broken, r)

/-- Pass over the ends of documents. -/
def skipEnds : (fuel : Nat) → Reader → Option Token × Reader
  | 0, r => r.peek
  | fuel + 1, r =>
    match r.peek with
    | (some .documentEnd, r) => skipEnds fuel r.drop
    | next => next

/-- What is wrong after the root of a document: nothing may follow it but its end. -/
def readTail (fuel : Nat) (r : Reader) : Option Fault :=
  match r.fault with
  | some fault => some fault
  | none => match r.peek with
    | (none, r) => r.fault
    | (some _, r) => match skipEnds fuel r with
      | (some .streamEnd, _) => none
      | _ => some .severalDocuments

/-- The document with a given root; of nodes with one anchor the one that
began last counts. -/
def source (fuel : Nat) (root : Node × Reader) : Source :=
  let (node, r) := root
  let anchored := r.anchored.mergeSort fun a b => b.serial ≤ a.serial
  ⟨node, anchored.map fun a => (a.anchor, a.node), readTail fuel r⟩

end Reader

/-- Whether a character may stand in a text at all. -/
def isAllowed (c : Char) : Bool :=
  let n := c.toNat
  n = 9 || n = 10 || n = 13 || (0x20 ≤ n && n ≤ 0x7E) || n = 0x85 || (0xA0 ≤ n && n ≤ 0xD7FF) ||
    (0xE000 ≤ n && n ≤ 0xFFFD) || 0x10000 ≤ n

/-- The number of bytes before the first character that may not stand in a text. -/
def forbiddenAt? : (offset : Nat) → List Char → Option Nat
  | _, [] => none
  | offset, c :: rest =>
    if isAllowed c then forbiddenAt? (offset + c.utf8Size) rest else some offset

def read (text : List Char) : Source :=
  match forbiddenAt? 0 text with
  | some offset =>
    let place := if offset = 0 then none else some offset
    ⟨.broken (.at (.markup "control characters are not allowed" place none)), [], none⟩
  | none =>
    let fuel := 6 * text.length + 16
    match (Reader.start text).peek with
    | (none, r) => ⟨r.broken, [], none⟩
    | (some .streamEnd, _) => ⟨.mapping [] none, [], none⟩
    | (some token, r) =>
      let explicit := match token with
        | .version .. | .tagPrefix .. | .documentStart => true
        | _ => false
      Reader.source fuel (if explicit then r.readExplicit fuel else r.readNode true false fuel)

end PolicyRollout.Yaml

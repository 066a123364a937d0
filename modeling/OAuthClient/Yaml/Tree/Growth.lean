import OAuthClient.Yaml.Tree

/-!
# How a tree grows

A tree grows token by token. The nodes that are not finished are frames, the innermost one first,
each with its items so far. A token is offered to the innermost frame, which takes it or closes;
a closed frame becomes a tree of the frame around it, and the token is offered to that one.

## Main declarations

* `Yaml.Tree.Frame`, `Yaml.Tree.Growth`: an unfinished node, and all unfinished nodes of a document.
* `Yaml.Tree.Growth.attach`: gives a finished node to the frame around it.
* `Yaml.Tree.Growth.feed`: gives a token to the frames.
* `Yaml.Tree.Document.ofTokens?`: the document that tokens make up.
-/

namespace OAuthClient

namespace Yaml

namespace Tree

/-! ### Frames -/

/-- A node that is not finished. The items are given last one first. -/
inductive Frame where
  | leaf (token : Token) (after : List Token)
  | map (start indent : Nat) (last : Item Tree) (earlier : List (Item Tree))
  | seq (start indent : Nat) (last : Item Tree) (earlier : List (Item Tree))
  | flow (opening : Token) (indent : Nat) (items : List (Item Tree)) (after : List Token)

/-- In a flow sequence an item without a question mark and without a colon is a value. -/
def Item.settled (item : Item Tree) : Item Tree :=
  match item.key, item.between with
  | some key, some between =>
    if item.value.isSome || Token.hasKind item.before .question || Token.hasKind between .colon
    then item
    else if key.isInline then { before := item.before, value := some (key.addAfter between) }
    else { before := item.before ++ between, value := some key }
  | _, _ => item

/-- The tree of a frame. -/
def Frame.tree : Frame → Tree
  | leaf token after => .leaf token after
  | map start indent last earlier => .map start indent (last :: earlier).reverse
  | seq start indent last earlier => .seq start indent (last :: earlier).reverse
  | flow opening indent items after =>
    let items := items.reverse
    .flow opening indent (if opening.kind = .openSeq then items.map Item.settled else items) after

/-- The unfinished nodes of a document. -/
structure Growth where
  /-- The tokens before the node of the document. -/
  before : List Token := []
  /-- The node of the document, if it is finished. -/
  root : Option Tree := none
  /-- The unfinished nodes, the innermost one first. -/
  frames : List Frame := []
  /-- Whether the line holds the key of an item. -/
  onKeyLine : Bool := false

namespace Growth

/-- Makes a node the innermost one. -/
def push (frame : Frame) (growth : Growth) : Growth :=
  { growth with frames := frame :: growth.frames }

/-! ### Properties on the line of a key -/

/-- Splits tokens before a node into those on earlier lines or before indicators, with blanks, and
the properties that follow on the line. -/
def splitProperties (tokens : List Token) : List Token × List Token :=
  let line := (tokens.reverse.takeWhile fun token =>
    token.kind ∉ [.documentStart, .question, .colon, .dash, .newline]).reverse
  let taken := line.dropWhile (·.kind = .space)
  (tokens.take (tokens.length - taken.length), taken)

/-- Takes the properties on the line from the innermost frame: those before a key belong to the
key, not to the map that the key starts. -/
def takeProperties (growth : Growth) : List Token × Growth :=
  match growth.frames with
  | [] =>
    let (kept, taken) := splitProperties growth.before
    (taken, { growth with before := kept })
  | .map start indent last earlier :: below =>
    match last.between with
    | some tokens =>
      let (kept, taken) := splitProperties tokens
      let last := { last with between := some kept }
      (taken, { growth with frames := .map start indent last earlier :: below })
    | none =>
      let (kept, taken) := splitProperties last.before
      let last := { last with before := kept }
      (taken, { growth with frames := .map start indent last earlier :: below })
  | .seq start indent last earlier :: below =>
    let (kept, taken) := splitProperties last.before
    let last := { last with before := kept }
    (taken, { growth with frames := .seq start indent last earlier :: below })
  | _ => ([], growth)

/-! ### Finished nodes -/

/-- Whether an item at the end of a collection with some indentation holds only blanks that do not
belong to the collection, as their comments are indented less. -/
def isTrailing (indent : Nat) (item : Item Tree) : Bool :=
  item.between.isNone && item.value.isNone && item.before ≠ [] && item.before.all (·.isBlank) &&
    (indent = 0 || item.before.all fun token => token.kind ≠ .comment || token.indent < indent)

/-- Takes a last item that does not belong to a block collection off it, and gives its tokens. -/
def shed : Tree → Tree × List Token
  | .map start indent items =>
    match items.getLast? with
    | some item =>
      if isTrailing indent item then (.map start indent items.dropLast, item.before)
      else (.map start indent items, [])
    | none => (.map start indent items, [])
  | .seq start indent items =>
    match items.getLast? with
    | some item =>
      if isTrailing indent item then (.seq start indent items.dropLast, item.before)
      else (.seq start indent items, [])
    | none => (.seq start indent items, [])
  | tree => (tree, [])

/-- Gives a node to the innermost frame, or to the document. -/
def attach (tree : Tree) (growth : Growth) : Option Growth :=
  match growth.frames with
  | [] =>
    let tree := match tree with
      | .flow opening _ items after => .flow opening 0 items after
      | .block token header _ => .block token header 0
      | tree => (shed tree).1
    some { growth with root := some tree }
  | .leaf .. :: _ => none
  | .map start indent last earlier :: below =>
    let tree := within indent tree
    if last.value.isSome then
      let item := { key := some tree, between := some [] }
      let frame := Frame.map start indent item (last :: earlier)
      some { growth with frames := frame :: below, onKeyLine := true }
    else if last.between.isSome then
      let (tree, tokens) := shed tree
      let last := { last with value := some tree }
      let frame :=
        if tokens = [] then Frame.map start indent last earlier
        else Frame.map start indent { before := tokens } (last :: earlier)
      some { growth with frames := frame :: below }
    else
      let last := { last with key := some tree, between := some [] }
      some { growth with
        frames := .map start indent last earlier :: below, onKeyLine := !last.explicit }
  | .seq start indent last earlier :: below =>
    let (tree, tokens) := shed (within indent tree)
    let items :=
      if last.value.isSome then { value := some tree } :: last :: earlier
      else { last with value := some tree } :: earlier
    match if tokens = [] then items else { before := tokens } :: items with
    | last :: earlier => some { growth with frames := .seq start indent last earlier :: below }
    | [] => none
  | .flow opening indent items after :: below =>
    let items : List (Item Tree) :=
      match items with
      | [] => [{ key := some tree, between := some [] }]
      | last :: earlier =>
        if last.value.isSome then { key := some tree, between := some [] } :: last :: earlier
        else if last.between.isSome then { last with value := some tree } :: earlier
        else { last with key := some tree, between := some [] } :: earlier
    some { growth with frames := .flow opening indent items after :: below }
where
  /-- The indentation of a block scalar is that of the collection that holds it. -/
  within (indent : Nat) : Tree → Tree
    | .block token header _ => .block token header indent
    | tree => tree

/-- Closes the innermost frame. -/
def close (growth : Growth) : Option Growth :=
  match growth.frames with
  | [] => some growth
  | frame :: below => attach frame.tree { growth with frames := below }

/-- Closes all frames. -/
def closeAll : Nat → Growth → Option Growth
  | 0, growth => some growth
  | n + 1, growth => growth.close.bind (closeAll n)

/-! ### Tokens in frames -/

/-- What a token does to the innermost frame. -/
inductive Turn where
  /-- The frame or one within it takes the token. -/
  | taken (growth : Growth)
  /-- The frame ends before the token. -/
  | closes
  /-- The token cannot stand here. -/
  | refused

/-- A turn that takes the token if it can be taken. -/
def Turn.ofOption : Option Growth → Turn
  | some growth => taken growth
  | none => refused

/-- Begins the node that a token starts, if it starts one. -/
def begin (token : Token) (growth : Growth) : Option Growth :=
  match token.kind with
  | .alias | .plain | .single | .double => some (growth.push (.leaf token []))
  | .block header => growth.attach (.block token header 0)
  | .openMap | .openSeq => some (growth.push (.flow token token.indent [] []))
  | .dash => some (growth.push (.seq token.start token.indent { before := [token] } []))
  | .question =>
    let (properties, growth) := growth.takeProperties
    let item := { before := properties ++ [token], explicit := true }
    some ({ growth with onKeyLine := true }.push (.map token.start token.indent item []))
  | .colon =>
    let (properties, growth) := growth.takeProperties
    let item := { before := properties, between := some [token] }
    some ({ growth with onKeyLine := true }.push (.map token.start token.indent item []))
  | _ => none

/-- A token after a finished node on its line; `reopen` gives the frame with one more token. -/
def lineTurn (token : Token) (reopen : Frame) (growth : Growth) : Turn :=
  match token.kind with
  | .comma | .documentStart | .closeMap | .closeSeq | .colon => .closes
  | .newline => .ofOption (attach reopen.tree { growth with onKeyLine := false })
  | _ => .taken (growth.push reopen)

/-- A token after a scalar: a colon makes it the key of a map. -/
def leafTurn (token scalar : Token) (after : List Token) (growth : Growth) : Turn :=
  if token.kind = .colon then
    let (properties, growth) := growth.takeProperties
    let item :=
      { before := properties, key := some (.leaf scalar []), between := some (after ++ [token]) }
    .taken ({ growth with onKeyLine := true }.push (.map scalar.start scalar.indent item []))
  else lineTurn token (.leaf scalar (after ++ [token])) growth

/-- Whether a comment belongs to the value before it, as it is indented more than the collection and
nothing but blanks stands between them. -/
def isIndentedComment (token : Token) (before : List Token) (indent : Nat) : Bool :=
  token.kind = .comment && indent < token.indent &&
    before.all fun t => t.kind = .newline || t.kind = .space

/-- Adds a blank to the last item of a block collection. After a value it starts a new item, unless
it ends the line of a comment that belongs to the value. -/
def addBlank (token : Token) (indent : Nat) (last : Item Tree) (earlier : List (Item Tree)) :
    Item Tree × List (Item Tree) :=
  match last.value with
  | some value =>
    let afterComment := (value.after?.bind List.getLast?).any (·.kind = .comment)
    if token.kind = .newline && afterComment then
      ({ last with value := some (value.addAfter [token]) }, earlier)
    else ({ before := [token] }, last :: earlier)
  | none =>
    match last.between with
    | some tokens => ({ last with between := some (tokens ++ [token]) }, earlier)
    | none =>
      let grown := { last with before := last.before ++ [token] }
      match earlier with
      | [] => (grown, [])
      | previous :: others =>
        match previous.value with
        | some value =>
          if isIndentedComment token last.before indent && value.after?.isSome then
            ({ previous with value := some (value.addAfter (last.before ++ [token])) }, others)
          else (grown, earlier)
        | none => (grown, earlier)

/-- A token in a block sequence. -/
def seqTurn (token : Token) (start indent : Nat) (last : Item Tree) (earlier : List (Item Tree))
    (growth : Growth) : Turn :=
  let reopen (last : Item Tree) (earlier : List (Item Tree)) : Turn :=
    .taken (growth.push (.seq start indent last earlier))
  let inner : Turn :=
    if indent < token.indent then
      match (growth.push (.seq start indent last earlier)).begin token with
      | some growth => .taken growth
      | none => .closes
    else .closes
  match token.kind with
  | .newline | .space | .comment =>
    let (last, earlier) := addBlank token indent last earlier
    reopen last earlier
  | .anchor =>
    if last.value.isSome || token.indent ≤ indent then inner
    else reopen { last with before := last.before ++ [token] } earlier
  | .dash =>
    if token.indent ≠ indent then inner
    else if last.value.isSome || Token.hasKind last.before .dash then
      reopen { before := [token] } (last :: earlier)
    else reopen { last with before := last.before ++ [token] } earlier
  | _ => inner

/-- Where the second of the line ends is after which nothing but blanks follows a key, if there are
two; comments that are indented more than the map belong to the key. -/
def secondLineEnd? (indent : Nat) (tokens : List Token) : Option Nat :=
  let step (ends : List Nat) (t : Token × Nat) : List Nat :=
    match t.1.kind with
    | .newline => ends ++ [t.2]
    | .space => ends
    | .comment => if indent < t.1.indent then [] else ends
    | _ => []
  (tokens.zipIdx.foldl step [])[1]?

/-- A colon in a block map; `start` are blanks that go to the next item. -/
def colonTurn (token : Token) (atNext : Bool) (start : List Token)
    (reopen : Item Tree → List (Item Tree) → Growth) (last : Item Tree)
    (earlier : List (Item Tree)) : Growth :=
  let nested (growth : Growth) (item : Item Tree) : Growth :=
    growth.push (.map token.start token.indent item [])
  let item (before : List Token) : Item Tree := { before, between := some [token] }
  match last.between with
  | none =>
    if last.explicit && !Token.hasKind last.before .newline then
      let (kept, taken) := splitProperties last.before
      nested (reopen { last with before := kept } earlier) (item taken)
    else reopen { last with between := some [token] } earlier
  | some tokens =>
    if last.explicit then
      if last.value.isSome then reopen (item []) (last :: earlier)
      else if Token.hasKind tokens .colon then nested (reopen last earlier) (item start)
      else if last.key.any isInline && !Token.hasKind tokens .newline then
        let (kept, taken) := splitProperties last.before
        let outer := { last with before := kept, key := none, between := none }
        nested (reopen outer earlier)
          { before := taken, key := last.key, between := some (tokens ++ [token]) }
      else reopen { last with between := some (tokens ++ start ++ [token]) } earlier
    else if last.value.isSome || atNext then reopen (item start) (last :: earlier)
    else if Token.hasKind tokens .colon then nested (reopen last earlier) (item [])
    else reopen { last with between := some (tokens ++ [token]) } earlier

/-- A token in a block map. -/
def mapTurn (token : Token) (start indent : Nat) (last : Item Tree) (earlier : List (Item Tree))
    (growth : Growth) : Turn :=
  let reopen (last : Item Tree) (earlier : List (Item Tree)) : Growth :=
    growth.push (.map start indent last earlier)
  if token.isBlank then
    let (last, earlier) := addBlank token indent last earlier
    let onKeyLine := growth.onKeyLine && token.kind ≠ .newline
    .taken { reopen last earlier with onKeyLine }
  else if token.indent < indent then .closes
  else
    let atIndent := !growth.onKeyLine && token.indent = indent
    let atNext := atIndent && (last.between.isSome || last.explicit) && token.kind ≠ .dash
    -- blank lines after a key without a value go to the next item
    let (last, before) : Item Tree × List Token :=
      match last.between with
      | some tokens =>
        match if atNext && last.value.isNone then secondLineEnd? indent tokens else none with
        | some n => ({ last with between := some (tokens.take n) }, tokens.drop n)
        | none => (last, [])
      | none => (last, [])
    let onKey (growth : Growth) : Turn := .taken { growth with onKeyLine := true }
    let nextItem := atNext || last.value.isSome
    match token.kind with
    | .anchor =>
      if nextItem then onKey (reopen { before := before ++ [token] } (last :: earlier))
      else match last.between with
        | some tokens => .taken (reopen { last with between := some (tokens ++ [token]) } earlier)
        | none => .taken (reopen { last with before := last.before ++ [token] } earlier)
    | .question =>
      if last.between.isNone && !last.explicit then
        onKey (reopen { last with before := last.before ++ [token], explicit := true } earlier)
      else if nextItem then
        onKey (reopen { before := before ++ [token], explicit := true } (last :: earlier))
      else
        let item := { before := [token], explicit := true }
        onKey ((reopen last earlier).push (.map token.start token.indent item []))
    | .colon => onKey (colonTurn token atNext before reopen last earlier)
    | .alias | .plain | .single | .double =>
      if nextItem then
        let item := { before, key := some (.leaf token []), between := some [] }
        onKey (reopen item (last :: earlier))
      else if last.between.isSome then .taken ((reopen last earlier).push (.leaf token []))
      else
        onKey (reopen { last with key := some (.leaf token []), between := some [] } earlier)
    | .dash =>
      if !last.explicit && last.between.any fun tokens => !Token.hasKind tokens .newline then
        .refused
      else .ofOption ((reopen last earlier).begin token)
    | .openMap | .openSeq | .block _ =>
      .ofOption ((if atIndent then reopen { before } (last :: earlier)
        else reopen last earlier).begin token)
    | _ => .closes

/-- A token in an open flow collection. -/
def flowTurn (token opening : Token) (indent : Nat) (items : List (Item Tree)) (growth : Growth) :
    Turn :=
  let reopen (items : List (Item Tree)) : Growth := growth.push (.flow opening indent items [])
  let (last, earlier) : Item Tree × List (Item Tree) :=
    match items with
    | [] => ({}, [])
    | last :: earlier => if last.value.isSome then ({}, items) else (last, earlier)
  match token.kind with
  | .comma | .question =>
    match items with
    | last :: earlier =>
      if last.between.isSome then .taken (reopen ({ before := [token] } :: items))
      else .taken (reopen ({ last with before := last.before ++ [token] } :: earlier))
    | [] => .taken (reopen [{ before := [token] }])
  | .colon =>
    .taken (reopen ({ last with between := some (last.between.getD [] ++ [token]) } :: earlier))
  | .space | .comment | .newline | .anchor =>
    match last.between with
    | some tokens => .taken (reopen ({ last with between := some (tokens ++ [token]) } :: earlier))
    | none => .taken (reopen ({ last with before := last.before ++ [token] } :: earlier))
  | .alias | .plain | .single | .double =>
    if last.between.isSome then .taken ((reopen items).push (.leaf token []))
    else .taken (reopen ({ last with key := some (.leaf token []), between := some [] } :: earlier))
  | .closeMap | .closeSeq => .taken (growth.push (.flow opening indent items [token]))
  | .openMap | .openSeq => .ofOption ((reopen items).begin token)
  | _ => .refused

/-- A token after a flow collection: a colon makes it the key of a map. In a block map with the same
indentation the collection is attached first, so that the colon belongs to that map. -/
def closedTurn (token opening : Token) (indent : Nat) (items : List (Item Tree))
    (after : List Token) (growth : Growth) : Turn :=
  let attachesFirst : Bool :=
    match growth.frames with
    | .map _ outer last _ :: _ =>
      (token.kind = .colon && outer = indent) || (token.kind = .newline && last.between.isNone)
    | _ => false
  let inFlow : Bool :=
    match growth.frames with
    | .flow .. :: _ => true
    | _ => false
  if attachesFirst then .closes
  else if token.kind = .colon && !inFlow then
    let (properties, growth) := growth.takeProperties
    let key := (Frame.flow opening indent items (after.take 1)).tree
    let item := { before := properties, key := some key, between := some (after.drop 1 ++ [token]) }
    .taken ({ growth with onKeyLine := true }.push (.map opening.start indent item []))
  else lineTurn token (.flow opening indent items (after ++ [token])) growth

/-- A token in the innermost frame, which is taken off `growth`. -/
def turn (token : Token) (frame : Frame) (growth : Growth) : Turn :=
  match frame with
  | .leaf scalar after => leafTurn token scalar after growth
  | .map start indent last earlier => mapTurn token start indent last earlier growth
  | .seq start indent last earlier => seqTurn token start indent last earlier growth
  | .flow opening indent items [] => flowTurn token opening indent items growth
  | .flow opening indent items after => closedTurn token opening indent items after growth

/-- A token before the node of the document, or blanks after it. -/
def rootTurn (token : Token) (growth : Growth) : Option Growth :=
  if growth.root.isSome then if token.isBlank then some growth else none
  else match token.kind with
    | .documentStart =>
      if growth.before.all (·.isBlank) then some { growth with before := growth.before ++ [token] }
      else none
    | .anchor | .space | .comment | .newline =>
      some { growth with before := growth.before ++ [token] }
    | _ => growth.begin token

/-- Offers a token to the innermost frame, and if that closes to the next one, `n` times at most. -/
def offer (token : Token) : Nat → Growth → Option Growth
  | 0, _ => none
  | n + 1, growth =>
    match growth.frames with
    | [] => rootTurn token growth
    | frame :: below =>
      match turn token frame { growth with frames := below } with
      | .taken growth => some growth
      | .refused => none
      | .closes => growth.close.bind (offer token n)

/-- Gives a token to the frames. -/
def feed (growth : Growth) (token : Token) : Option Growth :=
  offer token (growth.frames.length + 1) growth

end Growth

/-! ### Documents -/

/-- How far a text has been read; `directed` tells that there were directives. -/
inductive Progress where
  /-- No document has begun. -/
  | ahead (directed : Bool)
  /-- The document may go on. -/
  | inside (directed : Bool) (growth : Growth)
  /-- The document has ended with a marker; `sameLine` tells that the line of the marker may go on.
  -/
  | ended (document : Document) (sameLine : Bool)

namespace Progress

/-- The document of a growth. Directives end with a marker. -/
def document? (directed : Bool) (growth : Growth) : Option Document :=
  if directed && !Token.hasKind growth.before .documentStart then none
  else (growth.closeAll growth.frames.length).map fun growth => ⟨growth.before, growth.root⟩

/-- Reads a token. -/
def next : Progress → Token → Option Progress
  | ahead directed, token =>
    match token.kind with
    | .document => some (inside directed {})
    | .directive => some (ahead true)
    | .byteOrderMark | .space | .comment | .newline => some (ahead directed)
    | _ => none
  | inside directed growth, token =>
    if token.kind = .documentEnd then (document? directed growth).map (ended · true)
    else (growth.feed token).map (inside directed)
  | ended document sameLine, token =>
    match token.kind with
    | .newline => some (ended document false)
    | .space | .comment => some (ended document sameLine)
    | .byteOrderMark | .directive => if sameLine then none else some (ended document false)
    | _ => none

/-- The document of a text that has been read, which is empty if none has begun. -/
def finish? : Progress → Option Document
  | ahead directed => if directed then none else some {}
  | inside directed growth => document? directed growth
  | ended document _ => some document

end Progress

/-- The document that tokens make up, if it is one. -/
def Document.ofTokens? (tokens : List Token) : Option Document :=
  (tokens.foldlM Progress.next (.ahead false)).bind Progress.finish?

end Tree

end Yaml

end OAuthClient

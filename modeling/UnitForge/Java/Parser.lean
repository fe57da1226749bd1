import UnitForge.Java.Chart
import UnitForge.Java.Node
import UnitForge.Java.Rules

set_option autoImplicit false

/-!
# Parsing

Every source has a syntax tree. Where a source is not well formed, it is repaired at the least cost:
a token is put in where one is missing, or tokens are skipped.

## Main definitions

* `UnitForge.Java.Attempt`: a partial reading of a source, with the cost of its repairs.
* `UnitForge.Java.parse`: the syntax tree of a source.

## Implementation notes

A missing token is put in only where it completes a production. Skipped tokens begin at the end of
some symbol of a production in progress, and the reading goes on with the first token that can
stand there. Among all partial readings the cheapest is continued first.
-/

namespace UnitForge.Java

/-- The cost of a place at which a source is repaired. -/
def repairCost : Nat := 500

/-- The further cost of a missing token. -/
def missingCost : Nat := 110

/-- The further cost of each symbol or token that is skipped. -/
def skippedCost : Nat := 100

/-- The further cost of each row over which tokens are skipped. -/
def skippedRowCost : Nat := 30

/-- A partial reading of a source. -/
structure Attempt where
  /-- The bins of the places passed, the present one last. -/
  bins : Array Bin
  /-- For each of them the number of the next token there, and the cost up to there. -/
  places : Array (Nat × Nat)
  /-- The number of the next token. -/
  index : Nat
  /-- The span of tokens that is skipped at the present place, if there is one. -/
  skipped : Option (Nat × Nat)
  /-- The cost of all repairs. -/
  cost : Nat

/-- The result of a reading: the top of the tree, and the tokens skipped at the end. -/
structure Reading where
  /-- The derivations at the top. -/
  trees : List Tree
  /-- The span of tokens skipped at the end, if there is one. -/
  skipped : Option (Nat × Nat)

namespace Attempt

variable (g : Grammar) (tokens : Array Token)

/-- The reading at the start of a source. -/
def start : Attempt := ⟨#[Bin.first g], #[(0, 0)], 0, none, 0⟩

/-- The reading after one token more. -/
def step (a : Attempt) : Option Attempt :=
  (tokens[a.index]?).bind fun token =>
    (Bin.next? g a.bins token a.index a.skipped).map fun bin =>
      { a with
        bins := a.bins.push bin
        places := a.places.push (a.index + 1, a.cost)
        index := a.index + 1
        skipped := none }

/-- Reads on for as long as tokens fit. -/
def run (a : Attempt) : Nat → Attempt
  | 0 => a
  | fuel + 1 =>
    match a.step g tokens with
    | none => a
    | some a => a.run fuel

/-- The result, if the reading is at the end of a complete source. -/
def finished? (a : Attempt) : Option Reading :=
  if (tokens[a.index]?).all (·.kind == .finish) then
    (a.bins.back?).bind fun bin =>
      (bin.accepted? g).map fun trees => ⟨trees, a.skipped⟩
  else none

/-- Whether what is left of an item after its dot may stand for nothing. -/
def mayEnd (item : Item) : Bool :=
  match g.productions[item.production]? with
  | none => false
  | some p => (p.right.extract item.dot p.right.size).all fun
      | .terminal _ => false
      | .nonterminal n => (g.nullable[n]?).getD false

/-- The reading with a token of the given class put in before the next one, if that token completes
a production and the next one fits after it. -/
def insert? (a : Attempt) (bin : Bin) (t : Terminal) (items : List Item) : Option Attempt :=
  let leaf := Tree.missing t.node a.index
  let shifted := items.map fun item => Bin.shift item leaf a.bins.size
  if shifted.any (mayEnd g) then
    let next := Bin.ofItems g a.bins shifted
    let fits := match tokens[a.index]? with
      | none => false
      | some token =>
        if token.kind == .finish then (next.accepted? g).isSome else next.accepts g token
    if fits && bin.items.size ≠ 0 then
      let cost := a.cost + repairCost + missingCost
      some { a with
        bins := a.bins.push next
        places := a.places.push (a.index, cost)
        cost }
    else none
  else none

/-- The reading with a missing token put in, if there is one that fits. -/
def insertMissing? (a : Attempt) : Option Attempt :=
  if a.skipped.isSome then none
  else
    (a.bins.back?).bind fun bin =>
      (List.range g.terminals.size).findSome? fun t =>
        (g.terminals[t]?).bind fun terminal =>
          match (bin.scanning.filter (·.1 == t)).map (·.2) with
          | [] => none
          | items => a.insert? g tokens bin terminal items

/-- The places at which a symbol of a production in progress ends, each with the least number of
symbols between it and the end of the reading. `work` lists items with the number of symbols after
them. -/
def boundaries (a : Attempt) (found : List (Nat × Nat)) (seen : Std.HashSet Nat) :
    Nat → List (Item × Nat) → List (Nat × Nat)
  | 0, _ => found
  | _, [] => found
  | fuel + 1, (item, after) :: rest =>
    let key := Bin.key item
    if seen.contains key then boundaries a found seen fuel rest
    else
      let marks := ((item.marks ++ [item.origin]).zipIdx).map fun (place, n) => (place, after + n)
      let parents :=
        (((a.bins[item.origin]?).bind (·.waiting[Bin.leftOf g item]?)).getD []).filter
          fun parent => !(seen.contains (Bin.key parent))
      let outer := parents.map fun parent => (parent, after + item.marks.length)
      boundaries a (found ++ marks) (seen.insert key) fuel (rest ++ outer)

/-- The least numbers of symbols by place. -/
def leastBoundaries (found : List (Nat × Nat)) : List (Nat × Nat) :=
  found.foldl
    (fun least (place, n) =>
      match least.find? (·.1 == place) with
      | none => (place, n) :: least
      | some (_, m) =>
        if n < m then (place, n) :: least.filter (·.1 != place) else least)
    []

/-- The reading that goes on at an earlier place, or at the present one, after the tokens from there
up to the first that fits have been skipped. -/
def skipFrom? (a : Attempt) (place symbols : Nat) : Option Attempt :=
  match a.bins[place]?, a.places[place]? with
  | some bin, some (first, cost) =>
    let candidates := (List.range (tokens.size - a.index)).map (a.index + ·)
    let fits (i : Nat) : Bool :=
      match tokens[i]? with
      | none => false
      | some token =>
        first < i &&
          (if token.kind == .finish then (bin.accepted? g).isSome else bin.accepts g token)
    (candidates.find? fits).bind fun next =>
      match tokens[first]?, tokens[next - 1]? with
      | some firstToken, some lastToken =>
        let skipped := symbols + (next - a.index)
        some
          { bins := a.bins.extract 0 (place + 1)
            places := a.places.extract 0 (place + 1)
            index := next
            skipped := some (first, next)
            cost := cost + repairCost + skippedCost * skipped +
              (lastToken.stop - firstToken.start) +
              skippedRowCost * (lastToken.stopRow - firstToken.row) }
      | _, _ => none
  | _, _ => none

/-- The readings with one repair more at the present place. -/
def repairs (a : Attempt) : List Attempt :=
  let top := match a.bins.back? with
    | none => []
    | some bin =>
      (bin.items.toList.filter fun item => 0 < item.dot && (Bin.nextSymbol g item).isSome).map
        fun item => (item, 0)
  let found := boundaries g a [(a.bins.size - 1, 0), (0, a.bins.size)] {} 4000 top
  let skips := (leastBoundaries found).filterMap fun (place, symbols) =>
    a.skipFrom? g tokens place symbols
  match a.insertMissing? g tokens with
  | none => skips
  | some a => a :: skips

/-- A reading put into a list in ascending order of cost. -/
def enqueue (a : Attempt) : List Attempt → List Attempt
  | [] => [a]
  | b :: rest => if a.cost < b.cost then a :: b :: rest else b :: enqueue a rest

/-- The result of the cheapest reading that comes to the end of the source. -/
def search (queue : List Attempt) : Nat → Option Reading
  | 0 => none
  | fuel + 1 =>
    match queue with
    | [] => none
    | a :: rest =>
      let a := a.run g tokens (tokens.size + 1)
      match a.finished? g tokens with
      | some reading => some reading
      | none => search ((a.repairs g tokens).foldl (fun queue a => enqueue a queue) rest) fuel

end Attempt

/-- A source with its tokens. -/
structure Source where
  /-- The bytes of the source. -/
  bytes : ByteArray
  /-- Its tokens. -/
  tokens : Array Token
  /-- The row of its first character that is no blank. -/
  row : Nat

namespace Source

/-- The bytes from one position up to another. -/
def slice (s : Source) (start stop : Nat) : List UInt8 := (s.bytes.extract start stop).toList

/-- The node of a token. -/
def leaf (s : Source) (kind : String) (index : Nat) : Node :=
  match s.tokens[index]? with
  | none => .mk kind [] 0 false false []
  | some token => .mk kind (s.slice token.start token.stop) token.row false false []

/-- The error node around the tokens of a span. -/
def errorNode (s : Source) (span : Nat × Nat) : Node :=
  let children := (List.range (span.2 - span.1)).map fun n => s.leaf "token" (span.1 + n)
  match s.tokens[span.1]?, s.tokens[span.2 - 1]? with
  | some first, some last =>
    .mk Node.errorKind (s.slice first.start last.stop) first.row true false children
  | _, _ => .mk Node.errorKind [] 0 true false children

/-- A node with the span of bytes that it covers. -/
structure Placed where
  /-- The node. -/
  node : Node
  /-- The position of its first byte. -/
  start : Nat
  /-- The position after its last byte. -/
  stop : Nat

/-- An error node, placed. -/
def placedError (s : Source) (span : Nat × Nat) : Placed :=
  let start := (s.tokens[span.1]?).elim 0 (·.start)
  let stop := (s.tokens[span.2 - 1]?).elim 0 (·.stop)
  ⟨s.errorNode span, start, stop⟩

/-- A node around others. -/
def parent (s : Source) (kind : String) (children : List Placed) : Placed :=
  match children with
  | [] => ⟨.mk kind [] 0 false false [], 0, 0⟩
  | first :: _ =>
    let stop := (children.getLast?).elim 0 (·.stop)
    ⟨.mk kind (s.slice first.start stop) first.node.row (children.any (·.node.hasError)) false
      (children.map (·.node)), first.start, stop⟩

mutual

/-- The node of a derivation, after the error nodes that stand before it. -/
def place (s : Source) : Tree → List Placed × Placed
  | .token kind index skipped =>
    let errors := skipped.toList.map s.placedError
    match s.tokens[index]? with
    | none => (errors, ⟨s.leaf kind index, 0, 0⟩)
    | some token => (errors, ⟨s.leaf kind index, token.start, token.stop⟩)
  | .missing kind index =>
    let previous := if index = 0 then none else s.tokens[index - 1]?
    let position := previous.elim 0 (·.stop)
    let row := (s.tokens[index]?).elim 0 (·.rowBefore)
    ([], ⟨.mk kind [] row true true [], position, position⟩)
  | .node kind children =>
    match s.placeAll children with
    | [] => ([], s.parent kind [])
    | (errors, first) :: rest =>
      (errors, s.parent kind (first :: rest.flatMap fun (errors, node) => errors ++ [node]))

/-- The nodes of derivations, each after the error nodes that stand before it. -/
def placeAll (s : Source) : List Tree → List (List Placed × Placed)
  | [] => []
  | tree :: trees => s.place tree :: s.placeAll trees

end

/-- The node of a whole source. -/
def root (s : Source) (kind : String) (children : List Node) : Node :=
  .mk kind (s.slice 0 s.bytes.size) s.row (kind == Node.errorKind || children.any (·.hasError))
    false children

/-- The syntax tree of a reading. -/
def tree (s : Source) (r : Reading) : Node :=
  let children := (s.placeAll r.trees).flatMap fun (errors, node) => errors ++ [node]
  s.root "program" ((children ++ r.skipped.toList.map s.placedError).map (·.node))

end Source

/-- How many partial readings are continued before a source is given up as a whole. -/
def searchLimit : Nat := 400

/-- The syntax tree of a source. -/
def parse (bytes : List UInt8) : Node :=
  let s : Source := ⟨⟨bytes.toArray⟩, (tokens bytes).toArray, startRow bytes⟩
  match Attempt.search grammar s.tokens [Attempt.start grammar] searchLimit with
  | some reading => s.tree reading
  | none => s.root Node.errorKind []

end UnitForge.Java

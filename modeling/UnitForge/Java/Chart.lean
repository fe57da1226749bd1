import UnitForge.Java.Grammar
import Std.Data.HashSet.Basic

set_option autoImplicit false

/-!
# Charts

A chart parser reads a source token by token and keeps, for each place between tokens, all
productions that are in progress there. It accepts what any grammar describes, and always knows
which tokens may come next.

## Main definitions

* `UnitForge.Java.Tree`: a derivation of a part of a source.
* `UnitForge.Java.Item`: a production in progress.
* `UnitForge.Java.Bin`: the productions in progress at one place.
* `UnitForge.Java.Bin.next`: the bin after one token.

## Implementation notes

Of several derivations of one part of a source the first that is found is kept. A keyword is taken
for an identifier only where that keyword cannot stand.
-/

namespace UnitForge.Java

/-- A derivation of a part of a source. -/
inductive Tree where
  /-- The token with that number as a node of the given kind. The tokens in a span before it were
  skipped, if there is one. -/
  | token (kind : String) (index : Nat) (skipped : Option (Nat × Nat))
  /-- A token that should stand before the one with that number. -/
  | missing (kind : String) (before : Nat)
  /-- A node with its children. -/
  | node (kind : String) (children : List Tree)

/-- A production in progress. -/
structure Item where
  /-- The number of the production. -/
  production : Nat
  /-- How many of its symbols have been read. -/
  dot : Nat
  /-- The place at which it began. -/
  origin : Nat
  /-- The derivations of what has been read, last first. -/
  parts : List Tree
  /-- The places after the symbols that have been read, last first. -/
  marks : List Nat
  deriving Inhabited

/-- The productions in progress at one place. -/
structure Bin where
  /-- The items, in the order in which they were found. -/
  items : Array Item := #[]
  /-- For each nonterminal, the items that it comes next in. -/
  waiting : Array (List Item)
  /-- The items that a token comes next in, with the class of that token. -/
  scanning : List (Nat × Item) := []
  /-- What tells items apart. -/
  seen : Std.HashSet Nat := {}

namespace Bin

variable (g : Grammar)

/-- A bin without items. -/
def empty : Bin := { waiting := Array.replicate g.visibility.size [] }

/-- A number that tells items of one bin apart. -/
def key (item : Item) : Nat := (item.origin * 8192 + item.production) * 64 + item.dot

/-- The bin with an item, unless it is there. -/
def add (b : Bin) (item : Item) : Bin :=
  let key := key item
  if b.seen.contains key then b
  else { b with items := b.items.push item, seen := b.seen.insert key }

/-- The symbol that comes next in an item. -/
def nextSymbol (item : Item) : Option GrammarSymbol :=
  (g.productions[item.production]?).bind (·.right[item.dot]?)

/-- The nonterminal of an item. -/
def leftOf (item : Item) : Nat := (g.productions[item.production]?).elim 0 (·.left)

/-- The item after a complete one has been read in the place of its nonterminal. -/
def join (item complete : Item) (position : Nat) : Item :=
  let parent := { item with dot := item.dot + 1 }
  match (g.visibility[leftOf g complete]?).getD .hidden with
  | .node kind =>
    { parent with
      parts := .node kind complete.parts.reverse :: item.parts
      marks := position :: item.marks }
  | .hidden =>
    { parent with parts := complete.parts ++ item.parts, marks := position :: item.marks }
  | .spliced =>
    { parent with parts := complete.parts ++ item.parts, marks := complete.marks ++ item.marks }

/-- Works on one item at the given place: adds the items that follow from it. -/
def work (bins : Array Bin) (position : Nat) (b : Bin) (item : Item) : Bin :=
  match nextSymbol g item with
  | none =>
    if item.origin == position then b
    else
      let parents := ((bins[item.origin]?).bind (·.waiting[leftOf g item]?)).getD []
      parents.foldl (fun b parent => b.add (join g parent item position)) b
  | some (.terminal t) => { b with scanning := (t, item) :: b.scanning }
  | some (.nonterminal n) =>
    let waiters := (b.waiting[n]?).getD []
    let b := { b with waiting := b.waiting.setIfInBounds n (item :: waiters) }
    let b := if waiters.isEmpty then
        ((g.productionsOf[n]?).getD []).foldl (fun b p => b.add ⟨p, 0, position, [], []⟩) b
      else b
    if (g.nullable[n]?).getD false then b.add { item with dot := item.dot + 1 } else b

/-- Works on the items from number `index` on, in order, until there are no more. -/
def close (bins : Array Bin) (position : Nat) (b : Bin) (index : Nat) : Nat → Bin
  | 0 => b
  | fuel + 1 =>
    match b.items[index]? with
    | none => b
    | some item => close bins position (work g bins position b item) (index + 1) fuel

/-- More than the number of items that there can be at a place. -/
def fuel (position : Nat) : Nat := g.productions.size * 64 * (position + 1)

/-- The bin at a place that begins with some items. -/
def ofItems (bins : Array Bin) (items : List Item) : Bin :=
  close g bins bins.size (items.foldl add (empty g)) 0 (fuel g bins.size)

/-- The bin at the start of a source. -/
def first : Bin :=
  ofItems g #[] (((g.productionsOf[g.start]?).getD []).map fun p => ⟨p, 0, 0, [], []⟩)

/-- Whether a token is one of a class. -/
def isOfClass (token : Token) (t : Terminal) : Bool :=
  match t.text with
  | some text =>
    token.text == text && (token.kind == .word || token.kind == .symbol) &&
      (!t.glued || token.glued)
  | none => token.kind == t.token

/-- The items that a token comes next in, with the kinds of node that it becomes. A word is a
keyword where it can be one. -/
def matching (b : Bin) (token : Token) : List (String × Item) :=
  let found := b.scanning.filterMap fun (t, item) =>
    (g.terminals[t]?).bind fun t => if isOfClass token t then some (t, item) else none
  let keywords := found.filter (·.1.text.isSome)
  (if keywords.isEmpty then found else keywords).map fun (t, item) => (t.node, item)

/-- Whether a token may come next. -/
def accepts (b : Bin) (token : Token) : Bool := !(matching g b token).isEmpty

/-- The item after a token that became a leaf. -/
def shift (item : Item) (leaf : Tree) (position : Nat) : Item :=
  { item with dot := item.dot + 1, parts := leaf :: item.parts, marks := position :: item.marks }

/-- The bin after the token with the given number, before which a span of tokens may have been
skipped. The bins before it are given, the last of which is the present one. -/
def next? (bins : Array Bin) (token : Token) (index : Nat) (skipped : Option (Nat × Nat)) :
    Option Bin :=
  (bins.back?).bind fun b =>
    match matching g b token with
    | [] => none
    | found =>
      some (ofItems g bins (found.map fun (kind, item) =>
        shift item (.token kind index skipped) bins.size))

/-- The derivation of the whole source read, if it is complete. -/
def accepted? (b : Bin) : Option (List Tree) :=
  (b.items.find? fun item =>
    item.origin == 0 && leftOf g item == g.start && (nextSymbol g item).isNone).map
      (·.parts.reverse)

end Bin

end UnitForge.Java

import UnitForge.Java.Token

set_option autoImplicit false

/-!
# Grammars

A grammar is given by rules whose right sides are patterns, and compiled to productions without
alternatives, options or repetitions.

## Main definitions

* `UnitForge.Java.Pattern`: the right side of a rule.
* `UnitForge.Java.Grammar`: terminals, nonterminals and productions.
* `UnitForge.Java.Grammar.compile`: the grammar of some rules.

## Implementation notes

An alternative or an option inside a pattern becomes a nonterminal of its own, which leaves no trace
in a syntax tree; so does a repetition, by a left-recursive nonterminal. A rule whose name begins
with an underscore leaves no trace either.
-/

namespace UnitForge.Java

/-- A class of tokens, and the kind of node that such a token becomes. -/
structure Terminal where
  /-- The kind of token. -/
  token : TokenKind
  /-- The characters of the token, if only one text will do. -/
  text : Option Text
  /-- Whether the token must follow the one before it without a gap. -/
  glued : Bool
  /-- The kind of node. -/
  node : String
  deriving DecidableEq

/-- The right side of a rule. -/
inductive Pattern where
  /-- A token of a class. -/
  | terminal (t : Terminal)
  /-- What another rule says. -/
  | rule (name : String)
  /-- One thing after the other. -/
  | seq (items : List Pattern)
  /-- One of several things. -/
  | alt (choices : List Pattern)
  /-- Something or nothing. -/
  | opt (item : Pattern)
  /-- Something any number of times. -/
  | many (item : Pattern)

/-- A symbol of a production. -/
inductive GrammarSymbol where
  /-- A token of the class with that number. -/
  | terminal (index : Nat)
  /-- The nonterminal with that number. -/
  | nonterminal (index : Nat)
  deriving DecidableEq, Inhabited

/-- How a nonterminal shows in a syntax tree. -/
inductive Visibility where
  /-- As a node of that kind. -/
  | node (kind : String)
  /-- By its children only. -/
  | hidden
  /-- By its children only; it stands for symbols in the middle of a production. -/
  | spliced
  deriving DecidableEq, Inhabited

/-- A production. -/
structure Production where
  /-- The nonterminal on the left. -/
  left : Nat
  /-- The symbols on the right. -/
  right : Array GrammarSymbol
  deriving Inhabited

/-- A compiled grammar. -/
structure Grammar where
  /-- The classes of tokens. -/
  terminals : Array Terminal
  /-- How each nonterminal shows. -/
  visibility : Array Visibility
  /-- The productions. -/
  productions : Array Production
  /-- The productions of each nonterminal, by number. -/
  productionsOf : Array (List Nat)
  /-- Whether each nonterminal may stand for nothing. -/
  nullable : Array Bool
  /-- The nonterminal of a whole source. -/
  start : Nat

namespace Grammar

/-- A grammar in the making. -/
structure Builder where
  /-- The names of the rules, whose numbers are those of their nonterminals. -/
  names : List String
  /-- The classes of tokens so far. -/
  terminals : Array Terminal := #[]
  /-- How each nonterminal shows. -/
  visibility : Array Visibility
  /-- The productions so far. -/
  productions : Array Production := #[]

namespace Builder

/-- The number of a class of tokens. -/
def terminal (b : Builder) (t : Terminal) : GrammarSymbol × Builder :=
  match b.terminals.idxOf? t with
  | some i => (.terminal i, b)
  | none => (.terminal b.terminals.size, { b with terminals := b.terminals.push t })

/-- A new nonterminal. -/
def fresh (b : Builder) (v : Visibility) : Nat × Builder :=
  (b.visibility.size, { b with visibility := b.visibility.push v })

/-- The grammar with one production more. -/
def produce (b : Builder) (left : Nat) (right : List GrammarSymbol) : Builder :=
  { b with productions := b.productions.push ⟨left, right.toArray⟩ }

mutual

/-- The symbols that stand for a pattern. -/
def symbols (b : Builder) : Pattern → List GrammarSymbol × Builder
  | .terminal t =>
    let (s, b) := b.terminal t
    ([s], b)
  | .rule name => ([.nonterminal (b.names.idxOf name)], b)
  | .seq items => b.symbolsOf items
  | .alt choices =>
    let (n, b) := b.fresh .spliced
    ([.nonterminal n], b.alternatives n choices)
  | .opt item =>
    let (n, b) := b.fresh .spliced
    let (right, b) := b.symbols item
    ([.nonterminal n], (b.produce n []).produce n right)
  | .many item =>
    let (n, b) := b.fresh .hidden
    let (right, b) := b.symbols item
    ([.nonterminal n], (b.produce n []).produce n (.nonterminal n :: right))

/-- The symbols that stand for one pattern after the other. -/
def symbolsOf (b : Builder) : List Pattern → List GrammarSymbol × Builder
  | [] => ([], b)
  | item :: items =>
    let (first, b) := b.symbols item
    let (rest, b) := b.symbolsOf items
    (first ++ rest, b)

/-- The grammar with a production for each choice. -/
def alternatives (b : Builder) (left : Nat) : List Pattern → Builder
  | [] => b
  | choice :: choices =>
    let (right, b) := b.symbols choice
    alternatives (b.produce left right) left choices

end

/-- The grammar with the productions of a rule. -/
def addRule (b : Builder) (name : String) (p : Pattern) : Builder :=
  let left := b.names.idxOf name
  match p with
  | .alt choices => b.alternatives left choices
  | p => b.alternatives left [p]

end Builder

/-- The nonterminals that may stand for nothing, given some of which it is known. -/
def nullableStep (productions : Array Production) (known : Array Bool) : Array Bool :=
  productions.foldl
    (fun known p =>
      let empty := p.right.all fun
        | .terminal _ => false
        | .nonterminal n => known.getD n false
      if empty then known.setIfInBounds p.left true else known)
    known

/-- Whether a name leaves no trace in a syntax tree. -/
def isHiddenName (name : String) : Bool := name.startsWith "_"

/-- The grammar of some rules, of which the first is for a whole source. -/
def compile (rules : List (String × Pattern)) : Grammar :=
  let names := rules.map (·.1)
  let visibility := names.map fun name => if isHiddenName name then .hidden else .node name
  let b := rules.foldl (fun (b : Builder) (name, p) => b.addRule name p)
    { names, visibility := visibility.toArray }
  let count := b.visibility.size
  let productionsOf := (List.range b.productions.size).foldr
    (fun i (table : Array (List Nat)) =>
      let left := (b.productions[i]?).elim 0 (·.left)
      table.modify left (i :: ·))
    (Array.replicate count [])
  let nullable := (List.range count).foldl (fun known _ => nullableStep b.productions known)
    (Array.replicate count false)
  { terminals := b.terminals, visibility := b.visibility, productions := b.productions,
    productionsOf, nullable, start := 0 }

end Grammar

end UnitForge.Java

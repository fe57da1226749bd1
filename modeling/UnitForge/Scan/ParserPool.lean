import UnitForge.Keyed
import UnitForge.Notice

set_option autoImplicit false

/-!
# Parsers by language

A parser is made when the first file of its language is met, and kept for all later ones. A parser
that could not be made is tried again.

## Main definitions

* `UnitForge.Scan.ParserPool`: the parsers made so far, by language.
* `UnitForge.Scan.ParserPool.request`: the parser for a language.
-/

namespace UnitForge.Scan

/-- The parsers made so far, by language. A parser is known by the number of those made before
it. -/
structure ParserPool where
  /-- The parsers by language, in order of their making. -/
  parsers : Keyed Nat := []
  deriving DecidableEq, Repr

namespace ParserPool

/-- The parser for a language, and the pool after the request. A parser that is not in the pool is
made, unless there is a reason why it cannot be. -/
def request (pool : ParserPool) (language : Text) (unavailable : Option Text) :
    Option Nat × ParserPool :=
  match Keyed.get? pool.parsers language with
  | some parser => (some parser, pool)
  | none =>
    match unavailable with
    | some _ => (none, pool)
    | none =>
      let parser := pool.parsers.length
      (some parser, ⟨Keyed.put language parser pool.parsers⟩)

/-- What a request reports. -/
def requestNotices (pool : ParserPool) (language : Text) (unavailable : Option Text) :
    List Notice :=
  match pool.request language unavailable, unavailable with
  | (none, _), some reason => [.parserUnavailable language reason]
  | _, _ => []

end ParserPool

end UnitForge.Scan

/-
**Styled parts of a text.**

* `Span` — a part of a text with the words that describe its style.
* `Marked` — a text with its styled parts.
* `Marked.check` — **a check of the styles that are seen.** The words are read only here; a number
  that cannot be read is a fault, other words without a meaning are not.
-/

import LetShadow.Report.Style

namespace LetShadow.Report

/-- A part of a text, from its first character up to the one after its last, and the words that
describe its style. -/
structure Span where
  start : Nat
  stop : Nat
  words : List Char
deriving DecidableEq, Repr

/-- A text with styled parts. -/
structure Marked where
  text : List Char
  spans : List Span
deriving DecidableEq, Repr

/-- The characters of a text in a part of it. -/
def Span.of (span : Span) (text : List Char) : List Char :=
  (text.drop span.start).take (span.stop - span.start)

/-- Is the text cut before it is drawn? It is cut at line feeds and at tabs. -/
def isCut (text : List Char) : Bool :=
  text.contains '\n' || text.contains '\t'

/-- Is the style of a part needed? Where a text is cut, parts that hold nothing but line feeds are
lost; else even an empty part is kept. -/
def Span.isDrawn (span : Span) (text : List Char) : Bool :=
  !isCut text || (span.of text).any (· ≠ '\n')

/-- Checks the styles that are needed. -/
def Marked.check (marked : Marked) : Except NumberFault Unit :=
  (marked.spans.filter (·.isDrawn marked.text)).forM fun span => checkStyle span.words

end LetShadow.Report

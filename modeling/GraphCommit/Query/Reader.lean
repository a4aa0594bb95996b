import GraphCommit.Query.Pattern
import GraphCommit.Turtle.Triples

/-!
# Reading patterns

A group in braces holds triples and patterns, which are joined in order.  Keywords are written in
any case.
-/

namespace GraphCommit.Query

open Turtle
open Turtle.Reader

/-- The place that a node of the notation stands for. -/
def Slot.ofNode : Node → Slot
  | .term (.blank n) => .unknown (.anonymous n)
  | .term t => .term t
  | .unknown name => .unknown (.named name)

def TriplePattern.of (p : Turtle.Pattern) : TriplePattern :=
  ⟨.ofNode p.subject, .ofNode p.predicate, .ofNode p.object⟩

/-- Whether a token can begin triples. -/
def beginsTriples : Token → Bool
  | .mark c => c == '[' || c == '('
  | .word w => w == "true" || w == "false"
  | .at_ _ | .carets => false
  | _ => true

def atTriples : Reader Bool := return (← peek).any beginsTriples

/-- Reads triples with dots between them; the last dot may be left out. -/
def tripleRow : Nat → Reader Unit
  | 0 => refuse
  | n + 1 => do
    triples true
    if ← accept (.mark '.') then
      if ← atTriples then tripleRow n
    else if ← atTriples then refuse

/-- The triples that a reader emits. -/
def collect (reader : Reader Unit) : Reader (List Turtle.Pattern) := do
  let before := (← get).triples
  modify fun r => { r with triples := [] }
  reader
  let read := (← get).triples.reverse
  modify fun r => { r with triples := before }
  return read

/-- Triples, if the next token can begin them. -/
def someTriples : Reader (List Turtle.Pattern) := do
  if ← atTriples then collect (tripleRow (← get).tokens.length) else return []

/-- A variable or an IRI. -/
def variableOrIri : Reader Slot := do
  match ← next with
  | .unknown name => return .unknown (.named name)
  | t => return .term (.iri (← iriOf t))

def joined (l r : Pattern) : Pattern := if l = .nothing then r else .join l r

mutual

/-- A group in braces. -/
def group : Nat → Reader Pattern
  | 0 => refuse
  | n + 1 => do
    expect (.mark '\x7b')
    let ts ← someTriples
    members (.triples (ts.map .of)) n

/-- The rest of a group behind a pattern, up to its closing brace. -/
def members (before : Pattern) : Nat → Reader Pattern
  | 0 => refuse
  | n + 1 => do
    if ← accept (.mark '\x7d') then return before
    let pattern ← member before n
    let _ ← accept (.mark '.')
    let ts ← someTriples
    members (if ts.isEmpty then pattern else joined pattern (.triples (ts.map .of))) n

/-- A pattern of a group that is no triples, put behind the pattern before it. -/
def member (before : Pattern) : Nat → Reader Pattern
  | 0 => refuse
  | n + 1 => do
    if (← peek) = some (.mark '\x7b') then return joined before (← alternatives n)
    else if ← acceptKeyword "OPTIONAL" then return .optional before (← group n)
    else if ← acceptKeyword "GRAPH" then
      let graph ← variableOrIri
      return joined before (.inGraph graph (← group n))
    else if ← acceptKeyword "SERVICE" then
      let silent ← acceptKeyword "SILENT"
      let _ ← variableOrIri
      let _ ← group n
      return joined before (.service silent)
    else refuse

/-- Groups with `UNION` between them. -/
def alternatives : Nat → Reader Pattern
  | 0 => refuse
  | n + 1 => do
    let first ← group n
    if ← acceptKeyword "UNION" then return .union first (← alternatives n) else return first

end

/-- A group, as deep as its tokens allow. -/
def wholeGroup : Reader Pattern := do group (← depth)

/-- The declarations before a query or a request. -/
def prologue : Nat → Reader Unit
  | 0 => pure ()
  | n + 1 => do
    if ← acceptKeyword "PREFIX" then
      readSpace
      prologue n
    else if ← acceptKeyword "BASE" then
      readBase
      prologue n

def wholePrologue : Reader Unit := do prologue (← get).tokens.length

/-- Runs a reader over a text, all of whose tokens it takes. -/
def readAll {α : Type} (reader : Reader α) (text : String) : Option α := do
  let tokens ← Token.all text
  let (a, r) ← reader { base := none, tokens }
  if r.tokens.isEmpty then some a else none

end GraphCommit.Query

import SchemaShift.Store.Error
import SchemaShift.Store.Token

/-!
# Reading statements

A reading takes tokens off the front of a statement. Where the statement stops making sense
the reading ends, and the fault is the token it did not expect.
-/

namespace SchemaShift.Store

abbrev Reading := StateT (List Token) (Except StoreError)

/-- Where a statement stops making sense: at the token at the front, or at its end. -/
def faultAt : List Token → StoreError
  | [] => .incomplete
  | t :: _ =>
    if t.kind = .broken then .unrecognized (String.ofList t.text)
    else .syntaxNear (String.ofList t.text)

namespace Reading

def stop {α : Type} : Reading α := fun ts => .error (faultAt ts)

def nextIs (words : List String) : Reading Bool
  | [] => .ok (false, [])
  | t :: ts => .ok (t.isAmong words, t :: ts)

def nextAre : List String → Reading Bool
  | [], ts => .ok (true, ts)
  | _ :: _, [] => .ok (false, [])
  | word :: words, t :: ts =>
    if t.isWord word then (nextAre words ts).map fun r => (r.1, t :: ts) else .ok (false, t :: ts)

def skip : Reading Unit := fun ts => .ok ((), ts.drop 1)

def remaining : Reading Nat := fun ts => .ok (ts.length, ts)

def take? (test : Token → Bool) : Reading (Option Token)
  | [] => .ok (none, [])
  | t :: ts => if test t then .ok (some t, ts) else .ok (none, t :: ts)

/-- Takes the token at the front, which has to pass the test. -/
def take (test : Token → Bool) : Reading Token
  | [] => .error (faultAt [])
  | t :: ts => if test t then .ok (t, ts) else .error (faultAt (t :: ts))

def accept (word : String) : Reading Bool := do
  return (← take? fun t => t.isWord word).isSome

def expect (word : String) : Reading Unit := do
  let _ ← take fun t => t.isWord word

/-- Takes one of some words, in upper case. -/
def oneOf? (words : List String) : Reading (Option String) := do
  match ← take? fun t => t.isAmong words with
  | some t => return some (String.ofList (t.text.map Char.toUpper))
  | none => return none

def oneOf (words : List String) : Reading String := do
  match ← oneOf? words with
  | some word => return word
  | none => stop

/-- Takes a name, which may stand in quotes. -/
def name : Reading Token :=
  take Token.isName

/-- One or more items between commas, at most `fuel` of them. -/
def commaList {α : Type} (item : Reading α) : Nat → Reading (List α)
  | 0 => stop
  | fuel + 1 => do
    let a ← item
    if ← accept "," then return a :: (← commaList item fuel)
    else return [a]

/-- Also gives the tokens that were read. -/
def cited {α : Type} (r : Reading α) : Reading (α × List Token) := fun ts =>
  match r ts with
  | .ok (a, rest) => .ok ((a, ts.take (ts.length - rest.length)), rest)
  | .error e => .error e

/-- Goes on behind the parenthesis that closes the innermost open one, where `depth` more are
open inside it. -/
def skipClosing : Nat → List Token → Except StoreError (Unit × List Token)
  | _, [] => .error .incomplete
  | depth, t :: ts =>
    if t.kind = .broken then .error (faultAt (t :: ts))
    else if t.isWord "(" then skipClosing (depth + 1) ts
    else if t.isWord ")" then
      match depth with
      | 0 => .ok ((), ts)
      | depth + 1 => skipClosing depth ts
    else skipClosing depth ts

def signedNumber : Reading Unit := do
  let _ ← oneOf? ["+", "-"]
  let _ ← take fun t => t.kind == .integer || t.kind == .real

/-- The words of a type, at most `fuel` of them. -/
def typeWords : Nat → Reading Nat
  | 0 => return 0
  | fuel + 1 => do
    match ← take? fun t => t.isPlainWord || t.kind == .literal with
    | some _ => return (← typeWords fuel) + 1
    | none => return 0

/-- A type, which may be missing: words, and up to two numbers in parentheses. -/
def type : Reading (List Token) := do
  let ((), ts) ← cited do
    let words ← typeWords (← remaining)
    if words ≠ 0 then
      if ← accept "(" then
        signedNumber
        if ← accept "," then signedNumber
        expect ")"
  return ts

end Reading

end SchemaShift.Store

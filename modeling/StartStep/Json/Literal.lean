import StartStep.Json.Fault
import StartStep.Text.Bytes
import StartStep.Text.Hexadecimal

/-!
# String literals

A string literal is met by two kinds of readers: one that wants its content,
and one that only passes over it to what follows. The second is more lenient:
it does not ask that the halves of an escaped surrogate pair stand together.
-/

namespace StartStep.Json

/-- A string literal without its opening quote. -/
structure Literal where
  /-- The content, or the first fault in it. -/
  content : Except Fault String
  /-- The fault that keeps a reader from passing over the literal. -/
  obstacle : Option Fault

/-- The outcome of passing over a literal. -/
def Literal.pass (l : Literal) : Except Fault Unit :=
  match l.obstacle with
  | none => .ok ()
  | some f => .error f

/-- What an escape of one letter stands for. -/
def shortEscape (c : Char) : Option Char :=
  match c with
  | '"' => some '"'
  | '\\' => some '\\'
  | '/' => some '/'
  | 'b' => some '\x08'
  | 'f' => some '\x0c'
  | 'n' => some '\n'
  | 'r' => some '\r'
  | 't' => some '\t'
  | _ => none

/-- Four hexadecimal digits and what follows them. A text of fewer than four
bytes has ended too early, whatever it holds. -/
def readHex (cs : List Char) : Except Fault (Nat × List Char) :=
  match cs with
  | a :: b :: c :: d :: rest =>
      match Text.hexNumber [a, b, c, d] with
      | some n => .ok (n, rest)
      | none => .error .malformed
  | cs => .error (if Text.byteLength cs < 4 then .truncated else .malformed)

/-- The second half of a surrogate pair, which has to follow the first. -/
def readLowSurrogate (high : Nat) (cs : List Char) : Except Fault (Char × List Char) :=
  match cs with
  | [] => .error .truncated
  | '\\' :: [] => .error .truncated
  | '\\' :: 'u' :: rest => do
      let (low, rest) ← readHex rest
      if 0xDC00 ≤ low && low ≤ 0xDFFF then
        .ok (Char.ofNat ((high - 0xD800) * 0x400 + (low - 0xDC00) + 0x10000), rest)
      else .error .malformed
  | _ => .error .malformed

/-- The character of an escape, its backslash being read. -/
def readEscape (cs : List Char) : Except Fault (Char × List Char) :=
  match cs with
  | [] => .error .truncated
  | 'u' :: rest => do
      let (n, rest) ← readHex rest
      if 0xDC00 ≤ n && n ≤ 0xDFFF then .error .malformed
      else if 0xD800 ≤ n && n ≤ 0xDBFF then readLowSurrogate n rest
      else .ok (Char.ofNat n, rest)
  | c :: rest =>
      match shortEscape c with
      | some c => .ok (c, rest)
      | none => .error .malformed

/-- What follows an escape, its backslash being read. -/
def skipEscape (cs : List Char) : Except Fault (List Char) :=
  match cs with
  | [] => .error .truncated
  | 'u' :: rest => (readHex rest).map (·.2)
  | c :: rest => if (shortEscape c).isSome then .ok rest else .error .malformed

/-- The content of a literal up to its closing quote. No step needs more than
one unit of fuel per character. -/
def literalContent : Nat → List Char → Except Fault (List Char)
  | 0, _ => .error .truncated
  | _ + 1, [] => .error .truncated
  | fuel + 1, c :: rest =>
      if c = '"' then .ok []
      else if c = '\\' then do
        let (c, rest) ← readEscape rest
        (c :: ·) <$> literalContent fuel rest
      else if c.toNat < 0x20 then .error .malformed
      else (c :: ·) <$> literalContent fuel rest

/-- What follows the closing quote of a literal. -/
def literalRest : Nat → List Char → Except Fault (List Char)
  | 0, _ => .error .truncated
  | _ + 1, [] => .error .truncated
  | fuel + 1, c :: rest =>
      if c = '"' then .ok rest
      else if c = '\\' then do literalRest fuel (← skipEscape rest)
      else if c.toNat < 0x20 then .error .malformed
      else literalRest fuel rest

/-- A literal whose opening quote is read, and what follows it. -/
def Literal.read (cs : List Char) : Literal × Option (List Char) :=
  let content := (literalContent (cs.length + 1) cs).map String.ofList
  match literalRest (cs.length + 1) cs with
  | .ok rest => (⟨content, none⟩, some rest)
  | .error f => (⟨content, some f⟩, none)

end StartStep.Json

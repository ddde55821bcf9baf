import MariadbConnector.Parser.Parse

/-! The parser's loop over lists: the bytes before `a`, already rewritten, and the input bytes
from `a` to `end`. Each definition here mirrors the one of `Parse` it is named after, with
`memmove` replaced by dropping the placeholder's bytes. -/
namespace MariadbConnector

open CString

/-- The loop state as two lists: `out` is the buffer before `a`, `rest` the bytes from `a` to
`end`. Past `end` the buffer reads `0`. -/
structure Scan where
  p : MrdbParser
  out : List UInt8
  rest : List UInt8
  lastchar : UInt8

/-- `check_keyword` at the head of `rest`, with `end - ofs = rest.length - 1`. -/
def keywordAt (rest keyword : List UInt8) : Bool :=
  if rest ≠ [] ∧ rest.length - 1 < keyword.length + 1 then false
  else
    (List.range keyword.length).all (fun i => toupper (rest.getD i 0) == keyword.getD i 0) &&
      isWhitespace (rest.getD keyword.length 0)

namespace Scan

/-- The byte `k` places after `a`. -/
def ch (t : Scan) (k : Nat) : UInt8 := t.rest.getD k 0

/-- `a += n`: the next `n` input bytes move to the processed prefix unchanged. -/
def advance (t : Scan) (n : Nat) : Scan :=
  { t with out := t.out ++ t.rest.take n, rest := t.rest.drop n }

def openComment (t : Scan) : Scan := { t with p.inComment := true }

def readVersion (t : Scan) (k : Nat) : Nat × Scan :=
  let r := strtol (t.rest.drop k)
  ((r.1 % 2 ^ 64).toNat, t.advance (k + r.2))

def mariadbComment (t : Scan) : Scan :=
  if 3 < t.rest.length ∧ t.ch 0 = 77 ∧ t.ch 1 = 33 then
    let t := t.advance 2
    if isspace (t.ch 0) then t
    else if 7 < t.rest.length ∧ isdigit (t.ch 0) then
      let r := t.readVersion 0
      if ¬ r.1 ≤ r.2.p.serverVersion then r.2.openComment else r.2
    else t.openComment
  else t.openComment

def blockComment (t : Scan) : Scan :=
  if 2 < t.rest.length ∧ t.ch 0 = 33 then
    if isspace (t.ch 1) then t.advance 2
    else if 8 < t.rest.length ∧ isdigit (t.ch 1) then
      let r := t.readVersion 1
      if (50700 ≤ r.1 ∧ r.1 ≤ 99999) ∨ ¬ r.1 ≤ r.2.p.serverVersion then r.2.openComment else r.2
    else mariadbComment t
  else mariadbComment t

def lineComment (t : Scan) : Scan :=
  let t := if t.ch 0 = 35 then { t.advance 1 with p.commentEol := true } else t
  if t.ch 0 = 45 ∧ t.ch 1 = 45 ∧ 3 < t.rest.length ∧ t.ch 2 = 32 then
    { t.advance 3 with p.commentEol := true }
  else t

/-- A placeholder of `width` bytes becomes the single byte `?`. -/
def replace (t : Scan) (style : Paramstyle) (width : Nat) : Scan :=
  { t with
    p.paramstyle := style
    p.paramCount := t.p.paramCount + 1
    p.paramList := t.p.paramList ++ [t.out.length]
    out := t.out ++ [63]
    rest := t.rest.drop width }

def formatPlaceholder (t : Scan) : Scan := t.replace .format 2

/-- `%(key)s` whose `)` is `j + 1` bytes after the `%`. -/
def pyformatPlaceholder (t : Scan) (j : Nat) : Scan :=
  { t.replace .pyformat (j + 3) with p.keys := t.p.keys ++ [(t.rest.drop 2).take (j - 1)] }

def bottom (t : Scan) : Scan := { t.advance 1 with lastchar := t.ch 0 }

def detectCommand (t : Scan) : Scan :=
  if t.p.command = .sqlNone then
    match binaryCommands.find? (fun c => keywordAt t.rest c.2) with
    | some c => { t with p.command := c.1 }
    | none => { t with p.command := .sqlOther }
  else t

def batchKeywords (t : Scan) : Next Scan :=
  let t :=
    if !t.p.isInsert && keywordAt t.rest insertKeyword &&
        (t.lastchar == 0 || isWhitespace t.lastchar || t.lastchar == 47) then
      { t.advance 7 with p.isInsert := true }
    else t
  if t.p.isInsert && keywordAt t.rest valuesKeyword then
    .next { t.advance 7 with p.valueOfs := some (t.out.length + 7) }
  else .next t.bottom

def afterComments (isBatch : Bool) (t : Scan) : Next Scan :=
  if t.p.commentEol then
    if t.ch 0 = 0 ∨ t.ch 0 = 10 then .next { t.advance 1 with p.commentEol := false }
    else .next (t.advance 1)
  else if t.ch 0 = 63 then
    if t.p.paramstyle.clashes .qmark then .fail mixingError
    else .next { t.advance 1 with
      p.paramstyle := .qmark
      p.paramCount := t.p.paramCount + 1
      p.paramList := t.p.paramList ++ [t.out.length] }
  else
    let keywords : Next Scan :=
      if isBatch then t.batchKeywords else .next t.detectCommand.bottom
    if t.ch 0 = 37 ∧ t.lastchar ≠ 92 then
      if t.ch 1 = 115 ∨ t.ch 1 = 100 then
        if t.p.paramstyle.clashes .format then .fail mixingError
        else .next t.formatPlaceholder
      else if t.ch 1 = 40 then
        match strstr [41, 115] (t.rest.drop 1) with
        | some j =>
          if t.p.paramstyle.clashes .pyformat then .fail mixingError
          else .next (t.pyformatPlaceholder j)
        | none => keywords
      else keywords
    else keywords

def body (isBatch : Bool) (t : Scan) : Next Scan :=
  match literalIndex (t.ch 0) with
  | some i =>
    .cont { t.advance 1 with
      p.inLiteral := Function.update t.p.inLiteral i (!t.p.inLiteral i) }
  | none =>
    if t.p.inAnyLiteral then .next (t.advance 1)
    else if t.p.inComment then
      if t.ch 0 = 42 ∧ t.ch 1 = 47 then .next { t.advance 2 with p.inComment := false }
      else .next (t.advance 1)
    else if t.ch 0 = 47 ∧ t.ch 1 = 42 then .next (t.advance 2).blockComment
    else afterComments isBatch t.lineComment

end Scan

/-- The loop over lists: it runs while input remains, or after `goto cont`. -/
def scanLoop (isBatch : Bool) : Nat → Next Scan → Option (Except String Scan)
  | _, .fail msg => some (.error msg)
  | 0, _ => none
  | n + 1, .next t => if t.rest ≠ [] then scanLoop isBatch n (t.body isBatch) else some (.ok t)
  | n + 1, .cont t => scanLoop isBatch n (t.body isBatch)

/-- The scan of a whole statement from a fresh parser. -/
def MrdbParser.scan (isBatch : Bool) (p : MrdbParser) (input : List UInt8) :
    Option (Except String Scan) :=
  scanLoop isBatch (input.length + 3) (.next { p, out := [], rest := input, lastchar := 0 })

end MariadbConnector

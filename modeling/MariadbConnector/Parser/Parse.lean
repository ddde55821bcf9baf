import MariadbConnector.Parser.Basic

/-! `MrdbParser_parse` as the source runs it: one pass of the loop body over the in-place
buffer, the loop with its `goto cont`, and the final length update. -/
namespace MariadbConnector

open CString

namespace ParseState

/-- `*(a + k)`. -/
def ch (s : ParseState) (k : Nat) : UInt8 := peek s.buf (s.a + k)

/-- `a += n`. -/
def advance (s : ParseState) (n : Nat) : ParseState := { s with a := s.a + n }

/-- `p->in_comment= 1`. -/
def openComment (s : ParseState) : ParseState := { s with p.inComment := true }

/-- `strtol` at `*(a + k)` turned into the `unsigned long version_number`, with `a` moved to
the end pointer `strtol` reports. -/
def readVersion (s : ParseState) (k : Nat) : Nat × ParseState :=
  let r := strtol (s.buf.drop (s.a + k))
  ((r.1 % 2 ^ 64).toNat, s.advance (k + r.2))

/-- The `/*M!` forms, reached with `a` just past `/*`; anything else opens a comment. -/
def mariadbComment (s : ParseState) : ParseState :=
  if s.a + 2 < s.endp ∧ s.ch 0 = 77 ∧ s.ch 1 = 33 then -- 'M' '!'
    let s := s.advance 2
    if isspace (s.ch 0) then s
    else if s.a + 6 < s.endp ∧ isdigit (s.ch 0) then
      let r := s.readVersion 0
      if ¬ r.1 ≤ r.2.p.serverVersion then r.2.openComment else r.2
    else s.openComment
  else s.openComment

/-- Style 1, reached with `a` just past `/*`: the executable forms `/*! ` and `/*!NNNNN`, else
the `/*M!` forms. -/
def blockComment (s : ParseState) : ParseState :=
  if s.a + 1 < s.endp ∧ s.ch 0 = 33 then -- '!'
    if isspace (s.ch 1) then s.advance 2
    else if s.a + 7 < s.endp ∧ isdigit (s.ch 1) then
      let r := s.readVersion 1
      if (50700 ≤ r.1 ∧ r.1 ≤ 99999) ∨ ¬ r.1 ≤ r.2.p.serverVersion then r.2.openComment else r.2
    else mariadbComment s
  else mariadbComment s

/-- Styles 2 (`#`) and 3 (`-- `): both only set `comment_eol`, and the `-- ` test runs on the
byte after a `#`. -/
def lineComment (s : ParseState) : ParseState :=
  let s := if s.ch 0 = 35 then { s.advance 1 with p.commentEol := true } else s -- '#'
  if s.ch 0 = 45 ∧ s.ch 1 = 45 ∧ s.a + 2 < s.endp ∧ s.ch 2 = 32 then -- '-' '-' ' '
    { s.advance 3 with p.commentEol := true }
  else s

/-- `*a = '?'` and the bookkeeping shared by the three placeholder styles. -/
def record (s : ParseState) (style : Paramstyle) : ParseState :=
  { s with
    p.paramstyle := style
    p.paramCount := s.p.paramCount + 1
    p.paramList := s.p.paramList ++ [s.a]
    buf := s.buf.set s.a 63 } -- '?'

/-- `%s` or `%d`: the byte after the `?` is dropped by `memmove(a+1, a+2, end - a)`. -/
def formatPlaceholder (s : ParseState) : ParseState :=
  let s := s.record .format
  { s with
    buf := memmove s.buf (s.a + 1) (s.a + 2) (s.endp - s.a)
    endp := s.endp - 1
    a := s.a + 1 }

/-- `%(key)s` with `val_end` at the `)`: the key is copied out, then the tail moves down over
`(key)s` with `memmove(a+1, val_end+2, end - a - keylen + 1)`. -/
def pyformatPlaceholder (s : ParseState) (valEnd : Nat) : ParseState :=
  let keylen := valEnd - s.a + 1
  let key := (s.buf.drop (s.a + 2)).take (keylen - 3)
  let s := s.record .pyformat
  { s with
    p.keys := s.p.keys ++ [key]
    buf := memmove s.buf (s.a + 1) (valEnd + 2) (s.endp - s.a - keylen + 1)
    a := s.a + 1
    endp := s.endp - keylen }

/-- `lastchar= *a; a++;` at the bottom of the loop. -/
def bottom (s : ParseState) : ParseState := { s.advance 1 with lastchar := s.ch 0 }

/-- The first keyword of `binary_command[]` at `a`, or `SQL_OTHER`, while `command` is unset. -/
def detectCommand (s : ParseState) : ParseState :=
  if s.p.command = .sqlNone then
    match binaryCommands.find? (fun c => checkKeyword s.buf s.a s.endp c.2) with
    | some c => { s with p.command := c.1 }
    | none => { s with p.command := .sqlOther }
  else s

/-- The `is_batch` block: `INSERT` after a separator, then the offset of `VALUES`. -/
def batchKeywords (s : ParseState) : Next ParseState :=
  let s :=
    if !s.p.isInsert && checkKeyword s.buf s.a s.endp insertKeyword &&
        (s.lastchar == 0 || isWhitespace s.lastchar || s.lastchar == 47) then -- '/'
      { s.advance 7 with p.isInsert := true }
    else s
  if s.p.isInsert && checkKeyword s.buf s.a s.endp valuesKeyword then
    .next { s.advance 7 with p.valueOfs := some (s.a + 7) }
  else .next s.bottom

/-- The tail of the body after the comment tests: end-of-line comments, the three
placeholder styles, then the keyword blocks. -/
def afterComments (isBatch : Bool) (s : ParseState) : Next ParseState :=
  if s.p.commentEol then
    if s.ch 0 = 0 ∨ s.ch 0 = 10 then .next { s.advance 1 with p.commentEol := false }
    else .next (s.advance 1)
  else if s.ch 0 = 63 then -- '?'
    if s.p.paramstyle.clashes .qmark then .fail mixingError
    else .next { s.advance 1 with
      p.paramstyle := .qmark
      p.paramCount := s.p.paramCount + 1
      p.paramList := s.p.paramList ++ [s.a] }
  else
    let keywords : Next ParseState :=
      if isBatch then s.batchKeywords else .next s.detectCommand.bottom
    if s.ch 0 = 37 ∧ s.lastchar ≠ 92 then -- '%', '\\'
      if s.ch 1 = 115 ∨ s.ch 1 = 100 then -- 's' 'd'
        if s.p.paramstyle.clashes .format then .fail mixingError
        else .next s.formatPlaceholder
      else if s.ch 1 = 40 then -- '('
        match strstr [41, 115] (s.buf.drop (s.a + 1)) with -- ")s"
        | some j =>
          if s.p.paramstyle.clashes .pyformat then .fail mixingError
          else .next (s.pyformatPlaceholder (s.a + 1 + j))
        | none => keywords
      else keywords
    else keywords

/-- One pass of the loop body of `MrdbParser_parse`, entered at `cont:`. -/
def body (isBatch : Bool) (s : ParseState) : Next ParseState :=
  match literalIndex (s.ch 0) with
  | some i =>
    .cont { s.advance 1 with
      p.inLiteral := Function.update s.p.inLiteral i (!s.p.inLiteral i) }
  | none =>
    if s.p.inAnyLiteral then .next (s.advance 1)
    else if s.p.inComment then
      if s.ch 0 = 42 ∧ s.ch 1 = 47 then .next { s.advance 2 with p.inComment := false } -- '*/'
      else .next (s.advance 1)
    else if s.ch 0 = 47 ∧ s.ch 1 = 42 then .next (s.advance 2).blockComment -- '/*'
    else afterComments isBatch s.lineComment

end ParseState

/-- `while (a <= end)` around the body, where `goto cont` re-enters the body without the test.
The fuel bounds the passes; `none` means it ran out. -/
def parseLoop (isBatch : Bool) : Nat → Next ParseState → Option (Except String ParseState)
  | _, .fail msg => some (.error msg)
  | 0, _ => none
  | n + 1, .next s => if s.a ≤ s.endp then parseLoop isBatch n (s.body isBatch) else some (.ok s)
  | n + 1, .cont s => parseLoop isBatch n (s.body isBatch)

/-- `MrdbParser_parse(p, is_batch, ...)`: the error text, or the parser with its buffer
rewritten and `statement.length= end - p->statement.str + 1`. -/
def MrdbParser.parse (isBatch : Bool) (p : MrdbParser) : Option (Except String MrdbParser) :=
  if p.statement = [] ∨ p.length = 0 then some (.error "Invalid (empty) statement")
  else
    (parseLoop isBatch (p.statement.length + 2)
        (.next { p, buf := p.statement, a := 0, endp := p.length - 1, lastchar := 0 })).map
      fun r => r.map fun s => { s.p with statement := s.buf, length := s.endp + 1 }

/-- The literal test runs before the comment test, so the quote inside `/* ' */` opens a
literal and the `?` after the comment is not recorded; with a space in its place it is. -/
theorem parse_quote_in_comment :
    -- SELECT /* ' */ ?
    ((MrdbParser.init 100000 [83, 69, 76, 69, 67, 84, 32, 47, 42, 32, 39, 32, 42, 47, 32, 63]).bind
        (·.parse false)).map (·.map (·.paramList)) = some (.ok []) ∧
    -- SELECT /*   */ ?
    ((MrdbParser.init 100000 [83, 69, 76, 69, 67, 84, 32, 47, 42, 32, 32, 32, 42, 47, 32, 63]).bind
        (·.parse false)).map (·.map (·.paramList)) = some (.ok [15]) :=
  ⟨rfl, rfl⟩

end MariadbConnector

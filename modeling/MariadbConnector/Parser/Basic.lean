import MariadbConnector.Lib.CString

/-! The statement parser's data (`mariadb_parser.c`, `mariadb_python.h`): parameter styles,
binary commands, the parser record, the loop's locals and the keyword test. -/
namespace MariadbConnector

open CString

/-- `enum enum_paramstyle`. -/
inductive Paramstyle
  | none
  | qmark
  | format
  | pyformat
  deriving DecidableEq, Repr

/-- `enum enum_binary_command`. -/
inductive BinaryCommand
  | sqlNone
  | sqlInsert
  | sqlUpdate
  | sqlReplace
  | sqlDelete
  | sqlCall
  | sqlDo
  | sqlSelect
  | sqlOther
  deriving DecidableEq, Repr

/-- `MrdbParser`. The buffer `statement.str` holds `length` bytes and the NUL that
`MrdbParser_init` allocates after them. -/
structure MrdbParser where
  statement : List UInt8
  length : Nat
  keys : List (List UInt8)
  inLiteral : Fin 3 → Bool
  inComment : Bool
  isInsert : Bool
  commentEol : Bool
  paramCount : Nat
  valueOfs : Option Nat
  paramList : List Nat
  paramstyle : Paramstyle
  command : BinaryCommand
  /-- `mysql_get_server_version(p->mysql)`. -/
  serverVersion : Nat

/-- `MrdbParser_init`: no parser for an empty statement; otherwise a zeroed record over a
copy of the statement followed by a NUL. -/
def MrdbParser.init (serverVersion : Nat) (statement : List UInt8) : Option MrdbParser :=
  if statement = [] then none
  else some
    { statement := statement ++ [0], length := statement.length, keys := [],
      inLiteral := fun _ => false, inComment := false, isInsert := false,
      commentEol := false, paramCount := 0, valueOfs := none, paramList := [],
      paramstyle := .none, command := .sqlNone, serverVersion }

/-- `literals[3]`: single quote, double quote, backtick. -/
def literals : Fin 3 → UInt8 := ![39, 34, 96]

/-- The first `i` with `c == literals[i]`, as the literal loop of `MrdbParser_parse` finds it. -/
def literalIndex (c : UInt8) : Option (Fin 3) :=
  if c = literals 0 then some 0
  else if c = literals 1 then some 1
  else if c = literals 2 then some 2
  else none

/-- `IN_LITERAL(p)`. -/
def MrdbParser.inAnyLiteral (p : MrdbParser) : Bool :=
  p.inLiteral 0 || p.inLiteral 1 || p.inLiteral 2

/-- `IS_WHITESPACE(a)`: space, tab, newline and carriage return only. -/
def isWhitespace (c : UInt8) : Bool := c == 32 || c == 9 || c == 10 || c == 13

/-- The table `binary_command[]`, in its order, without the `SQL_NONE` sentinel. -/
def binaryCommands : List (BinaryCommand × List UInt8) :=
  [(.sqlInsert, [73, 78, 83, 69, 82, 84]), -- INSERT
    (.sqlUpdate, [85, 80, 68, 65, 84, 69]), -- UPDATE
    (.sqlReplace, [82, 69, 80, 76, 65, 67, 69]), -- REPLACE
    (.sqlDelete, [68, 69, 76, 69, 84, 69]), -- DELETE
    (.sqlCall, [67, 65, 76, 76]), -- CALL
    (.sqlDo, [68, 79])] -- DO

/-- The keywords `INSERT` and `VALUES` that the batch scan looks for. -/
def insertKeyword : List UInt8 := [73, 78, 83, 69, 82, 84]

def valuesKeyword : List UInt8 := [86, 65, 76, 85, 69, 83]

/-- `check_keyword(ofs, end, keyword, keylen)` on the buffer `buf`. The length test casts
the signed distance `end - ofs` to `size_t`, so a pointer past `end` passes it. -/
def checkKeyword (buf : List UInt8) (ofs endp : Nat) (keyword : List UInt8) : Bool :=
  if ofs ≤ endp ∧ endp - ofs < keyword.length + 1 then false
  else
    (List.range keyword.length).all (fun i => toupper (peek buf (ofs + i)) == keyword.getD i 0) &&
      isWhitespace (peek buf (ofs + keyword.length))

/-- The locals of `MrdbParser_parse`'s loop: the buffer it rewrites in place, the pointers
`a` and `end` as offsets into it, and `lastchar`. -/
structure ParseState where
  p : MrdbParser
  buf : List UInt8
  a : Nat
  endp : Nat
  lastchar : UInt8

/-- How one pass through the loop body ends: `continue` (or falling through to the loop
test), `goto cont` (the body again without the test), or `return 1` with the error text. -/
inductive Next (σ : Type)
  | next (s : σ)
  | cont (s : σ)
  | fail (msg : String)

/-- The error text of a statement that mixes parameter styles. -/
def mixingError : String := "Mixing different parameter styles is not supported"

/-- The test shared by the three placeholder styles: `p->paramstyle && p->paramstyle != style`. -/
def Paramstyle.clashes (current style : Paramstyle) : Bool :=
  current != .none && current != style

end MariadbConnector

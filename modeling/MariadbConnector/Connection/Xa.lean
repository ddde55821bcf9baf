import MariadbConnector.Connection.Tpc
import MariadbConnector.Lib.Utf8

/-! XA statements as the server reads them: single-quoted literals with backslash escapes and
doubled quotes (`readQuoted`), and the xid read back from a statement (`readXaStatement`). -/

namespace MariadbConnector

/-- What a backslash escape stands for in a string literal: `\0`, `\b`, `\n`, `\r`, `\t` and `\Z`
are control characters, `\%` and `\_` keep their backslash, any other character stands for
itself. -/
def escapeChar : Char → List Char
  | '0' => ['\x00']
  | 'b' => ['\x08']
  | 'n' => ['\n']
  | 'r' => ['\r']
  | 't' => ['\t']
  | 'Z' => ['\x1a']
  | '%' => ['\\', '%']
  | '_' => ['\\', '_']
  | c => [c]

/-- The body of a single-quoted literal, read after its opening quote: the text it stands for and
what follows the closing quote, or `none` when the literal is not closed. -/
def readQuoted : List Char → Option (List Char × List Char)
  | [] => none
  | '\x27' :: '\x27' :: rest => (readQuoted rest).map fun r => ('\x27' :: r.1, r.2)
  | '\x27' :: rest => some ([], rest)
  | '\\' :: c :: rest => (readQuoted rest).map fun r => (escapeChar c ++ r.1, r.2)
  | c :: rest => (readQuoted rest).map fun r => (c :: r.1, r.2)

/-- A character of an integer literal. -/
def isNumberChar (c : Char) : Bool := c.isDigit || c == '-'

/-- The xid part `'gtrid','bqual',formatID` of an XA statement: both literals decoded, the text
of the format id, and what follows it. -/
def readXid (cs : List Char) : Option (List Char × List Char × List Char × List Char) := do
  let (gtrid, cs) ← readQuoted cs
  match cs with
  | ',' :: '\x27' :: cs =>
    let (bqual, cs) ← readQuoted cs
    match cs with
    | ',' :: cs => pure (gtrid, bqual, cs.span isNumberChar)
    | _ => none
  | _ => none

/-- The xid that the server reads from an XA statement of the given command, and the text that
follows it. -/
def readXaStatement (command stmt : String) : Option (String × String × String × String) :=
  let head := ("XA " ++ command ++ " '").toList
  if head.isPrefixOf stmt.toList then
    (readXid (stmt.toList.drop head.length)).map fun r =>
      (String.ofList r.1, String.ofList r.2.1, String.ofList r.2.2.1, String.ofList r.2.2.2)
  else none

/-- Neither id holds a quote or a backslash. -/
def Xid.Plain (x : Xid) : Prop :=
  ∀ c ∈ x.transactionId.toList ++ x.branchQualifier.toList, c ≠ '\x27' ∧ c ≠ '\\'

instance (x : Xid) : Decidable x.Plain :=
  inferInstanceAs (Decidable (∀ c ∈ _, _))

/-! ### Reading back a plain xid -/

theorem readQuoted_cons {c : Char} (hq : c ≠ '\x27') (hb : c ≠ '\\') (cs : List Char) :
    readQuoted (c :: cs) = (readQuoted cs).map fun r => (c :: r.1, r.2) :=
  readQuoted.eq_5 c cs (fun _ h => absurd h hq) hq (fun _ _ h => absurd h hb)

theorem readQuoted_close {rest : List Char} (hr : rest.head? ≠ some '\x27') :
    readQuoted ('\x27' :: rest) = some ([], rest) :=
  readQuoted.eq_3 rest fun _ h => hr (by simp [h])

theorem readQuoted_plain {s : List Char} (hs : ∀ c ∈ s, c ≠ '\x27' ∧ c ≠ '\\')
    (rest : List Char) (hr : rest.head? ≠ some '\x27') :
    readQuoted (s ++ '\x27' :: rest) = some (s, rest) := by
  -- induction on the body; each character is one step of the reader
  induction s with
  | nil => exact readQuoted_close hr
  | cons c s ih =>
    have hc := hs c List.mem_cons_self
    rw [List.cons_append, readQuoted_cons hc.1 hc.2,
      ih fun d hd => hs d (List.mem_cons_of_mem c hd)]
    rfl

theorem isNumberChar_of_mem_toString {v : Int} {c : Char} (hc : c ∈ (toString v).toList) :
    isNumberChar c = true := by
  cases v with
  | ofNat n =>
    have hs : (toString (Int.ofNat n)).toList = Nat.toDigits 10 n := by
      simp [toString, Int.repr, Nat.repr]
    rw [hs] at hc
    simp [isNumberChar, Nat.isDigit_of_mem_toDigits (by decide) (by decide) hc]
  | negSucc n =>
    have hs : (toString (Int.negSucc n)).toList = '-' :: Nat.toDigits 10 (n + 1) := by
      simp [toString, Int.repr, Nat.repr]
    rw [hs, List.mem_cons] at hc
    rcases hc with rfl | hc
    · rfl
    · simp [isNumberChar, Nat.isDigit_of_mem_toDigits (by decide) (by decide) hc]

theorem span_number {n rest : List Char} (hn : ∀ c ∈ n, isNumberChar c = true)
    (hr : rest.head?.all (fun c => !isNumberChar c)) :
    (n ++ rest).span isNumberChar = (n, rest) := by
  have hrest : rest.takeWhile isNumberChar = [] ∧ rest.dropWhile isNumberChar = rest := by
    cases rest with
    | nil => exact ⟨rfl, rfl⟩
    | cons c rest =>
      have hc : isNumberChar c = false := by simpa using hr
      simp [hc]
  rw [List.span_eq_takeWhile_dropWhile, List.takeWhile_append_of_pos hn,
    List.dropWhile_append_of_pos hn, hrest.1, hrest.2, List.append_nil]

theorem readXid_plain {t b n rest : List Char} (ht : ∀ c ∈ t, c ≠ '\x27' ∧ c ≠ '\\')
    (hb : ∀ c ∈ b, c ≠ '\x27' ∧ c ≠ '\\') (hn : ∀ c ∈ n, isNumberChar c = true)
    (hr : rest.head?.all (fun c => !isNumberChar c)) :
    readXid (t ++ '\x27' :: ',' :: '\x27' :: (b ++ '\x27' :: ',' :: (n ++ rest))) =
      some (t, b, n, rest) := by
  have hgtrid :=
    readQuoted_plain ht (',' :: '\x27' :: (b ++ '\x27' :: ',' :: (n ++ rest))) (by simp)
  have hbqual := readQuoted_plain hb (',' :: (n ++ rest)) (by simp)
  simp only [readXid, hgtrid, hbqual, Option.bind_eq_bind, Option.bind_some, span_number hn hr]
  rfl

/-- **Plain xids round trip.** The server reads from every statement the TPC methods build for a
plain xid exactly its two ids and its format id, followed by what the method appended. -/
theorem readXaStatement_xaStatement (command : String) {x : Xid} (hx : x.Plain) (suffix : String)
    (hs : suffix.toList.head?.all (fun c => !isNumberChar c)) :
    readXaStatement command (xaStatement command x ++ suffix) =
      some (x.transactionId, x.branchQualifier, toString x.formatId, suffix) := by
  have ht : ∀ c ∈ x.transactionId.toList, c ≠ '\x27' ∧ c ≠ '\\' :=
    fun c hc => hx c (List.mem_append_left _ hc)
  have hb : ∀ c ∈ x.branchQualifier.toList, c ≠ '\x27' ∧ c ≠ '\\' :=
    fun c hc => hx c (List.mem_append_right _ hc)
  -- the statement as the head the reader strips, then the two literals and the format id
  have hstmt : (xaStatement command x ++ suffix).toList =
      ("XA " ++ command ++ " '").toList ++
        (x.transactionId.toList ++ '\x27' :: ',' :: '\x27' ::
          (x.branchQualifier.toList ++ '\x27' :: ',' :: ((toString x.formatId).toList ++
            suffix.toList))) := by
    simp [xaStatement]
  have hprefix : ("XA " ++ command ++ " '").toList.isPrefixOf
      (xaStatement command x ++ suffix).toList = true := by
    rw [hstmt, List.isPrefixOf_iff_prefix]
    exact List.prefix_append _ _
  rw [readXaStatement, if_pos hprefix, hstmt, List.drop_left,
    readXid_plain ht hb (fun _ => isNumberChar_of_mem_toString) hs]
  simp

/-- `tpc_commit` in one phase of `xid(1, "a", "b")`: `XA COMMIT 'a','b',1 ONE PHASE`. -/
theorem read_xa_commit_one_phase :
    Xid.Plain ⟨1, "a", "b"⟩ ∧ " ONE PHASE".toList.head?.all (fun c => !isNumberChar c) = true ∧
      readXaStatement "COMMIT" (xaStatement "COMMIT" ⟨1, "a", "b"⟩ ++ " ONE PHASE") =
        some ("a", "b", toString (1 : Int), " ONE PHASE") := by
  have hx : Xid.Plain ⟨1, "a", "b"⟩ := by simp [Xid.Plain]
  have hs : " ONE PHASE".toList.head?.all (fun c => !isNumberChar c) = true := by
    simp [isNumberChar]
  exact ⟨hx, hs, readXaStatement_xaStatement "COMMIT" hx " ONE PHASE" hs⟩

/-! ### Ids that do not come back -/

/-- `xid(1, "a''b", "c")` is accepted, and the server reads its `XA BEGIN` as the transaction
`a'b`; `xid(1, "é" * 64, "")` is accepted with a transaction id of 128 bytes. -/
theorem xa_statement_divergence :
    mkXid 1 "a''b" "c" = .ok ⟨1, "a''b", "c"⟩ ∧
      readXaStatement "BEGIN" (xaStatement "BEGIN" ⟨1, "a''b", "c"⟩) = some ("a'b", "c", "1", "") ∧
      mkXid 1 (String.ofList (List.replicate 64 'é')) "" =
        .ok ⟨1, String.ofList (List.replicate 64 'é'), ""⟩ ∧
      (Utf8.encode (String.ofList (List.replicate 64 'é'))).length = 128 := by
  refine ⟨by decide, by decide, ?_, ?_⟩
  · have hlen : (String.ofList (List.replicate 64 'é')).length = 64 := by
      simp only [String.length_ofList, List.length_replicate]
    rw [mkXid, if_neg (by omega), if_neg (by decide), if_neg (by decide)]
  · rw [Utf8.length_encode, String.toList_ofList, List.map_replicate, List.sum_replicate]
    rfl

end MariadbConnector

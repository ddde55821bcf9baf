import MariadbConnector.Parser.Rewrite

/-! The parser on statements without a quote, a double quote, a backtick, `/`, `#`, `-` or `%`:
the statement comes back as it was, with the offset of each `?` recorded. -/
namespace MariadbConnector

open CString

/-- The bytes at which a test of the loop body fires before the placeholder tests: the three
quotes, the comment starters `/`, `#` and `-`, and the `%` of `format` and `pyformat`. -/
def specialBytes : List UInt8 := [39, 34, 96, 47, 35, 45, 37]

/-- The command `detectCommand` finds at the head of `rest`: the first keyword of
`binary_command[]` there, or `SQL_OTHER`. -/
def commandAt (rest : List UInt8) : BinaryCommand :=
  match binaryCommands.find? (fun c => keywordAt rest c.2) with
  | some c => c.1
  | none => .sqlOther

/-- The command set once a stretch without special bytes is read: the command test runs on the
first byte that is not a `?`, while no command is set. -/
def plainCommand (cmd : BinaryCommand) : List UInt8 → BinaryCommand
  | [] => cmd
  | c :: rest =>
    if cmd ≠ .sqlNone then cmd else if c = 63 then plainCommand cmd rest else commandAt (c :: rest)

theorem commandAt_ne_sqlNone (rest : List UInt8) : commandAt rest ≠ .sqlNone := by
  unfold commandAt
  split
  · next c hc =>
    have hmem := List.mem_of_find?_eq_some hc
    simp only [binaryCommands, List.mem_cons, List.not_mem_nil, or_false] at hmem
    rcases hmem with h | h | h | h | h | h <;> simp [h]
  · simp

theorem plainCommand_of_ne {cmd : BinaryCommand} (h : cmd ≠ .sqlNone) (u : List UInt8) :
    plainCommand cmd u = cmd := by
  cases u with
  | nil => rfl
  | cons c rest => simp [plainCommand, h]

theorem plainCommand_of_head {c : UInt8} (hc : c ≠ 63) (rest : List UInt8) :
    plainCommand .sqlNone (c :: rest) = commandAt (c :: rest) := by
  simp [plainCommand, hc]

theorem literalIndex_of_not_special {c : UInt8} (hc : c ∉ specialBytes) : literalIndex c = none := by
  simp only [specialBytes, List.mem_cons, List.not_mem_nil, or_false, not_or] at hc
  obtain ⟨h39, h34, h96, -⟩ := hc
  simp [literalIndex, literals, h39, h34, h96]

namespace Scan

/-- Outside every literal and comment, in a style that a `?` does not clash with. -/
structure Idle (t : Scan) : Prop where
  literal : ∀ i, t.p.inLiteral i = false
  comment : t.p.inComment = false
  eol : t.p.commentEol = false
  style : t.p.paramstyle.clashes .qmark = false

variable {t : Scan} {c : UInt8} {rest : List UInt8}

theorem detectCommand_eq (t : Scan) :
    t.detectCommand =
      if t.p.command = .sqlNone then { t with p.command := commandAt t.rest } else t := by
  unfold detectCommand commandAt
  -- both sides match on the same search of the command table
  cases binaryCommands.find? (fun c => keywordAt t.rest c.2) <;> rfl

/-- The step on a `?`: the offset of the `?` in the output is recorded. -/
def recordQmark (t : Scan) : Scan :=
  { t.advance 1 with
    p.paramstyle := .qmark
    p.paramCount := t.p.paramCount + 1
    p.paramList := t.p.paramList ++ [t.out.length] }

theorem body_plain (h : t.Idle) (hrest : t.rest = c :: rest) (hc : c ∉ specialBytes)
    (hq : c ≠ 63) : t.body false = .next t.detectCommand.bottom := by
  have hch : t.ch 0 = c := by simp [ch, hrest]
  have hspec : c ≠ 47 ∧ c ≠ 35 ∧ c ≠ 45 ∧ c ≠ 37 := by
    simp only [specialBytes, List.mem_cons, List.not_mem_nil, or_false, not_or] at hc
    exact ⟨hc.2.2.2.1, hc.2.2.2.2.1, hc.2.2.2.2.2.1, hc.2.2.2.2.2.2⟩
  obtain ⟨h47, h35, h45, h37⟩ := hspec
  -- no literal opens or is open, no comment is open or opens, no end-of-line comment starts
  have hline : t.lineComment = t := by simp [lineComment, hch, h35, h45]
  simp [body, afterComments, hch, literalIndex_of_not_special hc, MrdbParser.inAnyLiteral,
    h.literal, h.comment, h.eol, hline, h47, h37, hq]

theorem body_qmark (h : t.Idle) (hrest : t.rest = 63 :: rest) :
    t.body false = .next t.recordQmark := by
  have hch : t.ch 0 = 63 := by simp [ch, hrest]
  have hline : t.lineComment = t := by simp [lineComment, hch]
  have hlit : literalIndex 63 = none := literalIndex_of_not_special (by decide)
  simp [body, afterComments, hch, hlit, MrdbParser.inAnyLiteral, h.literal, h.comment, h.eol,
    hline, h.style, recordQmark]

theorem Idle.detectCommand_bottom (h : t.Idle) : t.detectCommand.bottom.Idle := by
  rw [detectCommand_eq]
  split_ifs <;> exact ⟨h.literal, h.comment, h.eol, h.style⟩

theorem Idle.recordQmark (h : t.Idle) : t.recordQmark.Idle :=
  ⟨h.literal, h.comment, h.eol, by simp [Scan.recordQmark, Paramstyle.clashes]⟩

end Scan

/-- What a scan over a plain stretch `u` leaves: `u` copied to the output, the input used up,
and one offset recorded for each `?` of `u`. -/
structure PlainRun (t : Scan) (u : List UInt8) (t' : Scan) : Prop where
  out : t'.out = t.out ++ u
  rest : t'.rest = []
  paramstyle : t'.p.paramstyle = if 63 ∈ u then .qmark else t.p.paramstyle
  paramCount : t'.p.paramCount = t.p.paramCount + u.count 63
  paramList : t'.p.paramList = t.p.paramList ++ u.idxsOf 63 t.out.length
  command : t'.p.command = plainCommand t.p.command u
  keys : t'.p.keys = t.p.keys

theorem PlainRun.nil (t : Scan) (hrest : t.rest = []) : PlainRun t [] t where
  out := (List.append_nil _).symm
  rest := hrest
  paramstyle := by simp
  paramCount := by simp
  paramList := by simp
  command := rfl
  keys := rfl

/-- The loop over a plain stretch, by induction on the stretch: each pass takes one byte, and
enough fuel is left to see the end of the input. -/
theorem scanLoop_plain (n : Nat) (u : List UInt8) (hu : ∀ c ∈ u, c ∉ specialBytes) :
    ∀ t : Scan, t.Idle → t.rest = u →
      ∃ t', scanLoop false (u.length + 1 + n) (.next t) = some (.ok t') ∧ PlainRun t u t' := by
  induction u with
  | nil =>
    intro t _ hrest
    refine ⟨t, ?_, PlainRun.nil t hrest⟩
    rw [List.length_nil, Nat.zero_add, Nat.add_comm, scanLoop, if_neg (by simp [hrest])]
  | cons c u ih =>
    intro t h hrest
    have hc := hu c List.mem_cons_self
    have hfuel : (c :: u).length + 1 + n = u.length + 1 + n + 1 := by simp; omega
    rw [hfuel, scanLoop, if_pos (by simp [hrest])]
    by_cases hq : c = 63
    · -- a `?`: recorded at the output's length
      subst hq
      rw [Scan.body_qmark h hrest]
      have hrest' : t.recordQmark.rest = u := by simp [Scan.recordQmark, Scan.advance, hrest]
      obtain ⟨t', hrun, hr⟩ := ih (fun b hb => hu b (List.mem_cons_of_mem _ hb)) _ h.recordQmark
        hrest'
      refine ⟨t', hrun, ?_⟩
      have hout : t.recordQmark.out = t.out ++ [63] := by
        simp [Scan.recordQmark, Scan.advance, hrest]
      refine ⟨by rw [hr.out, hout, List.append_assoc, List.singleton_append], hr.rest, ?_, ?_, ?_,
        ?_, hr.keys⟩
      · rw [hr.paramstyle]
        by_cases h63 : (63 : UInt8) ∈ u <;> simp [h63, Scan.recordQmark]
      · rw [hr.paramCount]
        simp [Scan.recordQmark]
        omega
      · rw [hr.paramList, hout]
        simp [Scan.recordQmark, List.idxsOf_cons]
      · rw [hr.command]
        by_cases hcmd : t.p.command = .sqlNone
        · simp [Scan.recordQmark, Scan.advance, plainCommand, hcmd]
        · simp [Scan.recordQmark, Scan.advance, plainCommand, hcmd, plainCommand_of_ne hcmd]
    · -- any other byte: the command test, then a copy
      rw [Scan.body_plain h hrest hc hq]
      have hrest' : t.detectCommand.bottom.rest = u := by
        rw [Scan.detectCommand_eq]
        split_ifs <;> simp [Scan.bottom, Scan.advance, hrest]
      obtain ⟨t', hrun, hr⟩ := ih (fun b hb => hu b (List.mem_cons_of_mem _ hb)) _
        h.detectCommand_bottom hrest'
      refine ⟨t', hrun, ?_⟩
      have hbot : t.detectCommand.bottom.out = t.out ++ [c] ∧
          t.detectCommand.bottom.p = { t.p with command := plainCommand t.p.command (c :: u) } := by
        rw [Scan.detectCommand_eq]
        by_cases hcmd : t.p.command = .sqlNone
        · simp [hcmd, Scan.bottom, Scan.advance, hrest, plainCommand_of_head hq]
        · simp [hcmd, Scan.bottom, Scan.advance, hrest, plainCommand_of_ne hcmd]
      obtain ⟨hout, hp⟩ := hbot
      refine ⟨by rw [hr.out, hout, List.append_assoc, List.singleton_append], hr.rest, ?_, ?_, ?_,
        ?_, by rw [hr.keys, hp]⟩
      · rw [hr.paramstyle, hp]
        simp [Ne.symm hq]
      · rw [hr.paramCount, hp]
        simp [hq]
      · rw [hr.paramList, hout, hp]
        simp [List.idxsOf_cons, hq]
      · rw [hr.command, hp]
        exact plainCommand_of_ne (by
          by_cases hcmd : t.p.command = .sqlNone
          · simp only [hcmd, plainCommand_of_head hq]
            exact commandAt_ne_sqlNone _
          · simpa [plainCommand_of_ne hcmd] using hcmd) u


theorem Scan.idle_init {sv : Nat} {input : List UInt8} {p : MrdbParser}
    (hp : MrdbParser.init sv input = some p) : Scan.Idle ⟨p, [], input, 0⟩ := by
  unfold MrdbParser.init at hp
  split_ifs at hp
  cases hp
  exact ⟨fun _ => rfl, rfl, rfl, rfl⟩

/-- **The parser records every `?` of a plain statement.** On a statement without quotes,
backticks, `/`, `#`, `-` or `%`, `MrdbParser_parse` succeeds, leaves the text as it is, and
records the offset of each `?` in order, in the `qmark` style; the command is the keyword the
statement starts with, unless it starts with a `?`. -/
theorem parse_plain_records_qmarks (sv : Nat) {input : List UInt8} (hne : input ≠ [])
    (hplain : ∀ c ∈ input, c ∉ specialBytes) :
    ∃ q, (MrdbParser.init sv input).bind (·.parse false) = some (.ok q) ∧
      q.statement.take q.length = input ∧ q.paramList = input.idxsOf 63 ∧
      q.paramCount = input.count 63 ∧
      q.paramstyle = (if 63 ∈ input then .qmark else .none) ∧ q.keys = [] ∧
      (input.head? ≠ some 63 → q.command = commandAt input) := by
  obtain ⟨p, hp⟩ : ∃ p, MrdbParser.init sv input = some p := ⟨_, if_neg hne⟩
  have hinit : p.paramList = [] ∧ p.paramCount = 0 ∧ p.paramstyle = .none ∧ p.keys = [] ∧
      p.command = .sqlNone := by
    unfold MrdbParser.init at hp
    split_ifs at hp
    cases hp
    exact ⟨rfl, rfl, rfl, rfl, rfl⟩
  obtain ⟨hlist, hcount, hstyle, hkeys, hcmd⟩ := hinit
  obtain ⟨t', hrun, hr⟩ := scanLoop_plain 2 input hplain _ (Scan.idle_init hp) rfl
  -- the list scan finishes, so the buffer parser finishes alike
  have hsim := init_parse_sim false hp
  rw [show p.scan false input = some (.ok t') from hrun] at hsim
  cases hq : p.parse false with
  | none => rw [hq] at hsim; exact hsim.elim
  | some r =>
    cases r with
    | error m => rw [hq] at hsim; exact hsim.elim
    | ok q =>
      rw [hq] at hsim
      obtain ⟨hqeq, htake, -⟩ := hsim
      have hfields : q.paramList = t'.p.paramList ∧ q.paramCount = t'.p.paramCount ∧
          q.paramstyle = t'.p.paramstyle ∧ q.keys = t'.p.keys ∧ q.command = t'.p.command := by
        rw [hqeq]
        exact ⟨rfl, rfl, rfl, rfl, rfl⟩
      obtain ⟨hql, hqc, hqs, hqk, hqm⟩ := hfields
      refine ⟨q, by simp [hp, hq], by rw [htake, hr.out, List.nil_append], ?_, ?_, ?_, ?_, ?_⟩
      · rw [hql, hr.paramList, hlist, List.nil_append, List.length_nil]
      · rw [hqc, hr.paramCount, hcount, Nat.zero_add]
      · rw [hqs, hr.paramstyle, hstyle]
      · rw [hqk, hr.keys, hkeys]
      · intro hhead
        obtain ⟨c, rest, rfl⟩ := List.exists_cons_of_ne_nil hne
        have hc : c ≠ 63 := fun h => hhead (by rw [h, List.head?_cons])
        rw [hqm, hr.command, hcmd, plainCommand_of_head hc]

/-- `CALL p(?,?)`: two placeholders at offsets 7 and 9, and the command `CALL`. -/
theorem parse_plain_call_two :
    [67, 65, 76, 76, 32, 112, 40, 63, 44, 63, 41] ≠ ([] : List UInt8) ∧
      (∀ c ∈ ([67, 65, 76, 76, 32, 112, 40, 63, 44, 63, 41] : List UInt8), c ∉ specialBytes) ∧
      ∃ q, (MrdbParser.init 100000 [67, 65, 76, 76, 32, 112, 40, 63, 44, 63, 41]).bind
          (·.parse false) = some (.ok q) ∧
        q.statement.take q.length = [67, 65, 76, 76, 32, 112, 40, 63, 44, 63, 41] ∧
        q.paramList = ([67, 65, 76, 76, 32, 112, 40, 63, 44, 63, 41] : List UInt8).idxsOf 63 ∧
        q.paramCount = ([67, 65, 76, 76, 32, 112, 40, 63, 44, 63, 41] : List UInt8).count 63 ∧
        q.paramstyle = (if (63 : UInt8) ∈ ([67, 65, 76, 76, 32, 112, 40, 63, 44, 63, 41] :
          List UInt8) then .qmark else .none) ∧ q.keys = [] ∧
        (([67, 65, 76, 76, 32, 112, 40, 63, 44, 63, 41] : List UInt8).head? ≠ some 63 →
          q.command = commandAt [67, 65, 76, 76, 32, 112, 40, 63, 44, 63, 41]) :=
  ⟨List.cons_ne_nil _ _, by simp [specialBytes],
    parse_plain_records_qmarks 100000 (List.cons_ne_nil _ _) (by simp [specialBytes])⟩

example : ([67, 65, 76, 76, 32, 112, 40, 63, 44, 63, 41] : List UInt8).idxsOf 63 = [7, 9] := rfl

example : commandAt [67, 65, 76, 76, 32, 112, 40, 63, 44, 63, 41] = .sqlCall := rfl

end MariadbConnector

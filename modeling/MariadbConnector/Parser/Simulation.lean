import MariadbConnector.Parser.Scan

/-! The in-place loop of `MrdbParser_parse` is the list loop of `Scan`: every `memmove` leaves
the rewritten prefix, the unread input, the NUL and stale bytes, in that order. -/
namespace MariadbConnector

open CString

theorem Scan.drop_eq_cons_of_ch_ne_zero {t : Scan} {k : Nat} (hk : t.ch k ≠ 0) :
    k < t.rest.length ∧ t.rest.drop k = t.ch k :: t.rest.drop (k + 1) := by
  have hlt : k < t.rest.length := by
    by_contra hge
    exact hk (List.getD_eq_default _ _ (by omega))
  have hch : t.ch k = t.rest[k] := by simp [Scan.ch, List.getElem?_eq_getElem hlt]
  exact ⟨hlt, hch ▸ List.drop_eq_getElem_cons hlt⟩

theorem Scan.rest_eq_of_ch_one {t : Scan} (h1 : t.ch 1 ≠ 0) :
    t.rest = t.ch 0 :: t.ch 1 :: t.rest.drop 2 := by
  unfold Scan.ch at *
  rcases hr : t.rest with _ | ⟨b0, _ | ⟨b1, r⟩⟩ <;> simp_all

theorem keywordAt_length {rest kw : List UInt8} (hk : keywordAt rest kw = true)
    (hkw : toupper 0 ≠ kw.getD 0 0) (hne : kw ≠ []) : kw.length + 2 ≤ rest.length := by
  unfold keywordAt at hk
  split_ifs at hk with hc
  by_cases hr : rest = []
  · exfalso
    have hall := (Bool.and_eq_true_iff.mp hk).1
    have := (List.all_eq_true.mp hall) 0 (by simpa using List.length_pos_of_ne_nil hne)
    simp [hr] at this
    exact hkw this
  · simp only [ne_eq, hr, not_false_eq_true, true_and, not_lt] at hc
    have := List.length_pos_of_ne_nil hr
    omega

/-- The buffer state `s` is the list state `t`: the same parser record and `lastchar`, the
buffer holds `out`, `rest`, a NUL and stale bytes, `end` is the last byte of `rest`, and `a` is
at the head of `rest`, or past the NUL once `rest` is empty. -/
structure Sim (s : ParseState) (t : Scan) : Prop where
  p : s.p = t.p
  lastchar : s.lastchar = t.lastchar
  buf : ∃ junk, s.buf = t.out ++ t.rest ++ 0 :: junk
  endp : s.endp + 1 = t.out.length + t.rest.length
  a : s.a = t.out.length ∨ (t.rest = [] ∧ t.out.length ≤ s.a)

/-- How the two bodies end alike: both `continue` with related states, both `goto cont` at the
head of `rest`, or both fail with the same text. -/
def NextSim : Next ParseState → Next Scan → Prop
  | .next s, .next t => Sim s t
  | .cont s, .cont t => Sim s t ∧ s.a = t.out.length
  | .fail m, .fail m' => m = m'
  | _, _ => False

namespace Sim

variable {s : ParseState} {t : Scan}

theorem ch_eq (h : Sim s t) (ha : s.a = t.out.length) {k : Nat} (hk : k ≤ t.rest.length) :
    s.ch k = t.ch k := by
  obtain ⟨junk, hb⟩ := h.buf
  simp only [ParseState.ch, Scan.ch, hb, ha]
  exact peek_append_of_le t.out t.rest junk hk

theorem ch_succ_eq (h : Sim s t) (ha : s.a = t.out.length) {k : Nat} (hk : t.ch k ≠ 0) :
    s.ch (k + 1) = t.ch (k + 1) := by
  apply h.ch_eq ha
  by_contra hlt
  exact hk (List.getD_eq_default _ _ (by omega))

theorem ch_zero_eq (h : Sim s t) (ha : s.a = t.out.length) : s.ch 0 = t.ch 0 :=
  h.ch_eq ha (Nat.zero_le _)

theorem test_iff (h : Sim s t) : s.a ≤ s.endp ↔ t.rest ≠ [] := by
  have he := h.endp
  rcases h.a with ha | ⟨hr, ha⟩
  · constructor
    · intro hle hnil
      simp only [hnil, List.length_nil] at he
      omega
    · intro hne
      have := List.length_pos_of_ne_nil hne
      omega
  · simp only [hr, List.length_nil] at he
    simp only [hr, ne_eq, not_true_eq_false, iff_false]
    omega

theorem a_eq_of_ne_nil (h : Sim s t) (hr : t.rest ≠ []) : s.a = t.out.length := by
  rcases h.a with ha | ⟨hr', _⟩
  · exact ha
  · exact absurd hr' hr

theorem mapP (h : Sim s t) (f : MrdbParser → MrdbParser) :
    Sim { s with p := f s.p } { t with p := f t.p } :=
  ⟨by simp [h.p], h.lastchar, h.buf, h.endp, h.a⟩

theorem setP (h : Sim s t) (q : MrdbParser) : Sim { s with p := q } { t with p := q } :=
  ⟨rfl, h.lastchar, h.buf, h.endp, h.a⟩

theorem advance (h : Sim s t) (ha : s.a = t.out.length) (n : Nat) :
    Sim (s.advance n) (t.advance n) := by
  obtain ⟨junk, hb⟩ := h.buf
  refine ⟨h.p, h.lastchar, ⟨junk, ?_⟩, ?_, ?_⟩
  · simp [ParseState.advance, Scan.advance, hb]
  · simp only [ParseState.advance, Scan.advance, List.length_append, List.length_take,
      List.length_drop]
    have := h.endp
    omega
  · simp only [ParseState.advance, Scan.advance, List.length_append, List.length_take]
    rcases Nat.lt_or_ge t.rest.length n with hn | hn
    · right
      exact ⟨List.drop_eq_nil_of_le (by omega), by omega⟩
    · left
      omega

theorem advance_a (ha : s.a = t.out.length) {n : Nat} (hn : n ≤ t.rest.length) :
    (s.advance n).a = (t.advance n).out.length := by
  simp [ParseState.advance, Scan.advance, ha]
  omega

theorem withLastchar (h : Sim s t) (c : UInt8) :
    Sim { s with lastchar := c } { t with lastchar := c } :=
  ⟨h.p, rfl, h.buf, h.endp, h.a⟩

theorem openComment (h : Sim s t) : Sim s.openComment t.openComment :=
  h.mapP fun q => { q with inComment := true }

theorem drop_buf (h : Sim s t) (ha : s.a = t.out.length) {k : Nat} (hk : k ≤ t.rest.length) :
    ∃ junk, s.buf.drop (s.a + k) = t.rest.drop k ++ 0 :: junk := by
  obtain ⟨junk, hb⟩ := h.buf
  refine ⟨junk, ?_⟩
  rw [hb, ha, ← List.drop_drop, List.append_assoc, List.drop_left,
    List.drop_append_of_le_length hk]

theorem readVersion (h : Sim s t) (ha : s.a = t.out.length) {k : Nat}
    (hd : isdigit (t.ch k) = true) :
    (s.readVersion k).1 = (t.readVersion k).1 ∧ Sim (s.readVersion k).2 (t.readVersion k).2 ∧
      (s.readVersion k).2.a = (t.readVersion k).2.out.length := by
  have hne : t.ch k ≠ 0 := by intro h0; simp [h0] at hd
  obtain ⟨hk, hdrop⟩ := Scan.drop_eq_cons_of_ch_ne_zero hne
  obtain ⟨junk, hb⟩ := h.drop_buf ha hk.le
  have hr : strtol (s.buf.drop (s.a + k)) = strtol (t.rest.drop k) := by
    rw [hb, hdrop, strtol_append_nul_of_isdigit hd]
  have hlen : k + (strtol (t.rest.drop k)).2 ≤ t.rest.length := by
    rw [hdrop, strtol_of_isdigit hd]
    have hle := List.IsPrefix.length_le (List.takeWhile_prefix (p := isdigit)
      (l := t.ch k :: t.rest.drop (k + 1)))
    simp only [List.length_cons, List.length_drop] at hle ⊢
    omega
  refine ⟨by simp [ParseState.readVersion, Scan.readVersion, hr], ?_, ?_⟩
  · simp only [ParseState.readVersion, Scan.readVersion, hr]
    exact h.advance ha _
  · simp only [ParseState.readVersion, Scan.readVersion, hr]
    exact advance_a ha hlen

theorem lt_endp_iff (h : Sim s t) (ha : s.a = t.out.length) (k : Nat) :
    s.a + k < s.endp ↔ k + 1 < t.rest.length := by
  have := h.endp
  omega

theorem mariadbComment (h : Sim s t) (ha : s.a = t.out.length) :
    Sim s.mariadbComment t.mariadbComment := by
  have hc : (s.a + 2 < s.endp ∧ s.ch 0 = 77 ∧ s.ch 1 = 33) ↔
      (3 < t.rest.length ∧ t.ch 0 = 77 ∧ t.ch 1 = 33) := by
    rw [h.lt_endp_iff ha]
    exact and_congr_right fun hl => by rw [h.ch_eq ha (by omega), h.ch_eq ha (by omega)]
  unfold ParseState.mariadbComment Scan.mariadbComment
  by_cases hm : 3 < t.rest.length ∧ t.ch 0 = 77 ∧ t.ch 1 = 33
  · -- `/*M!`: what follows the `!` decides
    rw [if_pos (hc.mpr hm), if_pos hm]
    have h2 := h.advance ha 2
    have ha2 := advance_a ha (n := 2) (by omega)
    have hd : ((s.advance 2).a + 6 < (s.advance 2).endp ∧ isdigit ((t.advance 2).ch 0)) ↔
        (7 < (t.advance 2).rest.length ∧ isdigit ((t.advance 2).ch 0)) := by
      rw [h2.lt_endp_iff ha2]
    dsimp only
    rw [h2.ch_zero_eq ha2]
    by_cases hs : isspace ((t.advance 2).ch 0)
    · rw [if_pos hs, if_pos hs]
      exact h2
    · rw [if_neg hs, if_neg hs]
      by_cases hv : 7 < (t.advance 2).rest.length ∧ isdigit ((t.advance 2).ch 0)
      · rw [if_pos (hd.mpr hv), if_pos hv]
        obtain ⟨hv1, hv2, -⟩ := h2.readVersion ha2 (k := 0) hv.2
        rw [hv1, hv2.p]
        split_ifs
        · exact hv2
        · exact hv2.openComment
      · rw [if_neg (mt hd.mp hv), if_neg hv]
        exact h2.openComment
  · rw [if_neg (mt hc.mp hm), if_neg hm]
    exact h.openComment

theorem blockComment (h : Sim s t) (ha : s.a = t.out.length) :
    Sim s.blockComment t.blockComment := by
  have hc : (s.a + 1 < s.endp ∧ s.ch 0 = 33) ↔ (2 < t.rest.length ∧ t.ch 0 = 33) := by
    rw [h.lt_endp_iff ha, h.ch_zero_eq ha]
  have hd : (s.a + 7 < s.endp ∧ isdigit (t.ch 1)) ↔ (8 < t.rest.length ∧ isdigit (t.ch 1)) := by
    rw [h.lt_endp_iff ha]
  unfold ParseState.blockComment Scan.blockComment
  by_cases hb : 2 < t.rest.length ∧ t.ch 0 = 33
  · rw [if_pos (hc.mpr hb), if_pos hb, h.ch_eq ha (by omega : 1 ≤ t.rest.length)]
    by_cases hs : isspace (t.ch 1)
    · rw [if_pos hs, if_pos hs]
      exact h.advance ha 2
    · rw [if_neg hs, if_neg hs]
      by_cases hv : 8 < t.rest.length ∧ isdigit (t.ch 1)
      · rw [if_pos (hd.mpr hv), if_pos hv]
        obtain ⟨hv1, hv2, -⟩ := h.readVersion ha (k := 1) hv.2
        dsimp only
        rw [hv1, hv2.p]
        split_ifs
        · exact hv2.openComment
        · exact hv2
      · rw [if_neg (mt hd.mp hv), if_neg hv]
        exact h.mariadbComment ha
  · rw [if_neg (mt hc.mp hb), if_neg hb]
    exact h.mariadbComment ha

theorem lineComment (h : Sim s t) (ha : s.a = t.out.length) :
    Sim s.lineComment t.lineComment ∧ s.lineComment.a = t.lineComment.out.length := by
  unfold ParseState.lineComment Scan.lineComment
  rw [h.ch_zero_eq ha]
  -- after an optional `#`, the `-- ` test reads the same bytes
  obtain ⟨h1, ha1⟩ : Sim (if t.ch 0 = 35 then { s.advance 1 with p.commentEol := true } else s)
        (if t.ch 0 = 35 then { t.advance 1 with p.commentEol := true } else t) ∧
      (if t.ch 0 = 35 then { s.advance 1 with p.commentEol := true } else s).a =
        (if t.ch 0 = 35 then { t.advance 1 with p.commentEol := true } else t).out.length := by
    split_ifs with h35
    · have hlen := (Scan.drop_eq_cons_of_ch_ne_zero (k := 0) (by rw [h35]; decide)).1
      exact ⟨(h.advance ha 1).mapP fun q => { q with commentEol := true },
        advance_a ha (n := 1) (by omega)⟩
    · exact ⟨h, ha⟩
  generalize (if t.ch 0 = 35 then { s.advance 1 with p.commentEol := true } else s) = s₁ at h1 ha1 ⊢
  generalize (if t.ch 0 = 35 then { t.advance 1 with p.commentEol := true } else t) = t₁ at h1 ha1 ⊢
  have hc : (s₁.ch 0 = 45 ∧ s₁.ch 1 = 45 ∧ s₁.a + 2 < s₁.endp ∧ s₁.ch 2 = 32) ↔
      (t₁.ch 0 = 45 ∧ t₁.ch 1 = 45 ∧ 3 < t₁.rest.length ∧ t₁.ch 2 = 32) := by
    rw [h1.ch_zero_eq ha1, h1.lt_endp_iff ha1]
    refine and_congr_right fun h0 => ?_
    rw [h1.ch_succ_eq ha1 (k := 0) (by rw [h0]; decide)]
    exact and_congr_right fun _ => and_congr_right fun hl => by rw [h1.ch_eq ha1 (by omega)]
  by_cases hd : t₁.ch 0 = 45 ∧ t₁.ch 1 = 45 ∧ 3 < t₁.rest.length ∧ t₁.ch 2 = 32
  · rw [if_pos (hc.mpr hd), if_pos hd]
    exact ⟨(h1.advance ha1 3).mapP fun q => { q with commentEol := true },
      advance_a ha1 (n := 3) (by omega)⟩
  · rw [if_neg (mt hc.mp hd), if_neg hd]
    exact ⟨h1, ha1⟩

theorem buf_set {junk : List UInt8} (hb : s.buf = t.out ++ t.rest ++ 0 :: junk)
    (ha : s.a = t.out.length) {c : UInt8} {r : List UInt8} (hr : t.rest = c :: r) :
    s.buf.set s.a 63 = t.out ++ [63] ++ r ++ 0 :: junk := by
  rw [hb, ha, hr]
  simp [List.set_append_right]

/-- The `memmove` of a placeholder of `width` bytes at the head of `rest`: the input after it
moves down behind the `?`, with the NUL. -/
theorem buf_move {junk : List UInt8} (hb : s.buf = t.out ++ t.rest ++ 0 :: junk)
    (ha : s.a = t.out.length) (width : Nat) (hw : 1 ≤ width) (hlen : width ≤ t.rest.length) :
    ∃ junk', memmove (s.buf.set s.a 63) (s.a + 1) (s.a + width) (t.rest.length - width + 1) =
      t.out ++ [63] ++ t.rest.drop width ++ 0 :: junk' := by
  obtain ⟨c, r, hr⟩ := List.exists_cons_of_length_pos (show 0 < t.rest.length by omega)
  have hdrop : t.rest.drop width = r.drop (width - 1) := by
    rw [hr, show width = (width - 1) + 1 by omega, List.drop_succ_cons]
    simp
  have hrl : r.length + 1 = t.rest.length := by rw [hr]; simp
  rw [buf_set hb ha hr, hdrop]
  refine ⟨(r.take (width - 1) ++ (r.drop (width - 1) ++ [0]) ++ junk).drop
    (r.drop (width - 1) ++ [0]).length, ?_⟩
  have hmove := memmove_close_gap (t.out ++ [63]) (r.take (width - 1)) (r.drop (width - 1) ++ [0])
    junk
  have e1 : s.a + 1 = (t.out ++ [63]).length := by simp [ha]
  have e2 : s.a + width = (t.out ++ [63]).length + (r.take (width - 1)).length := by
    simp [ha]
    omega
  have e3 : t.rest.length - width + 1 = (r.drop (width - 1) ++ [0]).length := by
    simp
    omega
  have e4 : t.out ++ [63] ++ r ++ 0 :: junk =
      t.out ++ [63] ++ r.take (width - 1) ++ (r.drop (width - 1) ++ [0]) ++ junk := by
    simp only [List.append_assoc, List.cons_append, List.nil_append]
    rw [← List.append_assoc (r.take (width - 1)), List.take_append_drop]
  rw [e1, e2, e3, e4, hmove]
  simp

theorem formatPlaceholder (h : Sim s t) (ha : s.a = t.out.length) (h1 : t.ch 1 ≠ 0) :
    Sim s.formatPlaceholder t.formatPlaceholder ∧
      s.formatPlaceholder.a = t.formatPlaceholder.out.length := by
  obtain ⟨junk, hb⟩ := h.buf
  have hr := Scan.rest_eq_of_ch_one h1
  have hlen : 2 ≤ t.rest.length := by rw [hr]; simp
  have he := h.endp
  obtain ⟨junk', hmove⟩ := buf_move hb ha 2 (by omega) hlen
  have hn : s.endp - s.a = t.rest.length - 2 + 1 := by omega
  refine ⟨⟨?_, h.lastchar, ⟨junk', ?_⟩, ?_, Or.inl ?_⟩, ?_⟩
  · simp [ParseState.formatPlaceholder, ParseState.record, Scan.formatPlaceholder, Scan.replace,
      h.p, ha]
  · simpa [ParseState.formatPlaceholder, ParseState.record, Scan.formatPlaceholder, Scan.replace,
      hn] using hmove
  · simp [ParseState.formatPlaceholder, ParseState.record, Scan.formatPlaceholder, Scan.replace]
    omega
  · simp [ParseState.formatPlaceholder, ParseState.record, Scan.formatPlaceholder, Scan.replace, ha]
  · simp [ParseState.formatPlaceholder, ParseState.record, Scan.formatPlaceholder, Scan.replace, ha]

theorem pyformatPlaceholder (h : Sim s t) (ha : s.a = t.out.length) {j : Nat}
    (hj : strstr [41, 115] (t.rest.drop 1) = some j) :
    Sim (s.pyformatPlaceholder (s.a + 1 + j)) (t.pyformatPlaceholder j) ∧
      (s.pyformatPlaceholder (s.a + 1 + j)).a = (t.pyformatPlaceholder j).out.length := by
  obtain ⟨junk, hb⟩ := h.buf
  have hlen : j + 3 ≤ t.rest.length := by
    have := (strstr_spec (by simp) hj).1
    simp at this
    omega
  have he := h.endp
  obtain ⟨junk', hmove⟩ := buf_move hb ha (j + 3) (by omega) hlen
  have hkey : (s.buf.drop (s.a + 2)).take (s.a + 1 + j - s.a + 1 - 3) =
      (t.rest.drop 2).take (j - 1) := by
    obtain ⟨junk₂, hd⟩ := h.drop_buf ha (k := 2) (by omega)
    rw [hd, List.take_append_of_le_length (by simp; omega)]
    congr 1
    omega
  have e1 : s.a + 1 + j + 2 = s.a + (j + 3) := by omega
  have e2 : s.endp - s.a - (s.a + 1 + j - s.a + 1) + 1 = t.rest.length - (j + 3) + 1 := by omega
  refine ⟨⟨?_, h.lastchar, ⟨junk', ?_⟩, ?_, Or.inl ?_⟩, ?_⟩
  · simp only [ParseState.pyformatPlaceholder, ParseState.record, Scan.pyformatPlaceholder,
      Scan.replace]
    rw [hkey, h.p, ha]
  · simpa only [ParseState.pyformatPlaceholder, ParseState.record, Scan.pyformatPlaceholder,
      Scan.replace, e1, e2] using hmove
  · simp [ParseState.pyformatPlaceholder, ParseState.record, Scan.pyformatPlaceholder,
      Scan.replace]
    omega
  · simp [ParseState.pyformatPlaceholder, ParseState.record, Scan.pyformatPlaceholder,
      Scan.replace, ha]
  · simp [ParseState.pyformatPlaceholder, ParseState.record, Scan.pyformatPlaceholder,
      Scan.replace, ha]

/-- `check_keyword` at `a` is `keywordAt` on `rest`, for a keyword whose first byte is not
the upper case of the NUL. Past `end` both fail on that first byte. -/
theorem checkKeyword_eq (h : Sim s t) (ha : s.a = t.out.length) (kw : List UInt8)
    (hkw : toupper 0 ≠ kw.getD 0 0) (hne : kw ≠ []) :
    checkKeyword s.buf s.a s.endp kw = keywordAt t.rest kw := by
  have he := h.endp
  have hreads : ∀ i ≤ t.rest.length, peek s.buf (s.a + i) = t.rest.getD i 0 :=
    fun i hi => h.ch_eq ha hi
  have hfirst : ∀ f : Nat → UInt8, f 0 = 0 →
      (List.range kw.length).all (fun i => toupper (f i) == kw.getD i 0) = false := by
    intro f hf
    rw [Bool.eq_false_iff]
    intro hall
    have := (List.all_eq_true.mp hall) 0 (by simpa using List.length_pos_of_ne_nil hne)
    simp only [hf, beq_iff_eq] at this
    exact hkw this
  unfold checkKeyword keywordAt
  by_cases hr : t.rest = []
  · simp only [hr, List.length_nil, add_zero] at he hreads
    rw [if_neg (by omega), if_neg (by simp [hr]), hfirst _ (by simpa using hreads 0 le_rfl),
      hfirst _ (by simp [hr])]
    rfl
  · have hlen := List.length_pos_of_ne_nil hr
    have hcond : (s.a ≤ s.endp ∧ s.endp - s.a < kw.length + 1) ↔
        (t.rest ≠ [] ∧ t.rest.length - 1 < kw.length + 1) := by
      simp only [ne_eq, hr, not_false_eq_true, true_and]
      omega
    by_cases hc : t.rest ≠ [] ∧ t.rest.length - 1 < kw.length + 1
    · rw [if_pos (hcond.mpr hc), if_pos hc]
    · rw [if_neg (mt hcond.mp hc), if_neg hc]
      have hlong : kw.length + 1 < t.rest.length := by
        simp only [ne_eq, hr, not_false_eq_true, true_and, not_lt] at hc
        omega
      congr 1
      · rw [Bool.eq_iff_iff, List.all_eq_true, List.all_eq_true]
        exact forall_congr' fun i => imp_congr_right fun hi => by
          rw [hreads i (by simp at hi; omega)]
      · rw [hreads _ (by omega)]

theorem bottom (h : Sim s t) (ha : s.a = t.out.length) : Sim s.bottom t.bottom := by
  unfold ParseState.bottom Scan.bottom
  rw [h.ch_zero_eq ha]
  exact (h.advance ha 1).withLastchar _

theorem detectCommand (h : Sim s t) (ha : s.a = t.out.length) :
    Sim s.detectCommand t.detectCommand ∧ s.detectCommand.a = t.detectCommand.out.length := by
  have hk : binaryCommands.find? (fun c => checkKeyword s.buf s.a s.endp c.2) =
      binaryCommands.find? (fun c => keywordAt t.rest c.2) := by
    refine List.find?_congr fun c hc => h.checkKeyword_eq ha _ ?_ ?_ <;>
      · simp only [binaryCommands, List.mem_cons, List.not_mem_nil, or_false] at hc
        rcases hc with rfl | rfl | rfl | rfl | rfl | rfl <;> decide
  unfold ParseState.detectCommand Scan.detectCommand
  rw [hk, h.p]
  split_ifs
  · generalize binaryCommands.find? (fun c => keywordAt t.rest c.2) = r
    cases r with
    | none => exact ⟨h.setP _, ha⟩
    | some c => exact ⟨h.setP _, ha⟩
  · exact ⟨h, ha⟩

theorem batchKeywords (h : Sim s t) (ha : s.a = t.out.length) :
    NextSim s.batchKeywords t.batchKeywords := by
  have hins := h.checkKeyword_eq ha insertKeyword (by decide) (by decide)
  unfold ParseState.batchKeywords Scan.batchKeywords
  rw [hins, h.p, h.lastchar]
  -- after an optional `INSERT`, the `VALUES` test reads the same bytes
  obtain ⟨h1, ha1⟩ : Sim
      (if (!t.p.isInsert && keywordAt t.rest insertKeyword &&
          (t.lastchar == 0 || isWhitespace t.lastchar || t.lastchar == 47)) = true then
        { s.advance 7 with p.isInsert := true } else s)
      (if (!t.p.isInsert && keywordAt t.rest insertKeyword &&
          (t.lastchar == 0 || isWhitespace t.lastchar || t.lastchar == 47)) = true then
        { t.advance 7 with p.isInsert := true } else t) ∧
      (if (!t.p.isInsert && keywordAt t.rest insertKeyword &&
          (t.lastchar == 0 || isWhitespace t.lastchar || t.lastchar == 47)) = true then
        { s.advance 7 with p.isInsert := true } else s).a =
      (if (!t.p.isInsert && keywordAt t.rest insertKeyword &&
          (t.lastchar == 0 || isWhitespace t.lastchar || t.lastchar == 47)) = true then
        { t.advance 7 with p.isInsert := true } else t).out.length := by
    split_ifs with hi
    · have hk : keywordAt t.rest insertKeyword = true := by simp_all
      have hlen := keywordAt_length hk (by decide) (by decide)
      simp only [insertKeyword, List.length_cons, List.length_nil] at hlen
      exact ⟨(h.advance ha 7).mapP fun q => { q with isInsert := true },
        advance_a ha (n := 7) (by omega)⟩
    · exact ⟨h, ha⟩
  generalize (if (!t.p.isInsert && keywordAt t.rest insertKeyword &&
          (t.lastchar == 0 || isWhitespace t.lastchar || t.lastchar == 47)) = true then
        { s.advance 7 with p.isInsert := true } else s) = s₁ at h1 ha1 ⊢
  generalize (if (!t.p.isInsert && keywordAt t.rest insertKeyword &&
          (t.lastchar == 0 || isWhitespace t.lastchar || t.lastchar == 47)) = true then
        { t.advance 7 with p.isInsert := true } else t) = t₁ at h1 ha1 ⊢
  dsimp only
  rw [h1.checkKeyword_eq ha1 _ (by decide) (by decide), h1.p]
  split_ifs with hv
  · have hlen := keywordAt_length (Bool.and_eq_true_iff.mp hv).2 (by decide) (by decide)
    simp only [valuesKeyword, List.length_cons, List.length_nil] at hlen
    rw [ha1]
    exact (h1.advance ha1 7).mapP fun q => { q with valueOfs := some (t₁.out.length + 7) }
  · exact h1.bottom ha1

theorem afterComments (h : Sim s t) (ha : s.a = t.out.length) (b : Bool) :
    NextSim (s.afterComments b) (t.afterComments b) := by
  have hkw : NextSim (if b then s.batchKeywords else .next s.detectCommand.bottom)
      (if b then t.batchKeywords else .next t.detectCommand.bottom) := by
    cases b
    · obtain ⟨hd, hda⟩ := h.detectCommand ha
      exact hd.bottom hda
    · exact h.batchKeywords ha
  unfold ParseState.afterComments Scan.afterComments
  rw [h.ch_zero_eq ha, h.p, h.lastchar]
  by_cases heol : t.p.commentEol = true
  · rw [if_pos heol, if_pos heol]
    split_ifs
    · exact (h.advance ha 1).mapP fun q => { q with commentEol := false }
    · exact h.advance ha 1
  rw [if_neg heol, if_neg heol]
  by_cases hq : t.ch 0 = 63
  · rw [if_pos hq, if_pos hq]
    split_ifs
    · rfl
    · rw [ha]
      exact (h.advance ha 1).mapP fun q => { q with
        paramstyle := .qmark
        paramCount := t.p.paramCount + 1
        paramList := t.p.paramList ++ [t.out.length] }
  rw [if_neg hq, if_neg hq]
  dsimp only
  by_cases hp : t.ch 0 = 37 ∧ t.lastchar ≠ 92
  · rw [if_pos hp, if_pos hp, h.ch_succ_eq ha (k := 0) (by rw [hp.1]; decide)]
    by_cases hsd : t.ch 1 = 115 ∨ t.ch 1 = 100
    · rw [if_pos hsd, if_pos hsd]
      split_ifs
      · rfl
      · exact (h.formatPlaceholder ha (by rcases hsd with hs | hs <;> rw [hs] <;> decide)).1
    rw [if_neg hsd, if_neg hsd]
    by_cases h40 : t.ch 1 = 40
    · rw [if_pos h40, if_pos h40]
      obtain ⟨junk, hd⟩ := h.drop_buf ha (k := 1)
        (Scan.drop_eq_cons_of_ch_ne_zero (k := 0) (by rw [hp.1]; decide)).1
      rw [hd, strstr_append_nul (by simp) (by simp)]
      cases hj : strstr [41, 115] (t.rest.drop 1) with
      | none => exact hkw
      | some j =>
        dsimp only
        split_ifs
        · rfl
        · exact (h.pyformatPlaceholder ha hj).1
    · rw [if_neg h40, if_neg h40]
      exact hkw
  · rw [if_neg hp, if_neg hp]
    exact hkw

theorem body (h : Sim s t) (ha : s.a = t.out.length) (b : Bool) :
    NextSim (s.body b) (t.body b) := by
  unfold ParseState.body Scan.body
  rw [h.ch_zero_eq ha, h.p]
  cases hl : literalIndex (t.ch 0) with
  | some i =>
    have hne : t.ch 0 ≠ 0 := by
      intro h0
      simp [h0, literalIndex, literals] at hl
    exact ⟨(h.advance ha 1).mapP fun q => { q with
        inLiteral := Function.update t.p.inLiteral i (!t.p.inLiteral i) },
      advance_a ha (Scan.drop_eq_cons_of_ch_ne_zero (k := 0) hne).1⟩
  | none =>
    dsimp only
    by_cases hlit : t.p.inAnyLiteral = true
    · rw [if_pos hlit, if_pos hlit]
      exact h.advance ha 1
    rw [if_neg hlit, if_neg hlit]
    by_cases hc : t.p.inComment = true
    · rw [if_pos hc, if_pos hc]
      by_cases he : t.ch 0 = 42 ∧ t.ch 1 = 47
      · rw [if_pos (by rwa [h.ch_succ_eq ha (k := 0) (by rw [he.1]; decide)]), if_pos he]
        exact (h.advance ha 2).mapP fun q => { q with inComment := false }
      · rw [if_neg (fun he' => he (by
          rwa [h.ch_succ_eq ha (k := 0) (by rw [he'.1]; decide)] at he')), if_neg he]
        exact h.advance ha 1
    rw [if_neg hc, if_neg hc]
    by_cases hs : t.ch 0 = 47 ∧ t.ch 1 = 42
    · have h1 : s.ch 1 = t.ch 1 := h.ch_succ_eq ha (k := 0) (by rw [hs.1]; decide)
      rw [if_pos (by rwa [h1]), if_pos hs]
      have hlen := (Scan.drop_eq_cons_of_ch_ne_zero (k := 1) (by rw [hs.2]; decide)).1
      exact (h.advance ha 2).blockComment (advance_a ha (n := 2) (by omega))
    · rw [if_neg (fun hs' => hs (by
        rwa [h.ch_succ_eq ha (k := 0) (by rw [hs'.1]; decide)] at hs')), if_neg hs]
      obtain ⟨hl', hla⟩ := h.lineComment ha
      exact hl'.afterComments hla b

end Sim

/-- The two loops end alike: both out of fuel, the same error, or related states with no input
left. -/
def ResultSim : Option (Except String ParseState) → Option (Except String Scan) → Prop
  | none, none => True
  | some (.error m), some (.error m') => m = m'
  | some (.ok s), some (.ok t) => Sim s t ∧ t.rest = []
  | _, _ => False

theorem parseLoop_sim (b : Bool) (n : Nat) {x : Next ParseState} {y : Next Scan}
    (h : NextSim x y) : ResultSim (parseLoop b n x) (scanLoop b n y) := by
  induction n generalizing x y with
  | zero =>
    cases x <;> cases y <;> simp_all [NextSim, parseLoop, scanLoop, ResultSim]
  | succ n ih =>
    cases x with
    | next s =>
      cases y with
      | next t =>
        simp only [parseLoop, scanLoop]
        by_cases hr : t.rest ≠ []
        · rw [if_pos ((Sim.test_iff h).mpr hr), if_pos hr]
          exact ih (h.body (h.a_eq_of_ne_nil hr) b)
        · rw [if_neg (mt (Sim.test_iff h).mp hr), if_neg hr]
          exact ⟨h, not_not.mp hr⟩
      | cont t => exact h.elim
      | fail m => exact h.elim
    | cont s =>
      cases y with
      | cont t => exact ih (h.1.body h.2 b)
      | next t => exact h.elim
      | fail m => exact h.elim
    | fail m =>
      cases y with
      | fail m' => exact (h : m = m')
      | next t => exact h.elim
      | cont t => exact h.elim

/-- A finished parse against a finished scan: the same error, or a parser whose fields are the
scan's and whose first `length` bytes are the scan's output. -/
def ParseSim : Option (Except String MrdbParser) → Option (Except String Scan) → Prop
  | none, none => True
  | some (.error m), some (.error m') => m = m'
  | some (.ok q), some (.ok t) =>
    q = { t.p with statement := q.statement, length := t.out.length } ∧
      q.statement.take q.length = t.out ∧ t.rest = []
  | _, _ => False

/-- `MrdbParser_parse` on a parser whose buffer is `input` and its NUL is the list scan of
`input`. -/
theorem parse_sim (b : Bool) {input : List UInt8} (hne : input ≠ []) {p : MrdbParser}
    (hs : p.statement = input ++ [0]) (hl : p.length = input.length) :
    ParseSim (p.parse b) (p.scan b input) := by
  have hlen := List.length_pos_of_ne_nil hne
  -- the fresh loop state reads the whole input with nothing before `a`
  have h0 : Sim { p, buf := p.statement, a := 0, endp := p.length - 1, lastchar := 0 }
      { p, out := [], rest := input, lastchar := 0 } :=
    ⟨rfl, rfl, ⟨[], by simp [hs]⟩, by simp; omega, Or.inl rfl⟩
  have hloop := parseLoop_sim b (input.length + 3) (x := .next _) (y := .next _) h0
  simp only [MrdbParser.parse, MrdbParser.scan, hs, List.length_append, List.length_singleton]
  rw [if_neg (by simp [hl]; omega), ← hs]
  generalize parseLoop b (input.length + 1 + 2) _ = r at hloop ⊢
  generalize scanLoop b (input.length + 3) _ = r' at hloop ⊢
  rcases r with _ | _ | s <;> rcases r' with _ | _ | t <;> simp only [ResultSim] at hloop
  · trivial
  · exact hloop
  · obtain ⟨⟨hsp, -, ⟨junk, hb⟩, he, -⟩, hr⟩ := hloop
    simp only [Option.map_some, Except.map, ParseSim]
    simp only [hr, List.length_nil, Nat.add_zero, List.append_nil] at he hb
    refine ⟨by rw [hsp, he], ?_, hr⟩
    rw [hb, he, List.take_left' rfl]

theorem init_parse_sim (b : Bool) {sv : Nat} {input : List UInt8} {p : MrdbParser}
    (hp : MrdbParser.init sv input = some p) : ParseSim (p.parse b) (p.scan b input) := by
  unfold MrdbParser.init at hp
  split_ifs at hp with hne
  cases hp
  exact parse_sim b hne rfl rfl

end MariadbConnector

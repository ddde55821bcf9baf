import Mathlib

/-! Fields read one after another from one buffer through a shared cursor. -/
namespace Frame

variable {κ α β γ : Type}

/-- Reads fields of the kinds `ks` in order from `s`: the values, and the elements after the
cursor. -/
def readAll (read : κ → List α → β × Nat) : List κ → List α → List β × List α
  | [], s => ([], s)
  | k :: ks, s =>
    let r := read k s
    let t := readAll read ks (s.drop r.2)
    (r.1 :: t.1, t.2)

/-- `fetch` calls `read` once per kind, in order, through the shared cursor: what a caller that
owns the loop over the fields is assumed to do. -/
structure ReadsInOrder (fetch : List κ → List α → List β × List α) (read : κ → List α → β × Nat) :
    Prop where
  nil : ∀ s, fetch [] s = ([], s)
  cons : ∀ k ks s, fetch (k :: ks) s =
    ((read k s).1 :: (fetch ks (s.drop (read k s).2)).1, (fetch ks (s.drop (read k s).2)).2)

theorem readsInOrder_readAll (read : κ → List α → β × Nat) : ReadsInOrder (readAll read) read :=
  ⟨fun _ => rfl, fun _ _ _ => rfl⟩

theorem ReadsInOrder.eq_readAll {fetch : List κ → List α → List β × List α}
    {read : κ → List α → β × Nat} (h : ReadsInOrder fetch read) :
    ∀ ks s, fetch ks s = readAll read ks s
  | [], s => h.nil s
  | k :: ks, s => by rw [h.cons, readAll, h.eq_readAll ks]

/-- `read k` moves the cursor over exactly the encoding of a field that fits `k`, and reads its
value from those elements alone, whatever follows them. -/
def Exact (read : κ → List α → β × Nat) (enc : γ → List α) (Fits : κ → γ → Prop) : Prop :=
  ∀ k c rest, Fits k c → read k (enc c ++ rest) = ((read k (enc c)).1, (enc c).length)

/-- Reading the encodings of fields that fit their kinds yields each value from its own encoding
and leaves the cursor after the last one. -/
theorem readAll_flatMap {read : κ → List α → β × Nat} {enc : γ → List α} {Fits : κ → γ → Prop}
    (h : Exact read enc Fits) {ks : List κ} {cs : List γ} (hfit : List.Forall₂ Fits ks cs)
    (rest : List α) :
    readAll read ks (cs.flatMap enc ++ rest) =
      (List.zipWith (fun k c => (read k (enc c)).1) ks cs, rest) := by
  induction hfit with
  | nil => rfl
  | @cons k c ks cs hkc _ ih =>
    -- the first field's reader stops at the start of the second field's encoding
    rw [List.flatMap_cons, List.append_assoc, readAll, h k c _ hkc, List.drop_left, ih,
      List.zipWith_cons_cons]

end Frame

import Mathlib

/-! UTF-8 encodings of strings as byte lists, and ASCII strings, whose characters take one
byte each. -/
namespace Utf8

/-- The UTF-8 bytes of `s`. -/
def encode (s : String) : List UInt8 := s.toList.flatMap String.utf8EncodeChar

/-- Every character of `s` is encoded as a single byte. -/
def Ascii (s : String) : Prop := ∀ c ∈ s.toList, c.utf8Size = 1

instance (s : String) : Decidable (Ascii s) :=
  inferInstanceAs (Decidable (∀ c ∈ s.toList, c.utf8Size = 1))

theorem length_encode (s : String) : (encode s).length = (s.toList.map Char.utf8Size).sum := by
  simp [encode, List.length_flatMap, String.length_utf8EncodeChar]

theorem length_encode_of_ascii {s : String} (h : Ascii s) : (encode s).length = s.length := by
  have hmap : s.toList.map Char.utf8Size = s.toList.map fun _ => 1 := List.map_congr_left h
  rw [length_encode, hmap, List.map_const', List.sum_replicate, smul_eq_mul, mul_one,
    String.length_toList]

theorem ascii_append {s t : String} (hs : Ascii s) (ht : Ascii t) : Ascii (s ++ t) := by
  intro c hc
  rw [String.toList_append, List.mem_append] at hc
  rcases hc with hc | hc
  · exact hs c hc
  · exact ht c hc

theorem ascii_of_isDigit {l : List Char} (h : ∀ c ∈ l, c.isDigit = true) : Ascii (String.ofList l) := by
  intro c hc
  rw [String.toList_ofList] at hc
  have hd := h c hc
  simp only [Char.isDigit, Bool.and_eq_true, decide_eq_true_eq] at hd
  have h9 := UInt32.le_iff_toNat_le.mp hd.2
  have h57 : ('9'.val).toNat = 57 := rfl
  have h127 : (127 : UInt32).toNat = 127 := rfl
  rw [Char.utf8Size_eq_one_iff, UInt32.le_iff_toNat_le]
  omega

theorem ascii_toString_nat (n : Nat) : Ascii (toString n) :=
  ascii_of_isDigit fun _ hc => Nat.isDigit_of_mem_toDigits (by decide) (by decide) hc

theorem ascii_toString_int (v : Int) : Ascii (toString v) := by
  cases v with
  | ofNat n => exact ascii_toString_nat n
  | negSucc n =>
    have hminus : Ascii "-" := by
      intro c hc
      simp at hc
      subst hc
      rfl
    show Ascii ("-" ++ toString (n + 1))
    exact ascii_append hminus (ascii_toString_nat (n + 1))

/-- `bytes.decode(encoding='latin1')`. -/
def latin1 (b : List UInt8) : String := String.ofList (b.map fun x => Char.ofNat x.toNat)

end Utf8

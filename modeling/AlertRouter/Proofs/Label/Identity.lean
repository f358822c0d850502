import AlertRouter.Alert.Basic
import AlertRouter.Proofs.Cut
import AlertRouter.Proofs.Label.Hexadecimal

/-! # What is hashed tells the label set

The bytes that stand for a label set are its names and values, each with a byte behind it that
occurs in no text (`separator_notMem_textBytes`).  The first such byte ends the first name, the next
one its value, and so on to the last entry, so different label sets have different bytes
(`labelBytes_injective`).

A fingerprint holds the first eight bytes of the digest and nothing else (`of_eq_of_iff`).  So two
alerts with different labels have one fingerprint only where the digests of two different messages
begin alike (`shared_only_by_collision`). -/

namespace AlertRouter

/-! ### Digests -/

namespace Blake3

/-- Two messages that differ although the first `n` bytes of their digests are the same. -/
def PrefixCollision (n : Nat) (message message' : List UInt8) : Prop :=
  message ≠ message' ∧ (digest message).take n = (digest message').take n

theorem length_digest (bytes : List UInt8) : (digest bytes).length = 32 := by
  have hbytes (w : UInt32) : (bytesOf w).length = 4 := rfl
  simp only [digest, List.length_flatMap, hbytes, List.map_const', List.sum_replicate_nat,
    Vector.length_toList]

end Blake3

namespace Fingerprint

/-! ### Texts as bytes -/

/-- The greatest bytes in the encoding of a character are the first ones of four. -/
theorem toNat_lt_of_mem_utf8EncodeChar {c : Char} {b : UInt8} (h : b ∈ String.utf8EncodeChar c) :
    b.toNat < 0xF8 := by
  have hbyte {n : Nat} (hn : n < 0xF8) : (UInt8.ofNat n).toNat < 0xF8 :=
    Nat.lt_of_le_of_lt (Nat.mod_le n _) hn
  revert h
  -- One case for each length of the encoding.
  fun_cases String.utf8EncodeChar c
  all_goals
    intro h
    simp only [List.mem_cons, List.not_mem_nil, or_false] at h
    rcases h with rfl | rfl | rfl | rfl
    all_goals exact hbyte (by omega)

theorem separator_notMem_textBytes (s : String) : separator ∉ textBytes s := by
  intro h
  obtain ⟨c, -, hc⟩ := List.mem_flatMap.mp h
  exact absurd (toNat_lt_of_mem_utf8EncodeChar hc) (by decide)

theorem toByteArray_textBytes (s : String) : (textBytes s).toByteArray = s.toByteArray := by
  rw [← String.utf8Encode_toList]
  rfl

theorem textBytes_injective : Function.Injective textBytes := by
  intro s t h
  rw [← String.toByteArray_inj, ← toByteArray_textBytes, h, toByteArray_textBytes]

/-! ### Names and values -/

/-- The bytes of a name and its value. -/
def entryBytes (e : String × String) : List UInt8 :=
  textBytes e.1 ++ separator :: textBytes e.2 ++ [separator]

theorem labelBytes_eq (labels : LabelSet) : labelBytes labels = labels.entries.flatMap entryBytes :=
  rfl

theorem entryBytes_append (e : String × String) (rest : List UInt8) :
    entryBytes e ++ rest = textBytes e.1 ++ separator :: (textBytes e.2 ++ separator :: rest) := by
  simp [entryBytes]

theorem entryBytes_append_ne_nil (e : String × String) (rest : List UInt8) :
    entryBytes e ++ rest ≠ [] := by
  simp [entryBytes]

theorem eq_of_flatMap_entryBytes_eq {es es' : List (String × String)}
    (h : es.flatMap entryBytes = es'.flatMap entryBytes) : es = es' := by
  induction es generalizing es' with
  | nil =>
      cases es' with
      | nil => rfl
      | cons e' es' => exact absurd h.symm (entryBytes_append_ne_nil e' _)
  | cons e es ih =>
      cases es' with
      | nil => exact absurd h (entryBytes_append_ne_nil e _)
      | cons e' es' =>
          rw [List.flatMap_cons, List.flatMap_cons, entryBytes_append, entryBytes_append] at h
          obtain ⟨hname, h⟩ := List.append_cons_inj_of_notMem_left
            (separator_notMem_textBytes _) (separator_notMem_textBytes _) h
          obtain ⟨hvalue, h⟩ := List.append_cons_inj_of_notMem_left
            (separator_notMem_textBytes _) (separator_notMem_textBytes _) h
          have he : e = e' := Prod.ext (textBytes_injective hname) (textBytes_injective hvalue)
          rw [he, ih h]

/-- Different label sets have different bytes. -/
theorem labelBytes_injective : Function.Injective labelBytes := by
  intro l m h
  rw [labelBytes_eq, labelBytes_eq] at h
  exact SortedMap.ext (eq_of_flatMap_entryBytes_eq h)

example : labelBytes (.ofList [("ab", "c")]) ≠ labelBytes (.ofList [("a", "bc")]) := by decide

/-! ### The beginning of the digest -/

theorem bigEndian_eq (bytes : List UInt8) :
    bigEndian bytes = Nat.ofDigits 256 (bytes.map UInt8.toNat).reverse := by
  rw [← foldl_eq_ofDigits, List.foldl_map]
  rfl

theorem bigEndian_lt (bytes : List UInt8) : bigEndian bytes < 256 ^ bytes.length := by
  have h := Nat.ofDigits_lt_base_pow_length (b := 256) (l := (bytes.map UInt8.toNat).reverse)
    (by decide) (by simpa using fun b _ => b.toNat_lt)
  rwa [← bigEndian_eq, List.length_reverse, List.length_map] at h

theorem bigEndian_inj {xs ys : List UInt8} (hlength : xs.length = ys.length) :
    bigEndian xs = bigEndian ys ↔ xs = ys := by
  refine ⟨fun h => ?_, congrArg bigEndian⟩
  rw [bigEndian_eq, bigEndian_eq] at h
  have hdigits := Nat.ofDigits_inj_of_len_eq (by decide) (by simpa using hlength)
    (by simpa using fun b _ => b.toNat_lt) (by simpa using fun b _ => b.toNat_lt) h
  exact (List.map_inj_right fun _ _ => UInt8.toNat_inj.mp).mp (List.reverse_inj.mp hdigits)

/-- Fingerprints are the first eight bytes of the digests. -/
theorem of_eq_of_iff {l m : LabelSet} : of l = of m ↔
    (Blake3.digest (labelBytes l)).take 8 = (Blake3.digest (labelBytes m)).take 8 := by
  have hlength (l : LabelSet) : ((Blake3.digest (labelBytes l)).take 8).length = 8 := by
    rw [List.length_take, Blake3.length_digest]
    rfl
  have hbits (l : LabelSet) :
      (of l).bits.toNat = bigEndian ((Blake3.digest (labelBytes l)).take 8) := by
    refine Nat.mod_eq_of_lt (Nat.lt_of_lt_of_eq (bigEndian_lt _) ?_)
    rw [hlength]
    rfl
  rw [← bigEndian_inj ((hlength l).trans (hlength m).symm), ← hbits, ← hbits, UInt64.toNat_inj]
  exact ⟨congrArg bits, congrArg mk⟩

theorem of_eq_of_iff_collision {l m : LabelSet} : of l = of m ↔
    l = m ∨ Blake3.PrefixCollision 8 (labelBytes l) (labelBytes m) := by
  rw [Blake3.PrefixCollision, labelBytes_injective.ne_iff, ← of_eq_of_iff]
  constructor
  · intro h
    by_cases heq : l = m
    · exact .inl heq
    · exact .inr ⟨heq, h⟩
  · rintro (rfl | ⟨-, h⟩)
    · rfl
    · exact h

/-- **Only a collision gives two label sets one fingerprint.**  What is hashed is different for
different label sets, whatever names and values they have. -/
theorem shared_only_by_collision :
    (∀ l m : LabelSet, labelBytes l = labelBytes m ↔ l = m) ∧
    (∀ l m : LabelSet, of l = of m ↔
      l = m ∨ Blake3.PrefixCollision 8 (labelBytes l) (labelBytes m)) ∧
    ∀ a b : Alert, a.fingerprint = b.fingerprint ↔
      a.labels = b.labels ∨
        Blake3.PrefixCollision 8 (labelBytes a.labels) (labelBytes b.labels) := by
  refine ⟨?_, ?_, ?_⟩
  · exact fun l m => labelBytes_injective.eq_iff
  · exact fun l m => of_eq_of_iff_collision
  · exact fun a b => of_eq_of_iff_collision

end Fingerprint

end AlertRouter

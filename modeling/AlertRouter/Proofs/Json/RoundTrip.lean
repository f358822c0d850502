import AlertRouter.Doc.Nested
import AlertRouter.Json.Printer
import AlertRouter.Json.Reader
import AlertRouter.Proofs.Cut
import AlertRouter.Proofs.Doc.Reread
import AlertRouter.Proofs.Text.Digits
import Mathlib.Algebra.Group.Int.Defs
import Mathlib.Algebra.Group.Nat.Defs

/-! # JSON text that is written can be read

The reader undoes the printer, piece by piece and with any text after the piece: characters of a
string (`stringBody?_escapeChar`), integers (`number?_printed`), then whole documents (`Reads`), by
induction on the document.  Two steps for each character are enough: a list spends one on each of
its items and one on itself, and each of them has a character of its own, be it a comma.

A number ends where no digit, point or exponent follows.  That is so at the end of the text and
before what separates or closes the items of a list (`Ends`). -/

namespace AlertRouter.Json

open Text (Undigited)

/-! ### Strings -/

variable {c : Char} {rest : List Char} {n : Nat}

theorem stringBody?_quote : stringBody? (n + 1) ('"' :: rest) = some ([], rest) := rfl

/-- A character that stands for itself. -/
theorem stringBody?_plain (hquote : c ≠ '"') (hbackslash : c ≠ '\\') (hcontrol : ¬ c.toNat < 0x20) :
    stringBody? (n + 1) (c :: rest) =
      (stringBody? n rest).map fun (s, rest) => (c :: s, rest) := by
  rw [stringBody?, if_neg (by simp [hcontrol, hbackslash])]
  · exact hquote
  · exact fun _ h => absurd h hbackslash
  · exact fun _ _ h => absurd h hbackslash

theorem stringBody?_escape {e : Char} (he : e ≠ 'u') (h : escape? e = some c) :
    stringBody? (n + 1) ('\\' :: e :: rest) =
      (stringBody? n rest).map fun (s, rest) => (c :: s, rest) := by
  rw [stringBody?]
  · simp only [h]
  · exact he

theorem unsigned?_control : ∀ n < 0x20,
    Codec.unsigned? 16 ['0', '0', Nat.digitChar (n / 16), Nat.digitChar (n % 16)] = some n := by
  decide

theorem stringBody?_control (hcontrol : c.toNat < 0x20) :
    stringBody? (n + 1) ('\\' :: 'u' :: '0' :: '0' :: Nat.digitChar (c.toNat / 16) ::
        Nat.digitChar (c.toNat % 16) :: rest) =
      (stringBody? n rest).map fun (s, rest) => (c :: s, rest) := by
  have hunit : unicodeEscape? ('0' :: '0' :: Nat.digitChar (c.toNat / 16) ::
      Nat.digitChar (c.toNat % 16) :: rest) = some (c, rest) := by
    have hhigh : isHighSurrogate c.toNat = false := by
      simp [isHighSurrogate]; omega
    have hlow : isLowSurrogate c.toNat = false := by
      simp [isLowSurrogate]; omega
    simp only [unicodeEscape?, unit?, unsigned?_control _ hcontrol, Option.map_some, hhigh, hlow]
    simp
  rw [stringBody?]
  simp only [hunit]

theorem stringBody?_escapeChar (c : Char) (rest : List Char) :
    stringBody? (n + 1) (escapeChar c ++ rest) =
      (stringBody? n rest).map fun (s, rest) => (c :: s, rest) := by
  by_cases hquote : c = '"'
  · subst hquote
    exact stringBody?_escape (by decide) rfl
  by_cases hbackslash : c = '\\'
  · subst hbackslash
    exact stringBody?_escape (by decide) rfl
  by_cases hnewline : c = '\n'
  · subst hnewline
    exact stringBody?_escape (by decide) rfl
  by_cases hreturn : c = '\r'
  · subst hreturn
    exact stringBody?_escape (by decide) rfl
  by_cases htab : c = '\t'
  · subst htab
    exact stringBody?_escape (by decide) rfl
  by_cases hback : c = '\x08'
  · subst hback
    exact stringBody?_escape (by decide) rfl
  by_cases hfeed : c = '\x0c'
  · subst hfeed
    exact stringBody?_escape (by decide) rfl
  rw [escapeChar, if_neg hquote, if_neg hbackslash, if_neg hnewline, if_neg hreturn, if_neg htab,
    if_neg hback, if_neg hfeed]
  by_cases hcontrol : c.toNat < 0x20
  · rw [if_pos hcontrol]
    exact stringBody?_control hcontrol
  · rw [if_neg hcontrol]
    exact stringBody?_plain hquote hbackslash hcontrol

theorem stringBody?_printed {s : List Char} (h : s.length < n) :
    stringBody? n (s.flatMap escapeChar ++ '"' :: rest) = some (s, rest) := by
  induction s generalizing n with
  | nil =>
      obtain ⟨m, rfl⟩ := Nat.exists_eq_add_one.mpr h
      exact stringBody?_quote
  | cons c s ih =>
      obtain ⟨m, rfl⟩ := Nat.exists_eq_add_one.mpr (Nat.lt_of_le_of_lt (Nat.zero_le _) h)
      rw [List.flatMap_cons, List.append_assoc, stringBody?_escapeChar,
        ih (by simpa using h), Option.map_some]

theorem length_le_flatMap_escapeChar (s : List Char) :
    s.length ≤ (s.flatMap escapeChar).length := by
  induction s with
  | nil => exact Nat.le_refl 0
  | cons c s ih =>
      have hc : 0 < (escapeChar c).length := by grind [escapeChar]
      rw [List.flatMap_cons, List.length_append, List.length_cons]
      omega

/-! ### Numbers -/

/-- What may follow a value: nothing, or what ends it within a list or a record. -/
def Ends (rest : List Char) : Prop := ∀ c ∈ rest.head?, c = ',' ∨ c = ']' ∨ c = '}'

theorem Ends.undigited (h : Ends rest) : Undigited rest := by
  intro c hc
  obtain rfl | rfl | rfl := h c hc <;> rfl

theorem digits_append {ds : List Char} (hds : ∀ d ∈ ds, d.isDigit = true) (h : Undigited rest) :
    digits (ds ++ rest) = (ds, rest) := by
  rw [digits, List.takeWhile_append_of_head? hds h, List.dropWhile_append_of_head? hds h]

/-- Decimal digits of a positive number do not start with a zero. -/
theorem head?_toDigits_ne {n : Nat} (hn : 0 < n) : (Nat.toDigits 10 n).head? ≠ some '0' := by
  induction n using Nat.strongRecOn with
  | ind n ih =>
      rw [Nat.toDigits_eq_if (by decide)]
      split
      · next hlt =>
          rw [List.head?_cons, ne_eq, Option.some.injEq, Nat.digitChar_eq_zero]
          omega
      · next hge =>
          have hne : Nat.toDigits 10 (n / 10) ≠ [] := Nat.toDigits_ne_nil
          rw [List.head?_append, List.head?_eq_some_head hne, Option.some_or,
            ← List.head?_eq_some_head hne]
          exact ih (n / 10) (by omega) (by omega)

theorem exists_cons_toDigits (n : Nat) :
    ∃ d ds, Nat.toDigits 10 n = d :: ds ∧ d.isDigit = true := by
  obtain ⟨d, ds, hds⟩ := List.exists_cons_of_ne_nil (Nat.toDigits_ne_nil (b := 10) (n := n))
  have hmem : d ∈ Nat.toDigits 10 n := by simp [hds]
  exact ⟨d, ds, hds, Nat.isDigit_of_mem_toDigits (by decide) (by decide) hmem⟩

theorem integerPart?_toDigits (h : Undigited rest) :
    integerPart? (Nat.toDigits 10 n ++ rest) = some (Nat.toDigits 10 n, rest) := by
  have hdigits := digits_append
    (fun d hd => Nat.isDigit_of_mem_toDigits (b := 10) (n := n) (by decide) (by decide) hd) h
  rw [integerPart?, hdigits]
  by_cases hn : n = 0
  · subst hn
    rfl
  · have hzero := head?_toDigits_ne (Nat.pos_of_ne_zero hn)
    have hne : Nat.toDigits 10 n ≠ [] := Nat.toDigits_ne_nil
    split <;> simp_all

theorem fraction?_of_ends (h : Ends rest) : fraction? rest = some ([], rest) := by
  cases rest with
  | nil => rfl
  | cons c rest =>
      obtain rfl | rfl | rfl := h c rfl <;> rfl

theorem exponent?_of_ends (h : Ends rest) : exponent? rest = some (none, rest) := by
  cases rest with
  | nil => rfl
  | cons c rest =>
      obtain rfl | rfl | rfl := h c rfl <;> rfl

theorem digitsValue_toDigits : digitsValue (Nat.toDigits 10 n) = n := Nat.ofDigitChars_ten_toDigits

theorem numberOf_toDigits {negative : Bool}
    (h : if negative then n ≤ 2 ^ 63 ∧ n ≠ 0 else n < UInt64.size) :
    numberOf negative (Nat.toDigits 10 n) [] none =
      some (.integer (if negative then -n else n)) := by
  unfold numberOf
  simp only [List.append_nil, digitsValue_toDigits]
  rw [if_pos]
  cases negative <;> simpa using h

/-- The integers that are read as they were written. -/
def IsExact (i : Int) : Prop := -2 ^ 63 ≤ i ∧ i < UInt64.size

/-- The text of an integer begins with a digit or a sign. -/
theorem exists_cons_integer (i : Int) :
    ∃ c cs, (Number.integer i).text.toList = c :: cs ∧ (c.isDigit = true ∨ c = '-') := by
  cases i with
  | ofNat n =>
      obtain ⟨d, ds, hds, hd⟩ := exists_cons_toDigits n
      exact ⟨d, ds, Nat.toList_repr.trans hds, .inl hd⟩
  | negSucc n => exact ⟨'-', _, String.toList_append, .inr rfl⟩

theorem number?_printed {i : Int} (hi : IsExact i) (h : Ends rest) :
    number? ((Number.integer i).text.toList ++ rest) = some (.integer i, rest) := by
  obtain ⟨hlow, hhigh⟩ := hi
  have hinteger (n : Nat) := integerPart?_toDigits (n := n) h.undigited
  cases i with
  | ofNat n =>
      have htext : (Number.integer (.ofNat n)).text.toList = Nat.toDigits 10 n := Nat.toList_repr
      have hsign : ∀ cs, Nat.toDigits 10 n ++ rest ≠ '-' :: cs := by
        obtain ⟨d, ds, hds, hd⟩ := exists_cons_toDigits n
        intro cs he
        rw [hds, List.cons_append, List.cons.injEq] at he
        exact absurd (he.1 ▸ hd) (by decide)
      have hnumber : numberOf false (Nat.toDigits 10 n) [] none = some (.integer (.ofNat n)) :=
        numberOf_toDigits (Int.ofNat_lt.mp hhigh)
      rw [htext, number?]
      · simp only [hinteger, fraction?_of_ends h, exponent?_of_ends h, hnumber]
        rfl
      · exact hsign
  | negSucc n =>
      have htext : (Number.integer (.negSucc n)).text.toList = '-' :: Nat.toDigits 10 (n + 1) := by
        show ("-" ++ (n + 1).repr).toList = _
        rw [String.toList_append, Nat.toList_repr]
        rfl
      have hnumber : numberOf true (Nat.toDigits 10 (n + 1)) [] none =
          some (.integer (.negSucc n)) := numberOf_toDigits (by simp; omega)
      rw [htext, List.cons_append, number?]
      simp only [hinteger, fraction?_of_ends h, exponent?_of_ends h, hnumber]
      rfl

/-! ### Values -/

/-- The documents that have a JSON text of their own: without decimals and without what only YAML
has. -/
inductive Exact : Doc → Prop
  | null : Exact .null
  | bool (b : Bool) : Exact (.bool b)
  | integer {i : Int} (hi : IsExact i) : Exact (.number (.integer i))
  | text (s : String) : Exact (.text s)
  | list {items : List Doc} (h : ∀ d ∈ items, Exact d) : Exact (.list items)
  | record {fields : List (String × Doc)} (h : ∀ e ∈ fields, Exact e.2) : Exact (.record fields)

/-- What a number begins with is neither blank nor the beginning of anything else. -/
theorem of_numeral (h : c.isDigit = true ∨ c = '-') :
    isBlank c = false ∧ c ≠ '"' ∧ c ≠ '[' ∧ c ≠ ']' ∧ c ≠ '{' ∧ c ≠ 'n' ∧ c ≠ 't' ∧ c ≠ 'f' := by
  obtain h | rfl := h
  · refine ⟨?_, ?_, ?_, ?_, ?_, ?_, ?_, ?_⟩
    · rw [← Bool.not_eq_true, isBlank]
      simp only [Bool.or_eq_true, beq_iff_eq]
      rintro (((rfl | rfl) | rfl) | rfl) <;> cases h
    all_goals rintro rfl; cases h
  · decide

/-- The text of a document does not begin with a blank, nor with what ends a list. -/
theorem exists_cons_print {d : Doc} (hd : Exact d) :
    ∃ c cs, print d = c :: cs ∧ isBlank c = false ∧ c ≠ ']' := by
  cases hd with
  | null => exact ⟨_, _, rfl, rfl, by decide⟩
  | bool b => cases b <;> exact ⟨_, _, rfl, rfl, by decide⟩
  | @integer i hi =>
      obtain ⟨c, cs, hprint, hc⟩ := exists_cons_integer i
      obtain ⟨hblank, -, -, hbracket, -⟩ := of_numeral hc
      exact ⟨c, cs, hprint, hblank, hbracket⟩
  | text s => exact ⟨_, _, rfl, rfl, by decide⟩
  | @list items h => cases items <;> exact ⟨_, _, rfl, rfl, by decide⟩
  | @record fields h => cases fields <;> exact ⟨_, _, rfl, rfl, by decide⟩

theorem skipBlanks_print {d : Doc} (hd : Exact d) (rest : List Char) :
    skipBlanks (print d ++ rest) = print d ++ rest := by
  obtain ⟨c, cs, hprint, hblank, -⟩ := exists_cons_print hd
  rw [hprint]
  exact List.dropWhile_cons_of_neg (by simp [hblank])

theorem stringBody?_printString {s : String} (h : (printString s).length ≤ n) (rest : List Char) :
    stringBody? n (s.toList.flatMap escapeChar ++ '"' :: rest) = some (s.toList, rest) := by
  refine stringBody?_printed ?_
  have hlength := length_le_flatMap_escapeChar s.toList
  simp only [printString, List.cons_append, List.length_cons, List.length_append] at h
  omega

/-- The text of the document is read, given two steps for each character. -/
def Reads (d : Doc) : Prop := ∀ {fuel depth : Nat} {rest : List Char},
  2 * (print d).length ≤ fuel → d.depth ≤ depth → Ends rest →
    value? fuel depth (print d ++ rest) = some (d, rest)

theorem reads_null : Reads .null := by
  intro fuel depth rest hfuel hdepth hrest
  cases fuel with
  | zero => exact absurd hfuel (by decide)
  | succ n => rfl

theorem reads_bool (b : Bool) : Reads (.bool b) := by
  intro fuel depth rest hfuel hdepth hrest
  cases fuel with
  | zero => cases b <;> exact absurd hfuel (by decide)
  | succ n => cases b <;> rfl

theorem reads_text (s : String) : Reads (.text s) := by
  intro fuel depth rest hfuel hdepth hrest
  cases fuel with
  | zero => exact absurd hfuel (by simp [print, printString])
  | succ n =>
      have hlength : (printString s).length ≤ n + 1 := by
        rw [print] at hfuel
        omega
      show (stringBody? (n + 1) (s.toList.flatMap escapeChar ++ ['"'] ++ rest)).map _ = _
      rw [List.append_assoc, List.singleton_append, stringBody?_printString hlength,
        Option.map_some]
      simp only [String.ofList_toList]

theorem ends_cons (h : c = ',' ∨ c = ']' ∨ c = '}') : Ends (c :: rest) := by
  rintro d ⟨⟩
  exact h

theorem ends_printItems (xs : List Doc) (rest : List Char) : Ends (printItems xs ++ rest) := by
  cases xs with
  | nil => exact ends_cons (.inr (.inl rfl))
  | cons x xs => exact ends_cons (.inl rfl)

theorem items?_printed {x : Doc} {xs : List Doc} {fuel depth : Nat} (h : ∀ d ∈ x :: xs, Reads d)
    (hfuel : 2 * (print x ++ printItems xs).length ≤ fuel)
    (hdepth : Doc.depthItems (x :: xs) ≤ depth) (rest : List Char) :
    items? fuel depth (print x ++ printItems xs ++ rest) = some (x :: xs, rest) := by
  induction xs generalizing x fuel with
  | nil =>
      rw [printItems, List.length_append, List.length_singleton] at hfuel
      obtain ⟨n, rfl⟩ := Nat.exists_eq_add_one.mpr (by omega : 0 < fuel)
      rw [Doc.depthItems, Nat.max_le] at hdepth
      have hx := h x (.head _) (by omega : _ ≤ n) hdepth.1 (ends_printItems [] rest)
      rw [List.append_assoc, items?, hx]
      rfl
  | cons y xs ih =>
      rw [printItems, List.length_append, List.cons_append, List.length_cons] at hfuel
      obtain ⟨n, rfl⟩ := Nat.exists_eq_add_one.mpr (by omega : 0 < fuel)
      rw [Doc.depthItems, Nat.max_le] at hdepth
      have hx := h x (.head _) (by omega : _ ≤ n) hdepth.1 (ends_printItems (y :: xs) rest)
      have hxs := ih (fun d hd => h d (.tail _ hd)) (by omega : _ ≤ n) hdepth.2
      rw [List.append_assoc, items?, hx]
      show (items? n depth (print y ++ printItems xs ++ rest)).map _ = _
      rw [hxs, Option.map_some]

/-- The name and the value of an entry are read, then the other entries or the end of the record. -/
theorem entries?_entry (name : String) {x : Doc} {depth : Nat} (hx : Reads x)
    (hfuel : 2 * (printString name ++ ':' :: print x).length ≤ n) (hdepth : x.depth ≤ depth)
    (rest : List Char) :
    entries? (n + 1) depth (printString name ++ ':' :: print x ++ ',' :: rest) =
      (entries? n depth rest).map (fun (es, rest) => ((name, x) :: es, rest)) ∧
    entries? (n + 1) depth (printString name ++ ':' :: print x ++ '}' :: rest) =
      some ([(name, x)], rest) := by
  rw [List.length_append, List.length_cons] at hfuel
  have hlength : (printString name).length ≤ n + 1 := by omega
  have hname (cs : List Char) := stringBody?_printString hlength (':' :: (print x ++ cs))
  have hvalue {cs : List Char} (hcs : Ends cs) := hx (by omega : _ ≤ n) hdepth hcs
  have htext (cs : List Char) : printString name ++ ':' :: print x ++ cs =
      '"' :: (name.toList.flatMap escapeChar ++ '"' :: ':' :: (print x ++ cs)) := by
    simp [printString]
  have hquote (cs : List Char) : skipBlanks ('"' :: cs) = '"' :: cs := rfl
  have hcolon (cs : List Char) : skipBlanks (':' :: cs) = ':' :: cs := rfl
  have hcomma (cs : List Char) : skipBlanks (',' :: cs) = ',' :: cs := rfl
  have hbrace (cs : List Char) : skipBlanks ('}' :: cs) = '}' :: cs := rfl
  constructor
  · rw [htext, entries?, hquote]
    simp only [hname, hcolon, hvalue (ends_cons (.inl rfl)), hcomma, String.ofList_toList]
  · rw [htext, entries?, hquote]
    simp only [hname, hcolon, hvalue (ends_cons (.inr (.inr rfl))), hbrace, String.ofList_toList]

theorem entries?_printed {e : String × Doc} {es : List (String × Doc)} {fuel depth : Nat}
    (h : ∀ f ∈ e :: es, Reads f.2)
    (hfuel : 2 * (printString e.1 ++ ':' :: print e.2 ++ printEntries es).length ≤ fuel)
    (hdepth : Doc.depthFields (e :: es) ≤ depth) (rest : List Char) :
    entries? fuel depth (printString e.1 ++ ':' :: print e.2 ++ printEntries es ++ rest) =
      some (e :: es, rest) := by
  induction es generalizing e fuel with
  | nil =>
      rw [printEntries, List.length_append, List.length_singleton] at hfuel
      obtain ⟨n, rfl⟩ := Nat.exists_eq_add_one.mpr (by omega : 0 < fuel)
      rw [Doc.depthFields, Nat.max_le] at hdepth
      rw [List.append_assoc]
      exact (entries?_entry e.1 (h e (.head _)) (by omega) hdepth.1 rest).2
  | cons f es ih =>
      rw [printEntries, List.length_append, List.cons_append, List.cons_append,
        List.length_cons] at hfuel
      obtain ⟨n, rfl⟩ := Nat.exists_eq_add_one.mpr (by omega : 0 < fuel)
      rw [Doc.depthFields, Nat.max_le] at hdepth
      have hes := ih (fun d hd => h d (.tail _ hd)) (by omega : _ ≤ n) hdepth.2
      have hentry := (entries?_entry e.1 (h e (.head _)) (by omega : _ ≤ n) hdepth.1
        (printString f.1 ++ ':' :: print f.2 ++ printEntries es ++ rest)).1
      rw [hes, Option.map_some] at hentry
      rw [List.append_assoc]
      exact hentry

theorem reads_integer {i : Int} (hi : IsExact i) : Reads (.number (.integer i)) := by
  intro fuel depth rest hfuel hdepth hrest
  obtain ⟨c, cs, hprint, hc⟩ := exists_cons_integer i
  obtain ⟨hblank, hquote, hbracket, -, hbrace, hn, ht, hf⟩ := of_numeral hc
  have hnumber := number?_printed hi hrest
  rw [print] at hfuel ⊢
  rw [hprint] at hfuel hnumber ⊢
  rw [List.length_cons] at hfuel
  obtain ⟨n, rfl⟩ := Nat.exists_eq_add_one.mpr (by omega : 0 < fuel)
  have hskip : skipBlanks (c :: cs ++ rest) = c :: (cs ++ rest) :=
    List.dropWhile_cons_of_neg (by simp [hblank])
  rw [List.cons_append] at hnumber
  rw [value?, hskip]
  split
  · next heq => cases heq
  · next heq => exact absurd (List.cons.inj heq).1 hquote
  · next heq => exact absurd (List.cons.inj heq).1 hbracket
  · next heq => exact absurd (List.cons.inj heq).1 hbrace
  · next heq =>
      cases heq
      rw [if_neg hn, if_neg ht, if_neg hf, hnumber, Option.map_some]

theorem reads_list {items : List Doc} (hexact : ∀ d ∈ items, Exact d)
    (h : ∀ d ∈ items, Reads d) : Reads (.list items) := by
  intro fuel depth rest hfuel hdepth hrest
  cases items with
  | nil =>
      obtain ⟨m, rfl⟩ := Nat.exists_eq_add_one.mpr (Nat.lt_of_lt_of_le (Nat.succ_pos _) hdepth)
      cases fuel with
      | zero => exact absurd hfuel (by decide)
      | succ n => rfl
  | cons x xs =>
      rw [print, List.cons_append, List.length_cons] at hfuel
      obtain ⟨n, rfl⟩ := Nat.exists_eq_add_one.mpr (by omega : 0 < fuel)
      obtain ⟨m, rfl⟩ := Nat.exists_eq_add_one.mpr (Nat.lt_of_lt_of_le (Nat.succ_pos _) hdepth)
      have hitems := items?_printed h (by omega : _ ≤ n) (Nat.le_of_succ_le_succ hdepth) rest
      obtain ⟨c, cs, hprint, -, hbracket⟩ := exists_cons_print (hexact x (.head _))
      have hskip : skipBlanks (print x ++ printItems xs ++ rest) =
          print x ++ printItems xs ++ rest := by
        rw [List.append_assoc, skipBlanks_print (hexact x (.head _))]
      have hopen (cs : List Char) : skipBlanks ('[' :: cs) = '[' :: cs := rfl
      rw [print, List.cons_append, List.cons_append, value?, hopen]
      simp only [hskip]
      split
      · next heq =>
          rw [hprint] at heq
          exact absurd (List.cons.inj heq).1 hbracket
      · rw [hitems, Option.map_some]

theorem reads_record {fields : List (String × Doc)} (h : ∀ e ∈ fields, Reads e.2) :
    Reads (.record fields) := by
  intro fuel depth rest hfuel hdepth hrest
  cases fields with
  | nil =>
      obtain ⟨m, rfl⟩ := Nat.exists_eq_add_one.mpr (Nat.lt_of_lt_of_le (Nat.succ_pos _) hdepth)
      cases fuel with
      | zero => exact absurd hfuel (by decide)
      | succ n => rfl
  | cons e es =>
      rw [print, List.cons_append, List.cons_append, List.length_cons] at hfuel
      obtain ⟨n, rfl⟩ := Nat.exists_eq_add_one.mpr (by omega : 0 < fuel)
      obtain ⟨m, rfl⟩ := Nat.exists_eq_add_one.mpr (Nat.lt_of_lt_of_le (Nat.succ_pos _) hdepth)
      have hentries := entries?_printed h (by omega : _ ≤ n) (Nat.le_of_succ_le_succ hdepth) rest
      show (entries? n m (printString e.1 ++ ':' :: print e.2 ++ printEntries es ++ rest)).map _ = _
      rw [hentries, Option.map_some]

/-- The text of every such document is read. -/
theorem Exact.reads {d : Doc} (hd : Exact d) : Reads d := by
  induction hd with
  | null => exact reads_null
  | bool b => exact reads_bool b
  | integer hi => exact reads_integer hi
  | text s => exact reads_text s
  | list h ih => exact reads_list h ih
  | record h ih => exact reads_record ih

/-- **A document that was written as JSON text is read from it**, if it is no deeper than what may
be read. -/
theorem read?_render {d : Doc} (hd : Exact d) (hdepth : d.depth ≤ maxDepth) :
    read? (render d) = some d := by
  have hread : value? (2 * (print d).length + 2) maxDepth (print d ++ []) = some (d, []) :=
    hd.reads (by omega) hdepth nofun
  rw [List.append_nil] at hread
  simp only [read?, render, String.toList_ofList, hread]
  rfl

/-! ### Types -/

/-- All that the codec writes can be read from its JSON text and has at most `n` levels. -/
def Writes {α : Type} (c : Codec α) (n : Nat) : Prop :=
  ∀ x, Exact (c.write x) ∧ (c.write x).depth ≤ n

/-- All that the field writes, if it is written, can be read from its JSON text and has at most `n`
levels. -/
def WritesField {σ : Type} (f : Field σ) (n : Nat) : Prop :=
  ∀ x, ∀ d ∈ f.write x, Exact d ∧ d.depth ≤ n

section

variable {α σ : Type} {c : Codec α} {name : String} {set : α → σ → σ}

@[simp] theorem writes_text : Writes .text (n + 1) :=
  fun s => ⟨.text s, Nat.succ_le_succ (Nat.zero_le n)⟩

@[simp] theorem writes_flag : Writes .flag (n + 1) :=
  fun b => ⟨.bool b, Nat.succ_le_succ (Nat.zero_le n)⟩

@[simp] theorem writes_parsed {expected : String} {parse : String → Except String α}
    {print : α → String} : Writes (.parsed expected parse print) (n + 1) :=
  fun x => ⟨.text (print x), Nat.succ_le_succ (Nat.zero_le n)⟩

@[simp] theorem writes_variant [DecidableEq α] {names : List (String × α)} {nameOf : α → String} :
    Writes (.variant names nameOf) (n + 1) :=
  fun x => ⟨.text (nameOf x), Nat.succ_le_succ (Nat.zero_le n)⟩

@[simp] theorem writes_optional (h : Writes c (n + 1)) : Writes c.optional (n + 1) := by
  intro o
  cases o with
  | none => exact ⟨.null, Nat.succ_le_succ (Nat.zero_le n)⟩
  | some x => exact h x

@[simp] theorem writes_list (h : Writes c n) : Writes c.list (n + 1) := by
  intro xs
  refine ⟨.list ?_, Nat.succ_le_succ (Doc.depthItems_le ?_)⟩
  · exact List.forall_mem_map.mpr fun x _ => (h x).1
  · exact List.forall_mem_map.mpr fun x _ => (h x).2

@[simp] theorem writes_map (h : Writes c n) : Writes (Codec.map c) (n + 1) := by
  intro m
  refine ⟨.record ?_, Nat.succ_le_succ (Doc.depthFields_le ?_)⟩
  · exact List.forall_mem_map.mpr fun e _ => (h e.2).1
  · exact List.forall_mem_map.mpr fun e _ => (h e.2).2

@[simp] theorem writesField_must {get : σ → α} (h : Writes c n) :
    WritesField (.must name c get set) n := by
  rintro x d ⟨⟩
  exact h (get x)

@[simp] theorem writesField_may {get : σ → α} (h : Writes c n) :
    WritesField (.may name c get set) n := by
  rintro x d ⟨⟩
  exact h (get x)

@[simp] theorem writesField_maybe {get : σ → Option α} {set : Option α → σ → σ}
    (h : Writes c (n + 1)) : WritesField (.maybe name c get set) (n + 1) := by
  intro x d hd
  obtain ⟨-, hd⟩ := Option.ite_none_left_eq_some.mp hd
  obtain rfl := Option.some.inj hd
  exact writes_optional h (get x)

theorem exact_writeFields {s : Schema σ} (h : ∀ f ∈ s.fields, WritesField f n) (x : σ) :
    ∀ e ∈ s.writeFields x, Exact e.2 ∧ e.2.depth ≤ n := by
  intro e he
  obtain ⟨f, hf, hwrite⟩ := List.mem_filterMap.mp he
  obtain ⟨d, hd, rfl⟩ := Option.map_eq_some_iff.mp hwrite
  exact h f hf x d hd

theorem writes_schema {s : Schema σ} (h : ∀ f ∈ s.fields, WritesField f n) :
    Writes s.codec (n + 1) := by
  intro x
  refine ⟨.record fun e he => (exact_writeFields h x e he).1, Nat.succ_le_succ ?_⟩
  exact Doc.depthFields_le fun e he => (exact_writeFields h x e he).2

/-- A value comes back from its JSON text if it does so from its document. -/
theorem decode_render {x y : α} (h : Writes c n) (hn : n ≤ maxDepth) (hx : c.reread x = .ok y) :
    decode c (render (c.write x)) = .ok y := by
  have hread : c.read (c.write x) = .ok y := hx
  rw [decode, read?_render (h x).1 (Nat.le_trans (h x).2 hn)]
  simp only [hread]
  rfl

end

end AlertRouter.Json

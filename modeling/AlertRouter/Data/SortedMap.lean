/-! # Maps sorted by key

A finite map is the list of its entries in strictly increasing order of the keys.  The order is
part of the type, so two maps with the same look-ups are the same value, and every listing of a
map is deterministic.

* `insert` replaces the value of a key or adds an entry (`get?_insert`).
* `erase` removes the entry of a key (`get?_erase`).
* `filter` keeps some of the entries (`get?_filter`).
* `ext_get?` says that the look-ups determine the map, `mem_entries_iff` that they are its entries.
* `mem_keys_insert` and `mem_keys_filter` say which keys these leave.
-/

namespace AlertRouter

/-- A finite map from `κ` to `ν`: entries in strictly increasing order of the keys. -/
structure SortedMap (κ ν : Type) [Ord κ] where
  entries : List (κ × ν)
  sorted : entries.Pairwise (fun a b => compare a.1 b.1 = .lt)

namespace SortedMap

variable {κ ν : Type} [Ord κ]

theorem ext {m m' : SortedMap κ ν} (h : m.entries = m'.entries) : m = m' := by
  cases m; cases m'; cases h; rfl

instance [DecidableEq κ] [DecidableEq ν] : DecidableEq (SortedMap κ ν) := fun m m' =>
  if h : m.entries = m'.entries then isTrue (ext h)
  else isFalse fun e => h (e ▸ rfl)

instance [Repr κ] [Repr ν] : Repr (SortedMap κ ν) := ⟨fun m n => reprPrec m.entries n⟩

/-- The map without entries. -/
def empty : SortedMap κ ν := ⟨[], .nil⟩

instance : Inhabited (SortedMap κ ν) := ⟨empty⟩
instance : EmptyCollection (SortedMap κ ν) := ⟨empty⟩

def isEmpty (m : SortedMap κ ν) : Bool := m.entries.isEmpty

def size (m : SortedMap κ ν) : Nat := m.entries.length

def keys (m : SortedMap κ ν) : List κ := m.entries.map (·.1)

def values (m : SortedMap κ ν) : List ν := m.entries.map (·.2)

/-- The value at `k` in a list of entries, sorted or not. -/
def lookup (k : κ) : List (κ × ν) → Option ν
  | [] => none
  | (k', v) :: rest => if compare k k' = .eq then some v else lookup k rest

/-- The value at `k`. -/
def get? (m : SortedMap κ ν) (k : κ) : Option ν := lookup k m.entries

def contains (m : SortedMap κ ν) (k : κ) : Bool := (m.get? k).isSome

def getD (m : SortedMap κ ν) (k : κ) (v : ν) : ν := (m.get? k).getD v

/-- Insertion into a sorted list of entries, replacing the value of an equal key. -/
def insertEntry (k : κ) (v : ν) : List (κ × ν) → List (κ × ν)
  | [] => [(k, v)]
  | (k', v') :: rest =>
    match compare k k' with
    | .lt => (k, v) :: (k', v') :: rest
    | .eq => (k', v) :: rest
    | .gt => (k', v') :: insertEntry k v rest

theorem mem_insertEntry {k : κ} {v : ν} {a : κ × ν} {l : List (κ × ν)}
    (h : a ∈ insertEntry k v l) :
    a = (k, v) ∨ a ∈ l ∨ ∃ w, (a.1, w) ∈ l ∧ a.2 = v := by
  induction l with
  | nil => left; simpa [insertEntry] using h
  | cons e rest ih =>
    obtain ⟨k', v'⟩ := e
    rw [insertEntry] at h
    split at h
    · rcases List.mem_cons.1 h with rfl | h
      · exact .inl rfl
      · exact .inr (.inl h)
    · rcases List.mem_cons.1 h with rfl | h
      · exact .inr (.inr ⟨v', by simp⟩)
      · exact .inr (.inl (List.mem_cons_of_mem _ h))
    · rcases List.mem_cons.1 h with rfl | h
      · exact .inr (.inl (by simp))
      · rcases ih h with e | e | ⟨w, hw, e⟩
        · exact .inl e
        · exact .inr (.inl (List.mem_cons_of_mem _ e))
        · exact .inr (.inr ⟨w, List.mem_cons_of_mem _ hw, e⟩)

theorem pairwise_insertEntry [Std.TransOrd κ] (k : κ) (v : ν) {l : List (κ × ν)}
    (h : l.Pairwise (fun a b => compare a.1 b.1 = .lt)) :
    (insertEntry k v l).Pairwise (fun a b => compare a.1 b.1 = .lt) := by
  induction l with
  | nil => simp [insertEntry]
  | cons e rest ih =>
    obtain ⟨k', v'⟩ := e
    obtain ⟨hhead, htail⟩ := List.pairwise_cons.1 h
    rw [insertEntry]
    split
    · next hlt =>
      refine List.pairwise_cons.2 ⟨fun b hb => ?_, h⟩
      rcases List.mem_cons.1 hb with rfl | hb
      · exact hlt
      · exact Std.TransCmp.lt_trans hlt (hhead b hb)
    · exact List.pairwise_cons.2 ⟨hhead, htail⟩
    · next hgt =>
      refine List.pairwise_cons.2 ⟨fun b hb => ?_, ih htail⟩
      rcases mem_insertEntry hb with rfl | hb | ⟨w, hw, _⟩
      · exact Std.OrientedCmp.lt_of_gt hgt
      · exact hhead b hb
      · exact (hhead (b.1, w) hw :)

/-- Replaces the value at `k`, or adds an entry. -/
def insert [Std.TransOrd κ] (m : SortedMap κ ν) (k : κ) (v : ν) : SortedMap κ ν :=
  ⟨insertEntry k v m.entries, pairwise_insertEntry k v m.sorted⟩

/-- Keeps the entries that satisfy `p`. -/
def filter (m : SortedMap κ ν) (p : κ → ν → Bool) : SortedMap κ ν :=
  ⟨m.entries.filter (fun e => p e.1 e.2), m.sorted.filter _⟩

/-- Removes the entry of `k`. -/
def erase (m : SortedMap κ ν) (k : κ) : SortedMap κ ν :=
  m.filter (fun k' _ => compare k k' != .eq)

/-- The entries of a list, a later one winning over an earlier one of the same key. -/
def ofList [Std.TransOrd κ] (l : List (κ × ν)) : SortedMap κ ν :=
  l.foldl (fun m e => m.insert e.1 e.2) empty

/-! ### Look-ups -/

theorem lookup_eq_none_of_lt {k : κ} {l : List (κ × ν)}
    (h : ∀ e ∈ l, compare k e.1 = .lt) : lookup k l = none := by
  induction l with
  | nil => rfl
  | cons e rest ih =>
    have he := h e (by simp)
    rw [lookup, if_neg (by rw [he]; decide)]
    exact ih fun x hx => h x (List.mem_cons_of_mem _ hx)

section Lookup

variable [Std.TransOrd κ] [Std.LawfulEqOrd κ]

theorem lookup_insertEntry (k k' : κ) (v : ν) (l : List (κ × ν)) :
    lookup k' (insertEntry k v l) = if compare k' k = .eq then some v else lookup k' l := by
  induction l with
  | nil => simp [insertEntry, lookup]
  | cons e rest ih =>
    obtain ⟨k₀, v₀⟩ := e
    rw [insertEntry]
    split
    · rw [lookup]
    · next heq =>
      have h : k = k₀ := Std.LawfulEqCmp.eq_of_compare heq
      subst h
      simp only [lookup]
      split <;> rfl
    · next hgt =>
      simp only [lookup, ih]
      by_cases h₀ : compare k' k₀ = .eq
      · have h : k' = k₀ := Std.LawfulEqCmp.eq_of_compare h₀
        subst h
        have hne : compare k' k ≠ .eq := by
          rw [Std.OrientedCmp.lt_of_gt hgt]; decide
        simp [hne]
      · simp [h₀]

theorem get?_insert (m : SortedMap κ ν) (k k' : κ) (v : ν) :
    (m.insert k v).get? k' = if compare k' k = .eq then some v else m.get? k' :=
  lookup_insertEntry k k' v m.entries

theorem get?_insert_self (m : SortedMap κ ν) (k : κ) (v : ν) :
    (m.insert k v).get? k = some v := by
  simp [get?_insert]

theorem get?_insert_of_ne (m : SortedMap κ ν) {k k' : κ} (v : ν) (h : k' ≠ k) :
    (m.insert k v).get? k' = m.get? k' := by
  rw [get?_insert, if_neg]
  exact fun e => h (Std.LawfulEqCmp.eq_of_compare e)

theorem lookup_filter_ne (k k' : κ) (l : List (κ × ν)) :
    lookup k' (l.filter (fun e => compare k e.1 != .eq)) =
      if compare k k' = .eq then none else lookup k' l := by
  induction l with
  | nil => simp [lookup]
  | cons e rest ih =>
    obtain ⟨k₀, v₀⟩ := e
    by_cases h : compare k k₀ = .eq
    · have h' : k = k₀ := Std.LawfulEqCmp.eq_of_compare h
      subst h'
      simp only [List.filter_cons, h, bne_self_eq_false, Bool.false_eq_true, if_false, ih, lookup]
      by_cases hk : compare k k' = .eq
      · simp [hk]
      · have : compare k' k ≠ .eq := fun e => hk (Std.OrientedCmp.eq_symm e)
        simp [hk, this]
    · have hb : (compare k k₀ != .eq) = true := by simpa using h
      simp only [List.filter_cons, hb, if_true, lookup, ih]
      by_cases hk : compare k k' = .eq
      · have hk' : k = k' := Std.LawfulEqCmp.eq_of_compare hk
        subst hk'
        simp [h]
      · simp [hk]

theorem get?_erase (m : SortedMap κ ν) (k k' : κ) :
    (m.erase k).get? k' = if compare k k' = .eq then none else m.get? k' :=
  lookup_filter_ne k k' m.entries

theorem eq_of_lookup_eq {l l' : List (κ × ν)}
    (h : l.Pairwise (fun a b => compare a.1 b.1 = .lt))
    (h' : l'.Pairwise (fun a b => compare a.1 b.1 = .lt))
    (heq : ∀ k, lookup k l = lookup k l') : l = l' := by
  induction l generalizing l' with
  | nil =>
    cases l' with
    | nil => rfl
    | cons e rest => simpa [lookup] using heq e.1
  | cons e rest ih =>
    cases l' with
    | nil => simpa [lookup] using heq e.1
    | cons e' rest' =>
      obtain ⟨k, v⟩ := e
      obtain ⟨k', v'⟩ := e'
      obtain ⟨hk, hrest⟩ := List.pairwise_cons.1 h
      obtain ⟨hk', hrest'⟩ := List.pairwise_cons.1 h'
      have below {a b : κ} {t : List (κ × ν)} (hab : compare a b = .lt)
          (ht : ∀ x ∈ t, compare b x.1 = .lt) (w : ν) : lookup a ((b, w) :: t) = none := by
        refine lookup_eq_none_of_lt fun x hx => ?_
        rcases List.mem_cons.1 hx with rfl | hx
        · exact hab
        · exact Std.TransCmp.lt_trans hab (ht x hx)
      have hkk : k = k' := by
        refine (Std.LawfulEqCmp.eq_of_compare : compare k k' = .eq → k = k') ?_
        cases hc : compare k k' with
        | lt =>
          have hnone := heq k
          rw [below hc hk' v'] at hnone
          simp [lookup] at hnone
        | eq => rfl
        | gt =>
          have hnone := heq k'
          rw [below (Std.OrientedCmp.lt_of_gt hc) hk v] at hnone
          simp [lookup] at hnone
      subst hkk
      have hv : v = v' := by simpa [lookup] using heq k
      subst hv
      refine congrArg _ (ih hrest hrest' fun x => ?_)
      by_cases hx : compare x k = .eq
      · have hxk : x = k := Std.LawfulEqCmp.eq_of_compare hx
        subst hxk
        rw [lookup_eq_none_of_lt hk, lookup_eq_none_of_lt hk']
      · simpa [lookup, hx] using heq x

/-- The look-ups of a map determine it. -/
theorem ext_get? {m m' : SortedMap κ ν} (h : ∀ k, m.get? k = m'.get? k) : m = m' :=
  ext (eq_of_lookup_eq m.sorted m'.sorted h)

/-- Erasing an entry and putting it back. -/
theorem insert_erase_self {m : SortedMap κ ν} {k : κ} {v : ν} (h : m.get? k = some v) :
    (m.erase k).insert k v = m := by
  apply ext_get?
  intro k'
  rw [get?_insert, get?_erase]
  by_cases hk : compare k' k = .eq
  · have e : k' = k := Std.LawfulEqCmp.eq_of_compare hk
    subst e
    simp [h]
  · have hk' : compare k k' ≠ .eq := fun e => hk (Std.OrientedCmp.eq_symm e)
    simp [hk, hk']

end Lookup

theorem get?_empty (k : κ) : (empty : SortedMap κ ν).get? k = none := rfl

/-! ### Entries -/

section Entries

variable [Std.LawfulEqOrd κ]

theorem mem_iff_lookup_eq_some {l : List (κ × ν)}
    (h : l.Pairwise (fun a b => compare a.1 b.1 = .lt)) {k : κ} {v : ν} :
    (k, v) ∈ l ↔ lookup k l = some v := by
  induction l with
  | nil => simp [lookup]
  | cons e rest ih =>
    obtain ⟨k₀, v₀⟩ := e
    obtain ⟨hhead, htail⟩ := List.pairwise_cons.1 h
    rw [lookup]
    split
    · next heq =>
      have hk : k = k₀ := Std.LawfulEqCmp.eq_of_compare heq
      subst hk
      have hout : (k, v) ∉ rest := fun hm => by
        have hlt := hhead _ hm
        rw [heq] at hlt
        cases hlt
      simp [hout, eq_comm]
    · next hne =>
      have hk : k ≠ k₀ := fun e => hne (by rw [e]; exact Std.ReflCmp.compare_self)
      simp [hk, ih htail]

/-- The entries of a map are its look-ups. -/
theorem mem_entries_iff {m : SortedMap κ ν} {k : κ} {v : ν} :
    (k, v) ∈ m.entries ↔ m.get? k = some v :=
  mem_iff_lookup_eq_some m.sorted

theorem nodup_keys (m : SortedMap κ ν) : m.keys.Nodup := by
  rw [keys, List.Nodup, List.pairwise_map]
  refine m.sorted.imp ?_
  intro a b hlt heq
  have hself : compare b.1 b.1 = .eq := Std.ReflCmp.compare_self
  rw [heq, hself] at hlt
  cases hlt

theorem mem_keys_iff {m : SortedMap κ ν} {k : κ} : k ∈ m.keys ↔ m.contains k = true := by
  simp only [keys, contains, List.mem_map, Option.isSome_iff_exists, ← mem_entries_iff]
  constructor
  · rintro ⟨⟨k', v⟩, hmem, rfl⟩
    exact ⟨v, hmem⟩
  · rintro ⟨v, hmem⟩
    exact ⟨(k, v), hmem, rfl⟩

theorem mem_keys_iff_get? {m : SortedMap κ ν} {k : κ} : k ∈ m.keys ↔ ∃ v, m.get? k = some v := by
  rw [mem_keys_iff, contains, Option.isSome_iff_exists]

theorem mem_values_iff {m : SortedMap κ ν} {v : ν} : v ∈ m.values ↔ ∃ k, m.get? k = some v := by
  simp only [values, List.mem_map, ← mem_entries_iff]
  constructor
  · rintro ⟨⟨k, v'⟩, hmem, rfl⟩
    exact ⟨k, hmem⟩
  · rintro ⟨k, hmem⟩
    exact ⟨(k, v), hmem, rfl⟩

theorem get?_filter (m : SortedMap κ ν) (p : κ → ν → Bool) (k : κ) :
    (m.filter p).get? k = (m.get? k).filter (p k) := by
  apply Option.ext
  intro v
  rw [← mem_entries_iff, Option.filter_eq_some_iff, ← mem_entries_iff]
  simp [filter]

theorem mem_keys_filter {m : SortedMap κ ν} {p : κ → ν → Bool} {k : κ} :
    k ∈ (m.filter p).keys ↔ ∃ v, m.get? k = some v ∧ p k v = true := by
  simp only [mem_keys_iff_get?, get?_filter, Option.filter_eq_some_iff]

theorem get?_filter_of_forall (m : SortedMap κ ν) {p : κ → ν → Bool} {k : κ}
    (h : ∀ v, p k v = true) : (m.filter p).get? k = m.get? k := by
  rw [get?_filter]
  cases m.get? k with
  | none => rfl
  | some v => simp [h]

theorem mem_keys_insert [Std.TransOrd κ] {m : SortedMap κ ν} {k k' : κ} {v : ν} :
    k' ∈ (m.insert k v).keys ↔ k' = k ∨ k' ∈ m.keys := by
  rw [mem_keys_iff, mem_keys_iff, contains, contains, get?_insert]
  by_cases h : k' = k
  · subst h
    simp
  · have hne : compare k' k ≠ .eq := fun e => h (Std.LawfulEqCmp.eq_of_compare e)
    simp [h, hne]

end Entries

end SortedMap

end AlertRouter

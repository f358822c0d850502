import AlertRouter.Doc.Nested
import AlertRouter.Proofs.Outcome

/-! # Reading back what was written

`Codec.reread` writes a value and reads the document.  For the codecs of single values it says at
once what comes back.

A record is written and read field by field, and a field that is left out when writing keeps the
value of the `blank` when reading.  So a record is reread by rereading its fields one after another,
starting from the blank (`Schema.codec_reread`): the entries find their fields by name, none comes
twice, and all required ones are there.  Entries of other names do not matter
(`Schema.read_writeFields_append`).  To reread a field that is left out is to reread its value
whenever leaving it out agrees with the blank (`Field.omitting_reread`). -/

namespace AlertRouter

/-! ### Values -/

namespace Codec

variable {α : Type} {c : Codec α}

/-- What is read when a value has been written. -/
def reread (c : Codec α) (x : α) : Except DecodeError α := c.read (c.write x)

@[simp] theorem text_reread (s : String) : text.reread s = .ok s := rfl

@[simp] theorem flag_reread (b : Bool) : flag.reread b = .ok b := rfl

@[simp] theorem natural_reread {n : Nat} (h : n ≤ maxNatural) : natural.reread n = .ok n := by
  show (if 0 ≤ (n : Int) ∧ (n : Int) ≤ maxNatural then Except.ok (n : Int).toNat else _) = _
  rw [if_pos ⟨Int.natCast_nonneg n, Int.ofNat_le.mpr h⟩, Int.toNat_natCast]

theorem parsed_reread {expected : String} {parse : String → Except String α} {print : α → String}
    {x y : α} (h : parse (print x) = .ok y) : (parsed expected parse print).reread x = .ok y := by
  show (parse (print x)).mapError DecodeError.rejected = .ok y
  rw [h]
  rfl

/-- The codec never writes what stands for an absent value. -/
def Solid (c : Codec α) : Prop := ∀ x, c.write x ≠ .null ∧ ∀ s, c.write x ≠ .plain s

theorem flag_solid : flag.Solid := by simp [Solid, flag]

theorem natural_solid : natural.Solid := by simp [Solid, natural, Doc.nat]

@[simp] theorem optional_reread_none : c.optional.reread none = .ok none := rfl

theorem optional_reread_some (hc : c.Solid) (x : α) :
    c.optional.reread (some x) = (c.reread x).map some := by
  show c.optional.read (c.write x) = _
  obtain ⟨hnull, hplain⟩ := hc x
  unfold optional
  cases hd : c.write x with
  | null => exact absurd hd hnull
  | plain s => exact absurd hd (hplain s)
  | _ => simp only [reread, hd]

theorem optional_reread (hc : c.Solid) {f : α → α} {o : Option α}
    (h : ∀ x ∈ o, c.reread x = .ok (f x)) : c.optional.reread o = .ok (o.map f) := by
  cases o with
  | none => rfl
  | some x => rw [optional_reread_some hc, h x rfl, Option.map_some, Except.ok_map]

theorem optional_reread_self (hc : c.Solid) {o : Option α} (h : ∀ x ∈ o, c.reread x = .ok x) :
    c.optional.reread o = .ok o := by
  rw [optional_reread hc (f := id) h, Option.map_id]
  rfl

@[simp] theorem optional_flag_reread (o : Option Bool) : flag.optional.reread o = .ok o :=
  optional_reread_self flag_solid fun b _ => flag_reread b

@[simp] theorem optional_natural_reread {o : Option Nat} (h : ∀ n ∈ o, n ≤ maxNatural) :
    natural.optional.reread o = .ok o :=
  optional_reread_self natural_solid fun n hn => natural_reread (h n hn)

theorem list_reread {f : α → α} {xs : List α} (h : ∀ x ∈ xs, c.reread x = .ok (f x)) :
    c.list.reread xs = .ok (xs.map f) := by
  show (xs.map c.write).mapM c.read = _
  rw [Except.mapM_eq_ok_iff, List.map_map, List.map_map]
  exact List.map_congr_left h

theorem list_reread_self {xs : List α} (h : ∀ x ∈ xs, c.reread x = .ok x) :
    c.list.reread xs = .ok xs := by
  rw [list_reread (f := id) h, List.map_id]

@[simp] theorem list_text_reread (xs : List String) : text.list.reread xs = .ok xs :=
  list_reread_self fun s _ => text_reread s

end Codec

/-! ### Maps -/

namespace SortedMap

variable {κ ν : Type} [Ord κ]

/-- A key above all others is inserted at the end. -/
theorem insertEntry_of_forall_lt [Std.TransOrd κ] {k : κ} {v : ν} {l : List (κ × ν)}
    (h : ∀ e ∈ l, compare e.1 k = .lt) : insertEntry k v l = l ++ [(k, v)] := by
  induction l with
  | nil => rfl
  | cons e l ih =>
      obtain ⟨he, hl⟩ := List.forall_mem_cons.mp h
      rw [insertEntry, Std.OrientedCmp.gt_of_lt he, ih hl, List.cons_append]

theorem entries_foldl_insert [Std.TransOrd κ] {l : List (κ × ν)} {m : SortedMap κ ν}
    (h : (m.entries ++ l).Pairwise fun a b => compare a.1 b.1 = .lt) :
    (l.foldl (fun m e => m.insert e.1 e.2) m).entries = m.entries ++ l := by
  induction l generalizing m with
  | nil => simp
  | cons e l ih =>
      have hinsert : (m.insert e.1 e.2).entries = m.entries ++ [e] :=
        insertEntry_of_forall_lt fun a ha => (List.pairwise_append.mp h).2.2 a ha e (by simp)
      have happend : (m.insert e.1 e.2).entries ++ l = m.entries ++ e :: l := by
        rw [hinsert, List.append_assoc, List.singleton_append]
      rw [List.foldl_cons, ih (by rwa [happend]), happend]

/-- A map is made of its entries. -/
theorem ofList_entries [Std.TransOrd κ] (m : SortedMap κ ν) : ofList m.entries = m :=
  ext (entries_foldl_insert (m := empty) m.sorted)

@[simp] theorem isEmpty_iff {m : SortedMap κ ν} : m.isEmpty = true ↔ m = empty := by
  unfold isEmpty
  rw [List.isEmpty_iff]
  exact ⟨fun h => ext h, fun h => by rw [h]; rfl⟩

end SortedMap

namespace Codec

@[simp] theorem map_text_reread (m : SortedMap String String) : (map text).reread m = .ok m := by
  have hentries : (m.entries.map fun e => (e.1, text.write e.2)).mapM
      (fun f => (text.read f.2).map fun x => (f.1, x)) = .ok m.entries := by
    rw [Except.mapM_eq_ok_iff, List.map_map]
    rfl
  show Except.map SortedMap.ofList (List.mapM _ _) = .ok m
  rw [hentries, Except.ok_map, SortedMap.ofList_entries]

end Codec

/-! ### Fields -/

namespace Field

variable {σ α : Type} {name : String} {c : Codec α} {set : α → σ → σ} {x y : σ}

/-- What the field makes of `y` when it is read as it was written of `x`. -/
def reread (f : Field σ) (x y : σ) : Except DecodeError σ :=
  match f.write x with
  | some d => (f.read d).map (· y)
  | none => .ok y

theorem map_map_reread {g : Except DecodeError α} : (g.map set).map (· y) = g.map (set · y) := by
  cases g <;> rfl

@[simp] theorem must_reread {get : σ → α} :
    (must name c get set).reread x y = (c.reread (get x)).map (set · y) := map_map_reread

@[simp] theorem may_reread {get : σ → α} :
    (may name c get set).reread x y = (c.reread (get x)).map (set · y) := map_map_reread

/-- A field may be left out when its value is one that the blank has anyway. -/
theorem omitting_reread {skip : α → Bool} {get : σ → α} {e : α}
    (hskip : ∀ a, skip a = true → a = e) (he : c.reread e = .ok e) (hset : set e y = y) :
    (omitting skip name c get set).reread x y = (c.reread (get x)).map (set · y) := by
  unfold omitting reread
  by_cases h : skip (get x) = true
  · simp only [h, if_true]
    rw [hskip _ h, he, Except.ok_map, hset]
  · simp only [h]
    exact map_map_reread

@[simp] theorem omitting_text_reread {get : σ → String} {set : String → σ → σ}
    (h : set "" y = y) :
    (omitting (· == "") name .text get set).reread x y = .ok (set (get x) y) :=
  omitting_reread (fun _ => eq_of_beq) rfl h

@[simp] theorem omitting_map_reread {get : σ → SortedMap String String}
    {set : SortedMap String String → σ → σ} (h : set .empty y = y) :
    (omitting (·.isEmpty) name (.map .text) get set).reread x y = .ok (set (get x) y) := by
  rw [omitting_reread (fun _ => SortedMap.isEmpty_iff.mp) (Codec.map_text_reread _) h,
    Codec.map_text_reread, Except.ok_map]

@[simp] theorem omitting_list_reread {get : σ → List α} {set : List α → σ → σ}
    (h : set [] y = y) : (omitting List.isEmpty name c.list get set).reread x y =
      (c.list.reread (get x)).map (set · y) :=
  omitting_reread (fun _ => List.isEmpty_iff.mp) rfl h

@[simp] theorem maybe_reread {get : σ → Option α} {set : Option α → σ → σ}
    (h : set none y = y) :
    (maybe name c get set).reread x y = (c.optional.reread (get x)).map (set · y) :=
  omitting_reread (fun _ => Option.isNone_iff_eq_none.mp) rfl h

/-- A value that is left out when it is absent comes back as the one that was there before. -/
theorem maybe_reread_or {get : σ → Option α} {set : Option α → σ → σ}
    (hvalue : c.optional.reread (get x) = .ok (get x)) (hset : set (get y) y = y) :
    (maybe name c get set).reread x y = .ok (set ((get x).or (get y)) y) := by
  cases hget : get x with
  | none =>
      show (omitting _ _ _ _ _).reread x y = _
      simp only [omitting, reread, hget, Option.isNone_none, if_true, Option.none_or, hset]
  | some v =>
      show (omitting _ _ _ _ _).reread x y = _
      simp only [omitting, reread, hget, Option.isNone_some, Bool.false_eq_true, if_false]
      rw [hget] at hvalue
      exact map_map_reread.trans (congrArg (Except.map _) hvalue)

/-- The field is always written if it has to be given. -/
def Complete (f : Field σ) : Prop := f.required = true → ∀ x, (f.write x).isSome = true

@[simp] theorem must_complete {get : σ → α} : (must name c get set).Complete := fun _ _ => rfl

@[simp] theorem may_complete {get : σ → α} : (may name c get set).Complete := nofun

@[simp] theorem omitting_complete {skip : α → Bool} {get : σ → α} :
    (omitting skip name c get set).Complete := nofun

@[simp] theorem maybe_complete {get : σ → Option α} {set : Option α → σ → σ} :
    (maybe name c get set).Complete := nofun

/-- Fields are read one after another as they were written of `x`. -/
def rereadAll (x : σ) (fs : List (Field σ)) (r : Except DecodeError σ) : Except DecodeError σ :=
  fs.foldl (fun r f => r.bind (f.reread x)) r

@[simp] theorem rereadAll_nil (r : Except DecodeError σ) : rereadAll x [] r = r := rfl

@[simp] theorem rereadAll_cons (f : Field σ) (fs : List (Field σ)) (r : Except DecodeError σ) :
    rereadAll x (f :: fs) r = rereadAll x fs (r.bind (f.reread x)) := rfl

theorem rereadAll_error (fs : List (Field σ)) (e : DecodeError) :
    rereadAll x fs (.error e) = .error e := by
  induction fs with
  | nil => rfl
  | cons f fs ih => exact ih

end Field

/-! ### Records -/

namespace Schema

variable {σ : Type} {s : Schema σ} {x : σ}

/-- What is read when a record has been written: its fields are reread one after another. -/
def reread (s : Schema σ) (x : σ) : Except DecodeError σ :=
  Field.rereadAll x s.fields (.ok s.blank)

/-- No two fields have one name, and required fields are always written. -/
structure Orderly (s : Schema σ) : Prop where
  distinct : (s.fields.map (·.name)).Nodup
  complete : ∀ f ∈ s.fields, f.Complete

theorem find?_eq_of_mem {fs : List (Field σ)} (hdistinct : (fs.map (·.name)).Nodup) {f : Field σ}
    (hf : f ∈ fs) : fs.find? (·.name == f.name) = some f := by
  induction fs with
  | nil => cases hf
  | cons g fs ih =>
      rw [List.map_cons, List.nodup_cons] at hdistinct
      rcases List.mem_cons.mp hf with rfl | hf
      · rw [List.find?_cons_of_pos (by simp)]
      · have hne : g.name ≠ f.name := fun e => hdistinct.1 (e ▸ List.mem_map_of_mem hf)
        rw [List.find?_cons_of_neg (by simpa using hne)]
        exact ih hdistinct.2 hf

/-- The entries of some fields are read as the fields are reread, and their names are seen. -/
theorem readEntries_filterMap {fs : List (Field σ)} {seen : List String} {y : σ}
    (hfind : ∀ f ∈ fs, s.fields.find? (·.name == f.name) = some f)
    (hdistinct : (fs.map (·.name)).Nodup) (hseen : ∀ f ∈ fs, f.name ∉ seen)
    (extra : List (String × Doc)) :
    s.readEntries ((fs.filterMap fun f => (f.write x).map fun d => (f.name, d)) ++ extra) seen y =
      (Field.rereadAll x fs (.ok y)).bind fun z =>
        s.readEntries extra
          (((fs.filter fun f => (f.write x).isSome).map (·.name)).reverse ++ seen) z := by
  induction fs generalizing seen y with
  | nil => rfl
  | cons f fs ih =>
      obtain ⟨hf, hfind⟩ := List.forall_mem_cons.mp hfind
      obtain ⟨hunseen, hseen⟩ := List.forall_mem_cons.mp hseen
      rw [List.map_cons, List.nodup_cons] at hdistinct
      obtain ⟨hname, hdistinct⟩ := hdistinct
      rw [Field.rereadAll_cons, Except.ok_bind]
      cases hwrite : f.write x with
      | none =>
          have hreread : f.reread x y = .ok y := by simp only [Field.reread, hwrite]
          rw [List.filterMap_cons_none (by rw [hwrite]; rfl), hreread,
            List.filter_cons_of_neg (by simp [hwrite])]
          exact ih hfind hdistinct hseen
      | some d =>
          have hreread : f.reread x y = (f.read d).map (· y) := by simp only [Field.reread, hwrite]
          rw [List.filterMap_cons_some (by rw [hwrite]; rfl), hreread,
            List.filter_cons_of_pos (by simp [hwrite]), List.cons_append, readEntries, hf]
          simp only [if_neg hunseen]
          cases f.read d with
          | error e => exact (congrArg (Except.bind · _) (Field.rereadAll_error fs e)).symm
          | ok change =>
              have hcons : ∀ g ∈ fs, g.name ∉ f.name :: seen := by
                intro g hg hmem
                rcases List.mem_cons.mp hmem with he | hmem
                · exact hname (he ▸ List.mem_map_of_mem hg)
                · exact hseen g hg hmem
              rw [Except.ok_bind, ih hfind hdistinct hcons, List.map_cons, List.reverse_cons,
                List.append_assoc, List.singleton_append]
              rfl

/-- Entries of other names are passed over. -/
theorem readEntries_of_unknown {extra : List (String × Doc)} {seen : List String} {y : σ}
    (h : ∀ e ∈ extra, ∀ f ∈ s.fields, f.name ≠ e.1) :
    s.readEntries extra seen y = .ok (seen, y) := by
  induction extra with
  | nil => rfl
  | cons e extra ih =>
      obtain ⟨he, hextra⟩ := List.forall_mem_cons.mp h
      have hfind : s.fields.find? (·.name == e.1) = none :=
        List.find?_eq_none.mpr fun f hf => by simpa using he f hf
      rw [readEntries, hfind]
      exact ih hextra

/-- **A written record is read field by field**, whatever entries of other names follow. -/
theorem read_writeFields_append (hs : s.Orderly) {extra : List (String × Doc)}
    (h : ∀ e ∈ extra, ∀ f ∈ s.fields, f.name ≠ e.1) :
    s.read (.record (s.writeFields x ++ extra)) = s.reread x := by
  have hmissing : s.missing?
      (((s.fields.filter fun f => (f.write x).isSome).map (·.name)).reverse ++ []) = none := by
    unfold missing?
    rw [Option.map_eq_none_iff, List.find?_eq_none]
    intro f hf hmissing
    simp only [List.append_nil, Bool.and_eq_true, Bool.not_eq_true', List.contains_reverse]
      at hmissing
    have hwritten := hmissing.2
    rw [← Bool.not_eq_true, List.contains_iff_mem] at hwritten
    exact hwritten (List.mem_map_of_mem (List.mem_filter.mpr ⟨hf, hs.complete f hf hmissing.1 x⟩))
  show s.readRecord _ = _
  unfold readRecord writeFields
  rw [readEntries_filterMap (fun f => find?_eq_of_mem hs.distinct) hs.distinct (by simp)]
  simp only [readEntries_of_unknown h]
  unfold reread
  cases Field.rereadAll x s.fields (.ok s.blank) with
  | error e => rfl
  | ok y =>
      simp only [Except.ok_bind, hmissing]

theorem codec_reread (hs : s.Orderly) (x : σ) : s.codec.reread x = s.reread x := by
  have h : s.read (.record (s.writeFields x ++ [])) = s.reread x :=
    read_writeFields_append hs (by simp)
  rwa [List.append_nil] at h

end Schema

/-! ### Nested types -/

namespace Doc

variable {d : Doc}

theorem depth_le_depthItems {ds : List Doc} (h : d ∈ ds) : d.depth ≤ depthItems ds := by
  induction ds with
  | nil => cases h
  | cons e ds ih =>
      rw [depthItems]
      rcases List.mem_cons.mp h with rfl | h
      · exact Nat.le_max_left ..
      · exact Nat.le_trans (ih h) (Nat.le_max_right ..)

theorem depth_le_depthFields {es : List (String × Doc)} {name : String} (h : (name, d) ∈ es) :
    d.depth ≤ depthFields es := by
  induction es with
  | nil => cases h
  | cons e es ih =>
      obtain ⟨name', d'⟩ := e
      rw [depthFields]
      rcases List.mem_cons.mp h with he | h
      · cases he
        exact Nat.le_max_left ..
      · exact Nat.le_trans (ih h) (Nat.le_max_right ..)

theorem depthItems_le {n : Nat} {items : List Doc} (h : ∀ d ∈ items, d.depth ≤ n) :
    depthItems items ≤ n := by
  induction items with
  | nil => exact Nat.zero_le n
  | cons d items ih =>
      obtain ⟨hd, hitems⟩ := List.forall_mem_cons.mp h
      exact Nat.max_le.mpr ⟨hd, ih hitems⟩

theorem depthFields_le {n : Nat} {fields : List (String × Doc)} (h : ∀ e ∈ fields, e.2.depth ≤ n) :
    depthFields fields ≤ n := by
  induction fields with
  | nil => exact Nat.zero_le n
  | cons e fields ih =>
      obtain ⟨he, hfields⟩ := List.forall_mem_cons.mp h
      exact Nat.max_le.mpr ⟨he, ih hfields⟩

theorem one_le_depth (d : Doc) : 1 ≤ d.depth := by
  cases d <;> simp [depth]

end Doc

namespace Codec

variable {α : Type}

/-- A value of a nested type comes back if it does so at all levels from its own on, where it is
always written in the same way, and if its document has no fewer levels. -/
theorem nested_reread {step : Codec α → Codec α} {depth : α → Nat} {x y : α}
    (hwrite : ∀ n, depth x ≤ n → (level step n).write x = (nested step depth).write x)
    (hdepth : depth x ≤ ((nested step depth).write x).depth)
    (h : ∀ n, depth x ≤ n → (level step n).reread x = .ok y) :
    (nested step depth).reread x = .ok y := by
  have hreread := h _ hdepth
  rwa [reread, hwrite _ hdepth] at hreread

end Codec

end AlertRouter

import AlertRouter.Alert.Basic
import AlertRouter.Proofs.Json.RoundTrip
import AlertRouter.Proofs.Time.Rfc3339
import AlertRouter.Silence.Basic

/-! # Alerts and silences as texts

Posted and stored alerts, silences and their stored form are written as JSON and read back from it
(`Json.alerts_and_silences_come_back`).  Each of them is a record that comes back field by field
(`Alert.reread` and its siblings): labels and annotations as maps, times as texts
(`Rfc3339.reread`), matchers as records of their own.  What is written has few levels and nothing
but texts, flags, lists and records in it (`Json.Writes`), so its JSON text is read
(`Json.decode_render`).

The state of a silence is an entry that is no field, so it is passed over when the silence is
read. -/

namespace AlertRouter

/-! ### Single values -/

namespace Rfc3339

variable {t : Instant}

theorem solid : codec.Solid := by simp [Codec.Solid, codec, Codec.parsed]

@[simp] theorem reread (h : t.Dated) : codec.reread t = .ok t := by
  refine Codec.parsed_reread ?_
  rw [parse?_print h]

@[simp] theorem optional_reread {o : Option Instant} (h : ∀ t ∈ o, t.Dated) :
    codec.optional.reread o = .ok o :=
  Codec.optional_reread_self solid fun t ht => reread (h t ht)

end Rfc3339

/-! ### Alerts -/

namespace Alert

/-- The times of the alert can be written as texts. -/
structure Dated (a : Alert) : Prop where
  startsAt : a.startsAt.Dated
  endsAt : a.endsAt.Dated
  updatedAt : a.updatedAt.Dated

theorem orderly : schema.Orderly := ⟨by decide, by simp [schema]⟩

theorem reread {a : Alert} (h : a.Dated) : schema.codec.reread a = .ok a := by
  obtain ⟨hstart, hend, hupdate⟩ := h
  rw [Schema.codec_reread orderly]
  simp [Schema.reread, schema, LabelSet.codec, hstart, hend, hupdate, Except.ok_map]

theorem writes_schema : Json.Writes schema.codec 3 :=
  Json.writes_schema (by simp [schema, LabelSet.codec, Rfc3339.codec])

namespace Posted

/-- The times of the alert, where it has them, can be written as texts. -/
structure Dated (p : Posted) : Prop where
  startsAt : ∀ t ∈ p.startsAt, t.Dated
  endsAt : ∀ t ∈ p.endsAt, t.Dated

theorem orderly : schema.Orderly := ⟨by decide, by simp [schema]⟩

theorem reread {p : Posted} (h : p.Dated) : schema.codec.reread p = .ok p := by
  have hstart := Rfc3339.optional_reread h.startsAt
  have hend := Rfc3339.optional_reread h.endsAt
  have hblank : (default : Posted) = ⟨.empty, .empty, none, none, ""⟩ := rfl
  rw [Schema.codec_reread orderly]
  simp [Schema.reread, schema, LabelSet.codec, hblank, hstart, hend, Except.ok_map]

theorem writes_schema : Json.Writes schema.codec 3 :=
  Json.writes_schema (by simp [schema, LabelSet.codec, Rfc3339.codec])

end Posted

end Alert

/-! ### Matchers -/

theorem Comparison.reread (c : Comparison) : codec.reread c = .ok c := by cases c <;> rfl

namespace Matcher

theorem Wire.orderly : Wire.schema.Orderly := ⟨by decide, by simp [schema]⟩

theorem Wire.reread (w : Wire) : Wire.schema.codec.reread w = .ok w := by
  rw [Schema.codec_reread orderly]
  simp [Schema.reread, schema, Except.ok_map]

theorem matcher_ofMatcher (m : Matcher) : (Wire.ofMatcher m).matcher = .ok m := by
  show (ofComparison m.comparison m.name m.value).mapError _ = _
  rw [ofComparison_comparison]
  rfl

theorem reread (m : Matcher) : codec.reread m = .ok m := by
  show (Wire.schema.codec.reread (.ofMatcher m)).bind
    (fun w => w.matcher.mapError fun e => .rejected e.message) = .ok m
  rw [Wire.reread, Except.ok_bind, matcher_ofMatcher]
  rfl

theorem writes_codec : Json.Writes codec 2 := fun m =>
  Json.writes_schema (s := Wire.schema) (by simp [Wire.schema]) (.ofMatcher m)

end Matcher

/-! ### Silences -/

namespace MatcherRecord

theorem orderly : schema.Orderly := ⟨by decide, by simp [schema]⟩

theorem reread (m : MatcherRecord) : schema.codec.reread m = .ok m := by
  rw [Schema.codec_reread orderly]
  simp [Schema.reread, schema, Comparison.reread, Except.ok_map]

theorem writes_schema : Json.Writes schema.codec 2 :=
  Json.writes_schema (by simp [schema, Comparison.codec])

end MatcherRecord

namespace SilenceRecord

/-- The times of the record can be written as texts. -/
structure Dated (r : SilenceRecord) : Prop where
  startsAt : r.startsAt.Dated
  endsAt : r.endsAt.Dated
  updatedAt : r.updatedAt.Dated

theorem orderly : schema.Orderly := ⟨by decide, by simp [schema]⟩

theorem reread {r : SilenceRecord} (h : r.Dated) : schema.codec.reread r = .ok r := by
  obtain ⟨hstart, hend, hupdate⟩ := h
  have hmatchers := Codec.list_reread_self fun m (_ : m ∈ r.matchers) => m.reread
  rw [Schema.codec_reread orderly]
  simp [Schema.reread, schema, hmatchers, hstart, hend, hupdate, Except.ok_map]

theorem writes_schema : Json.Writes schema.codec 4 :=
  Json.writes_schema
    (by simp [schema, Rfc3339.codec, Json.writes_list MatcherRecord.writes_schema])

end SilenceRecord

namespace Silence

/-- The times of the silence can be written as texts. -/
structure Dated (s : Silence) : Prop where
  startsAt : s.startsAt.Dated
  endsAt : s.endsAt.Dated
  updatedAt : s.updatedAt.Dated

variable {now : Instant}

theorem orderly : (schema now).Orderly :=
  ⟨by simp [schema, Field.must, Field.may], by simp [schema]⟩

/-- The state is no field that is read. -/
theorem reread {s : Silence} (h : s.Dated) :
    (codec now).reread s = .ok { s with state := none } := by
  obtain ⟨hstart, hend, hupdate⟩ := h
  have hmatchers := Codec.list_reread_self fun m (_ : m ∈ s.matchers) => m.reread
  have hstatus : ∀ e ∈ s.state.toList.map (fun state => ("status", statusDoc state)),
      ∀ f ∈ (schema now).fields, f.name ≠ e.1 := by
    simp [schema, Field.must, Field.may]
  show (schema now).read (.record ((schema now).writeFields s ++ _)) = _
  rw [Schema.read_writeFields_append orderly hstatus]
  simp [Schema.reread, schema, hmatchers, hstart, hend, hupdate, Except.ok_map]

theorem writes_codec : Json.Writes (codec now) 4 := by
  intro s
  have hentries : ∀ e ∈ (schema now).writeFields s ++
      s.state.toList.map (fun state => ("status", statusDoc state)),
      Json.Exact e.2 ∧ e.2.depth ≤ 3 := by
    intro e he
    rcases List.mem_append.mp he with he | he
    · refine Json.exact_writeFields ?_ s e he
      simp [schema, Rfc3339.codec, Json.writes_list Matcher.writes_codec]
    · obtain ⟨state, -, rfl⟩ := List.mem_map.mp he
      refine ⟨.record (List.forall_mem_singleton.mpr (.text _)), ?_⟩
      simp [statusDoc, Doc.depth, Doc.depthFields]
  exact ⟨.record fun e he => (hentries e he).1,
    Nat.succ_le_succ (Doc.depthFields_le fun e he => (hentries e he).2)⟩

end Silence

/-! ### Texts -/

/-- **Alerts and silences come back from their JSON texts**, all but the state of a silence.  A
silence carries the comparison of a matcher as two flags, a record carries it as a name. -/
theorem Json.alerts_and_silences_come_back :
    (∀ p : Alert.Posted, p.Dated →
      decode Alert.Posted.schema.codec (render (Alert.Posted.schema.codec.write p)) = .ok p) ∧
    (∀ a : Alert, a.Dated →
      decode Alert.schema.codec (render (Alert.schema.codec.write a)) = .ok a) ∧
    (∀ r : SilenceRecord, r.Dated →
      decode SilenceRecord.schema.codec (render (SilenceRecord.schema.codec.write r)) = .ok r) ∧
    (∀ (s : Silence) (now later : Instant), s.Dated →
      decode (Silence.codec later) (render ((Silence.codec now).write s)) =
        .ok { s with state := none }) ∧
    (∀ m : Matcher,
      (Matcher.codec.write m).field? "isRegex" = some (.bool m.comparison.isRegex) ∧
      (Matcher.codec.write m).field? "isEqual" = some (.bool !m.comparison.isNegative)) ∧
    ∀ m : MatcherRecord,
      (MatcherRecord.schema.codec.write m).field? "type" = some (.text m.comparison.name) := by
  refine ⟨?_, ?_, ?_, ?_, ?_, ?_⟩
  · exact fun p h => decode_render Alert.Posted.writes_schema (by decide) (Alert.Posted.reread h)
  · exact fun a h => decode_render Alert.writes_schema (by decide) (Alert.reread h)
  · exact fun r h => decode_render SilenceRecord.writes_schema (by decide) (SilenceRecord.reread h)
  · intro s now later h
    have hwrite : (Silence.codec now).write s = (Silence.codec later).write s := rfl
    rw [hwrite]
    exact decode_render Silence.writes_codec (by decide) (Silence.reread h)
  · rintro ⟨name, negated, subject⟩
    cases subject <;> cases negated <;> exact ⟨rfl, rfl⟩
  · exact fun m => rfl

/-- Half a second into a leap second. -/
def Instant.inLeapSecond : Instant := ⟨1483228799, 1500000000⟩

theorem Instant.dated_inLeapSecond : inLeapSecond.Dated where
  first := by decide
  last := by decide
  nanos := by decide

/-- An alert without an end, and an active silence with a negated matcher for a quotation mark. -/
theorem Json.alerts_and_silences_come_back_leap_second :
    let p : Alert.Posted := ⟨.ofList [("job", "\n")], .empty, some .inLeapSecond, none, ""⟩
    let s : Silence := ⟨"id", [⟨"job", true, .text "\""⟩], .inLeapSecond, .inLeapSecond,
      .inLeapSecond, "ops", "", some .active⟩
    decode Alert.Posted.schema.codec (render (Alert.Posted.schema.codec.write p)) = .ok p ∧
    decode (Silence.codec default) (render ((Silence.codec default).write s)) =
      .ok { s with state := none } := by
  intro p s
  have hp : p.Dated := by
    refine ⟨?_, nofun⟩
    rintro t ⟨⟩
    exact Instant.dated_inLeapSecond
  have hs : s.Dated :=
    ⟨Instant.dated_inLeapSecond, Instant.dated_inLeapSecond, Instant.dated_inLeapSecond⟩
  obtain ⟨hposted, -, -, hsilence, -⟩ := alerts_and_silences_come_back
  exact ⟨hposted p hp, hsilence s default default hs⟩

end AlertRouter

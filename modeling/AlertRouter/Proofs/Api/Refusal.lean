import AlertRouter.Api.Server
import AlertRouter.Proofs.Alert.Stored
import AlertRouter.Proofs.Routing.Run
import AlertRouter.Silence.Store

/-! # Refused requests

An outcome of an operation `Keeps` the server if the server is as it was unless the request was
carried out.  The coordinator and the silence store change nothing if they refuse something, and a
body or a query is read before anything is changed.  So the outcome of any operation but one keeps
the server (`Server.keeps_run`), and operations that only show something never change it
(`Server.run_of_isReading`).

The exception is the taking in of alerts.  A batch of which some alerts are invalid is refused, yet
the others are stored, exactly as if they had been posted alone (`Server.postAlerts_filter`).

Together this is what a response that reports an error says about the server
(`Server.refused_unchanged`). -/

namespace AlertRouter

namespace Remote

variable {σ α : Type} {r : Remote σ} {f : σ → Except AlertError (α × σ)}

/-- A store changes only with success. -/
theorem change_of_error {e : AlertError} (h : (r.change f).1 = .error e) : (r.change f).2 = r := by
  unfold change at h ⊢
  split
  · next heq =>
      rw [heq] at h
      cases h
  · rfl

end Remote

namespace SilenceStore

variable {s : Remote SilenceStore} {silence : Silence} {now : Instant}

theorem create_of_error {e : AlertError} (h : (create s silence now).1 = .error e) :
    (create s silence now).2 = s := by
  unfold create createAs at h ⊢
  split
  · rfl
  · next heq =>
      rw [heq] at h
      exact Remote.change_of_error h

end SilenceStore

namespace Api

/-! ### Replies -/

namespace Reply

variable {reply : Reply} {mediaType : String}

theorem status_response_eq_iff : (reply.response mediaType).status = 200 ↔ reply.isOk = true := by
  cases reply with
  | failed e =>
      have hkind : e.kind.status ≠ 200 := by cases e.kind <;> decide
      simpa [response, json, isOk] using hkind
  | data _ | done | counters _ | repeatedParameter _ | illegibleId | bodyTooLong =>
      simp [response, json, isOk, Http.Response.text]

theorem eq_error_of_ofResult {α : Type} {c : Except AlertError α} {f : α → Doc}
    (h : (ofResult (c.map f)).isOk = false) : ∃ e, c = .error e := by
  cases c with
  | ok a => cases h
  | error e => exact ⟨e, rfl⟩

theorem eq_error_of_ofOutcome {α : Type} {c : Except AlertError α}
    (h : (ofOutcome c).isOk = false) : ∃ e, c = .error e := by
  cases c with
  | ok a => cases h
  | error e => exact ⟨e, rfl⟩

end Reply

/-! ### Which operation it is -/

namespace Operation

/-- Does the operation only show something? -/
def isReading : Operation → Bool
  | showStatus | listReceivers | listAlerts | listSilences | showSilence _ | showCounters => true
  | addReceiver | editReceiver | deleteReceiver => false
  | postAlerts | postSilence | expireSilence _ => false

end Operation

namespace Resource

variable {resource : Resource} {m : Http.Method} {op : Operation}

/-- What can be got is only shown. -/
theorem isReading_of_operation? (h : resource.operation? m = some op) (hm : m = .get ∨ m = .head) :
    op.isReading = true := by
  have hget : resource.operations.lookup .get = some op := by
    rcases hm with rfl | rfl <;> exact h
  cases resource <;> cases hget <;> rfl

/-- Alerts are taken in at one place and with one method only. -/
theorem posts_of_operation? (h : resource.operation? m = some .postAlerts) :
    resource = .alerts ∧ m = .post := by
  cases resource <;> cases m <;> first | exact ⟨rfl, rfl⟩ | cases h

theorem ofPath?_eq_alerts {path : String} (h : ofPath? path = some .alerts) :
    path = "/api/v1/alerts" := by
  unfold ofPath? at h
  grind [Option.map_eq_some_iff]

end Resource

namespace Server

variable {s : Server} {now : Instant} {r : Http.Request} {posted : List Alert.Posted}

/-! ### Operations that are not carried out -/

/-- The server is as it was, unless the request was carried out. -/
def Keeps (s : Server) (outcome : Reply × Server) : Prop := outcome.1.isOk = false → outcome.2 = s

theorem keeps_self (reply : Reply) : s.Keeps (reply, s) := fun _ => rfl

theorem keeps_reconfigure (request : ReconfigRequest) (content : Doc) :
    s.Keeps (s.reconfigure request content) := by
  intro h
  unfold reconfigure at h ⊢
  split
  · next heq =>
      rw [heq] at h
      cases h
  · next e c heq =>
      have hc : (s.coordinator.handle request).2 = s.coordinator :=
        Coordinator.handle_of_error (by rw [heq])
      rw [heq] at hc
      rw [show c = s.coordinator from hc]

theorem keeps_withBody {α : Type} {c : Codec α} {body : String} {f : α → Reply × Server}
    (hf : ∀ a, s.Keeps (f a)) : s.Keeps (s.withBody c body f) := by
  unfold withBody
  split
  · exact keeps_self _
  · split
    · exact hf _
    · exact keeps_self _

theorem keeps_postSilence (x : Silence) : s.Keeps (s.postSilence now x) := by
  intro h
  obtain ⟨e, he⟩ := Reply.eq_error_of_ofResult h
  have hsilences := SilenceStore.create_of_error he
  show { s with hub := { s.hub with silences := (SilenceStore.create s.hub.silences x now).2 } } = s
  rw [hsilences]

theorem keeps_expireSilence (id : String) : s.Keeps (s.expireSilence now id) := by
  intro h
  obtain ⟨e, he⟩ := Reply.eq_error_of_ofOutcome h
  have hsilences := Remote.change_of_error he
  show { s with hub := { s.hub with silences := (s.hub.silences.change _).2 } } = s
  rw [hsilences]

theorem withParameters_snd (known : List String) (query : String)
    (f : Parameters → Except AlertError Doc) : (s.withParameters known query f).2 = s := by
  simp only [withParameters]
  split <;> rfl

/-- What only shows something changes nothing. -/
theorem run_of_isReading {query body : String} {op : Operation} (hop : op.isReading = true) :
    (s.run now query body op).2 = s := by
  cases op with
  | showStatus | listReceivers | showCounters => rfl
  | listAlerts => exact withParameters_snd _ _ _
  | listSilences => exact withParameters_snd _ _ _
  | showSilence id =>
      simp only [run]
      split <;> rfl
  | addReceiver | editReceiver | deleteReceiver | postAlerts | postSilence | expireSilence _ =>
      cases hop

/-- **An operation that is not carried out changes nothing**, unless it takes in alerts. -/
theorem keeps_run {query body : String} {op : Operation} (hop : op ≠ .postAlerts) :
    s.Keeps (s.run now query body op) := by
  cases op with
  | showStatus | listReceivers | listAlerts | listSilences | showSilence _ | showCounters =>
      exact fun _ => run_of_isReading rfl
  | addReceiver | editReceiver | deleteReceiver =>
      exact keeps_withBody fun _ => keeps_reconfigure _ _
  | postSilence => exact keeps_withBody keeps_postSilence
  | expireSilence id =>
      simp only [run]
      split
      · exact keeps_expireSilence _
      · exact keeps_self _
  | postAlerts => exact absurd rfl hop

/-! ### Batches of alerts -/

/-- A posted alert in the form in which it is checked and stored. -/
def toStore (s : Server) (now : Instant) (p : Alert.Posted) : Alert :=
  (p.toAlert now s.snapshot.config.global.timeout).withoutEmptyLabels

/-- Does a posted alert pass the checks? -/
def accepts (s : Server) (now : Instant) (p : Alert.Posted) : Bool := (s.toStore now p).isValid

/-- The posted alerts, sorted. -/
def batch (s : Server) (now : Instant) (posted : List Alert.Posted) : Batch :=
  .ofPosted s.tally posted (now.addSeconds s.snapshot.config.global.timeout) now

/-- The alerts that are stored. -/
theorem valid_batch (s : Server) (now : Instant) (posted : List Alert.Posted) :
    (s.batch now posted).valid = (posted.filter (s.accepts now)).map (s.toStore now) := by
  unfold batch
  rw [Batch.valid_ofPosted, List.filter_map]
  rfl

theorem valid_batch_filter (s : Server) (now : Instant) (posted : List Alert.Posted) :
    (s.batch now (posted.filter (s.accepts now))).valid = (s.batch now posted).valid := by
  rw [valid_batch, valid_batch, List.filter_filter]
  simp only [Bool.and_self]

theorem errors_batch_filter (s : Server) (now : Instant) (posted : List Alert.Posted) :
    (s.batch now (posted.filter (s.accepts now))).errors = [] := by
  unfold batch
  rw [Batch.errors_ofPosted, List.filterMap_eq_nil_iff]
  intro a ha
  obtain ⟨p, hp, rfl⟩ := List.mem_map.mp ha
  have hvalid : (s.toStore now p).isValid = true := (List.mem_filter.mp hp).2
  rw [Alert.isValid_eq_isNone_refusal?] at hvalid
  exact Option.isNone_iff_eq_none.mp hvalid

/-- The server with a batch taken in. -/
def storing (s : Server) (b : Batch) : Server :=
  { s with hub := { s.hub with alerts := .up (s.hub.alerts.store.put b.valid) }, tally := b.tally }

theorem postAlerts_of_reach (h : s.hub.alerts.outage = none) :
    s.postAlerts now posted =
      (.ofOutcome (s.batch now posted).answer, s.storing (s.batch now posted)) := by
  unfold postAlerts Hub.ingest Remote.reach
  rw [h]
  rfl

theorem postAlerts_of_outage {reason : String} (h : s.hub.alerts.outage = some reason) :
    (s.postAlerts now posted).1 = .failed (.storage reason) := by
  unfold postAlerts Hub.ingest Remote.reach
  rw [h]
  rfl

/-- **The valid alerts of a refused batch are stored as if they had been posted alone**, which would
have been accepted. -/
theorem postAlerts_filter {mediaType : String}
    (h : ((s.postAlerts now posted).1.response mediaType).status = 400) :
    (s.postAlerts now posted).2 = s.storing (s.batch now posted) ∧
    (s.postAlerts now (posted.filter (s.accepts now))).1 = .done ∧
    (s.postAlerts now (posted.filter (s.accepts now))).2.hub =
      (s.postAlerts now posted).2.hub := by
  cases houtage : s.hub.alerts.outage with
  | some reason =>
      rw [postAlerts_of_outage houtage] at h
      cases h
  | none =>
      rw [postAlerts_of_reach houtage, postAlerts_of_reach houtage]
      refine ⟨rfl, ?_, ?_⟩
      · simp only [Batch.answer, errors_batch_filter]
        rfl
      · simp only [storing, valid_batch_filter]

/-! ### Requests -/

/-- Does the request post alerts? -/
def PostsAlerts (r : Http.Request) : Prop := r.method = .post ∧ r.path = "/api/v1/alerts"

/-- The alerts that a request brings, if its body can be read. -/
def posted? (r : Http.Request) : Option (List Alert.Posted) :=
  if bodyLimit < r.body.utf8ByteSize then none
  else (readBody (.list Alert.Posted.schema.codec) r.body).toOption

theorem respond_postsAlerts (h : PostsAlerts r) : s.respond now r =
    ((s.run now r.query r.body .postAlerts).1.response Tally.contentType,
      (s.run now r.query r.body .postAlerts).2) := by
  obtain ⟨method, path, query, body⟩ := r
  obtain ⟨rfl, rfl⟩ := h
  rfl

theorem respond_of_posted (h : PostsAlerts r) (hposted : posted? r = some posted) :
    s.respond now r =
      ((s.postAlerts now posted).1.response Tally.contentType, (s.postAlerts now posted).2) := by
  rw [respond_postsAlerts h]
  unfold posted? at hposted
  simp only [run, withBody]
  split at hposted
  · cases hposted
  · next hlimit =>
      rw [if_neg hlimit, Except.toOption_eq_some_iff.mp hposted]

theorem respond_of_unreadable (h : PostsAlerts r) (hposted : posted? r = none) :
    (s.respond now r).1.status ≠ 200 ∧ (s.respond now r).2 = s := by
  have hrun : (s.run now r.query r.body .postAlerts).1.isOk = false ∧
      (s.run now r.query r.body .postAlerts).2 = s := by
    unfold posted? at hposted
    simp only [run, withBody]
    split at hposted
    · next hlimit =>
        rw [if_pos hlimit]
        exact ⟨rfl, rfl⟩
    · next hlimit =>
        rw [if_neg hlimit]
        cases hread : readBody (.list Alert.Posted.schema.codec) r.body with
        | ok posted =>
            rw [hread] at hposted
            cases hposted
        | error e => exact ⟨rfl, rfl⟩
  rw [respond_postsAlerts h]
  refine ⟨?_, hrun.2⟩
  intro hstatus
  rw [Reply.status_response_eq_iff.mp hstatus] at hrun
  cases hrun.1

/-- A request is answered without doing anything, or with the outcome of an operation. -/
theorem respond_cases (s : Server) (now : Instant) (r : Http.Request) :
    (s.respond now r).2 = s ∨
    ∃ resource op, Resource.ofPath? r.path = some resource ∧
      resource.operation? r.method = some op ∧ r.method ≠ .options ∧
      (s.respond now r).1.status =
        ((s.run now r.query r.body op).1.response Tally.contentType).status ∧
      (s.respond now r).2 = (s.run now r.query r.body op).2 := by
  unfold respond
  cases hresource : Resource.ofPath? r.path with
  | none => exact .inl rfl
  | some resource =>
      by_cases hoptions : r.method = .options
      · exact .inl (by simp [hoptions])
      · cases hop : resource.operation? r.method with
        | none => exact .inl (by simp [hoptions, hop])
        | some op =>
            refine .inr ⟨resource, op, rfl, hop, hoptions, ?_, ?_⟩
            · simp only [if_neg hoptions, hop]
              split <;> rfl
            · simp only [if_neg hoptions, hop]

/-- Asking changes nothing, whatever the answer. -/
theorem respond_of_asking (h : r.method = .get ∨ r.method = .head ∨ r.method = .options) :
    (s.respond now r).2 = s := by
  rcases s.respond_cases now r with hsame | ⟨resource, op, -, hop, hoptions, -, hserver⟩
  · exact hsame
  · have hget : r.method = .get ∨ r.method = .head :=
      or_assoc.mpr h |>.resolve_right hoptions
    rw [hserver]
    exact run_of_isReading (Resource.isReading_of_operation? hop hget)

theorem respond_of_refused (h : ¬ PostsAlerts r) (hstatus : (s.respond now r).1.status ≠ 200) :
    (s.respond now r).2 = s := by
  rcases s.respond_cases now r with hsame | ⟨resource, op, hresource, hop, -, houtcome, hserver⟩
  · exact hsame
  · rw [hserver]
    refine keeps_run ?_ ?_
    · rintro rfl
      obtain ⟨rfl, hmethod⟩ := Resource.posts_of_operation? hop
      exact h ⟨hmethod, Resource.ofPath?_eq_alerts hresource⟩
    · rw [houtcome, ne_eq, Reply.status_response_eq_iff, Bool.not_eq_true] at hstatus
      exact hstatus

/-- **A response that reports an error says that nothing has changed.**  This holds of every request
but one that posts alerts, and of asking in any case.  Posted alerts that cannot be read change
nothing either.  If they can be read and are refused as bad data, then the valid ones are put into
the store, just as if they had been posted alone, which would have been accepted; all else is as it
was, but for the counters. -/
theorem refused_unchanged (s : Server) (now : Instant) (r : Http.Request) :
    (r.method = .get ∨ r.method = .head ∨ r.method = .options → (s.respond now r).2 = s) ∧
    (¬ PostsAlerts r → (s.respond now r).1.status ≠ 200 → (s.respond now r).2 = s) ∧
    (PostsAlerts r → posted? r = none →
      (s.respond now r).1.status ≠ 200 ∧ (s.respond now r).2 = s) ∧
    ∀ posted, PostsAlerts r → posted? r = some posted → (s.respond now r).1.status = 400 →
      let valid := posted.filter (s.accepts now)
      let alerts := s.hub.alerts.store.put (valid.map (s.toStore now))
      (s.respond now r).2 =
        { s with hub := { s.hub with alerts := .up alerts }, tally := (s.respond now r).2.tally } ∧
      (s.postAlerts now valid).1 = .done ∧
      (s.postAlerts now valid).2.hub = (s.respond now r).2.hub ∧
      ∀ r', PostsAlerts r' → posted? r' = some valid → (s.respond now r').1.status = 200 ∧
        (s.respond now r').2.hub = (s.respond now r).2.hub := by
  refine ⟨respond_of_asking, respond_of_refused, respond_of_unreadable, ?_⟩
  intro posted hposts hposted hstatus valid alerts
  rw [respond_of_posted hposts hposted] at hstatus ⊢
  obtain ⟨hserver, hdone, hsame⟩ := postAlerts_filter hstatus
  refine ⟨?_, hdone, hsame, ?_⟩
  · rw [hserver, storing, valid_batch]
  · intro r' hposts' hposted'
    rw [respond_of_posted hposts' hposted', hdone]
    exact ⟨rfl, hsame⟩

/-- The request that posts these alerts. -/
def posting (posted : List Alert.Posted) : Http.Request :=
  ⟨.post, "/api/v1/alerts", "", Json.render ((Codec.list Alert.Posted.schema.codec).write posted)⟩

/-- At a new server: of two alerts the one without labels is refused and the other one is stored,
while an alert in place of a batch and the deletion of an unknown receiver change nothing. -/
theorem refused_unchanged_mixed_batch : ∃ s p single unknown,
    Server.start (.ofReceiver (.named "a")) none none default = .ok s ∧
    (s.respond default (posting [p, default])).1.status = 400 ∧
    (s.respond default (posting [p])).1.status = 200 ∧
    (s.respond default (posting [p])).2.hub =
      (s.respond default (posting [p, default])).2.hub ∧
    PostsAlerts single ∧ (s.respond default single).1.status ≠ 200 ∧
    (s.respond default single).2 = s ∧
    (s.respond default unknown).1.status = 404 ∧ (s.respond default unknown).2 = s := by
  let p : Alert.Posted := ⟨.ofList [("a", "b")], .empty, none, none, ""⟩
  let single : Http.Request :=
    ⟨.post, "/api/v1/alerts", "", Json.render (Alert.Posted.schema.codec.write p)⟩
  let unknown : Http.Request :=
    ⟨.delete, "/api/v1/receivers/", "", Json.render (nameSchema.codec.write "b")⟩
  let started := (Server.start (.ofReceiver (.named "a")) none none default).toOption
  obtain ⟨s, hs⟩ : ∃ s, Server.start (.ofReceiver (.named "a")) none none default = .ok s :=
    ⟨_, rfl⟩
  have hstarted : started = some s := Except.toOption_eq_some_iff.mpr hs
  have hread : posted? (posting [p, default]) = some [p, default] := by decide +kernel
  have hrefused : started.map (fun s =>
      ((s.postAlerts default [p, default]).1.response Tally.contentType).status) = some 400 := by
    decide +kernel
  have hvalid : started.map (fun s => [p, default].filter (s.accepts default)) = some [p] := by
    decide +kernel
  have hunknown : started.map (fun s => (s.respond default unknown).1.status) = some 404 := by
    decide +kernel
  rw [hstarted, Option.map_some, Option.some.injEq] at hrefused hvalid hunknown
  have hmixed : (s.respond default (posting [p, default])).1.status = 400 := by
    rw [respond_of_posted ⟨rfl, rfl⟩ hread]
    exact hrefused
  obtain ⟨-, -, -, halone⟩ :=
    (refused_unchanged s default (posting [p, default])).2.2.2 _ ⟨rfl, rfl⟩ hread hmixed
  rw [hvalid] at halone
  obtain ⟨haccepted, hsame⟩ := halone (posting [p]) ⟨rfl, rfl⟩ (by decide +kernel)
  have hsingle := (refused_unchanged s default single).2.2.1 ⟨rfl, rfl⟩ (by decide +kernel)
  have hdeleted := (refused_unchanged s default unknown).2.1 (fun h => nomatch h.1)
    (by rw [hunknown]; decide)
  exact ⟨s, p, single, unknown, hs, hmixed, haccepted, hsame, ⟨rfl, rfl⟩, hsingle.1, hsingle.2,
    hunknown, hdeleted⟩

end Server

end Api

end AlertRouter

import Mathlib.Data.List.Chain
import AlertRouter.Proofs.Delivery.Once

/-! # The start of an alert that is put again and again

The store holds one alert per fingerprint, so of its history only the merged alert is left to
compare an update with.  The history is a run of episodes: an update goes on with the last episode
if it starts no later than the update before it ends, and opens a new one otherwise
(`LastEpisode.concat`, `LastEpisode.gap`).

The stored alert is the last update with the earliest start of the last episode (`Merges`).  One
more update keeps it so (`exists_merges_concat`), hence it is so after any batches
(`stored_merges`). -/

namespace AlertRouter

namespace Alert

/-- Each update starts no later than the one before it ends. -/
def Unbroken (updates : List Alert) : Prop := updates.IsChain fun a b => b.startsAt ≤ a.endsAt

/-- The longest unbroken run of the latest updates. -/
structure LastEpisode (history episode : List Alert) : Prop where
  latest : episode <:+ history
  unbroken : Unbroken episode
  longest : ∀ run, run <:+ history → Unbroken run → run.length ≤ episode.length

/-- The alert is the last update, but for its start, which is the earliest one of the episode. -/
structure Merges (history episode : List Alert) (a : Alert) : Prop where
  last : ∃ b, history.getLast? = some b ∧ a = { b with startsAt := a.startsAt }
  attained : ∃ b ∈ episode, b.startsAt = a.startsAt
  earliest : ∀ b ∈ episode, a.startsAt ≤ b.startsAt

variable {history episode other : List Alert} {a b : Alert}

/-! ### The last episode -/

theorem LastEpisode.nil : LastEpisode [] [] where
  latest := List.suffix_rfl
  unbroken := .nil
  longest _ hrun _ := hrun.length_le

theorem LastEpisode.unique (h : LastEpisode history episode) (h' : LastEpisode history other) :
    other = episode := by
  have hlength := Nat.le_antisymm (h.longest _ h'.latest h'.unbroken)
    (h'.longest _ h.latest h.unbroken)
  exact (List.suffix_of_suffix_length_le h'.latest h.latest hlength.le).eq_of_length hlength

/-- The latest updates end with the last one. -/
theorem getLast?_of_suffix {run : List Alert} (hrun : run <:+ history)
    (hb : run.getLast? = some b) : history.getLast? = some b := by
  obtain ⟨before, rfl⟩ := hrun
  rw [List.getLast?_append, hb]
  rfl

theorem unbroken_concat_iff :
    Unbroken (episode ++ [a]) ↔
      Unbroken episode ∧ ∀ b, episode.getLast? = some b → a.startsAt ≤ b.endsAt := by
  unfold Unbroken
  rw [List.isChain_append]
  simp

/-- An update that starts no later than the one before it ends goes on with the episode. -/
theorem LastEpisode.concat (h : LastEpisode history episode)
    (ha : ∀ b, history.getLast? = some b → a.startsAt ≤ b.endsAt) :
    LastEpisode (history ++ [a]) (episode ++ [a]) where
  latest := by
    obtain ⟨before, hbefore⟩ := h.latest
    exact ⟨before, by rw [← List.append_assoc, hbefore]⟩
  unbroken := unbroken_concat_iff.mpr
    ⟨h.unbroken, fun b hb => ha b (getLast?_of_suffix h.latest hb)⟩
  longest _ hrun hunbroken := by
    rcases List.suffix_concat_iff.mp hrun with rfl | ⟨run, rfl, hlatest⟩
    · exact Nat.zero_le _
    · have hle := h.longest run hlatest (unbroken_concat_iff.mp hunbroken).1
      simpa using hle

/-- One that starts after the end of the one before it opens an episode. -/
theorem LastEpisode.gap (hb : history.getLast? = some b) (ha : ¬ a.startsAt ≤ b.endsAt) :
    LastEpisode (history ++ [a]) [a] where
  latest := List.suffix_append _ _
  unbroken := .singleton a
  longest _ hrun hunbroken := by
    rcases List.suffix_concat_iff.mp hrun with rfl | ⟨run, rfl, hlatest⟩
    · exact Nat.zero_le _
    · cases hlast : run.getLast? with
      | none =>
          rw [List.getLast?_eq_none_iff.mp hlast]
          exact Nat.le_refl _
      | some c =>
          -- The last update of the run is the last one before `a`, and `a` does not go on with it.
          obtain rfl : b = c := Option.some.inj (hb.symm.trans (getLast?_of_suffix hlatest hlast))
          exact absurd ((unbroken_concat_iff.mp hunbroken).2 b hlast) ha

/-! ### One more update -/

/-- What becomes of a stored alert that an update meets. -/
theorem continued_some (old a : Alert) : AlertStore.continued (some old) a =
    if a.startsAt ≤ old.endsAt ∧ old.startsAt < a.startsAt then { a with startsAt := old.startsAt }
    else a := rfl

theorem Merges.concat (h : Merges history episode b) (hstart : a.startsAt ≤ b.endsAt) :
    Merges (history ++ [a]) (episode ++ [a]) (AlertStore.continued (some b) a) := by
  have hlast : (history ++ [a]).getLast? = some a := List.getLast?_concat
  obtain ⟨c, hc, hattained⟩ := h.attained
  rw [continued_some]
  by_cases hearlier : b.startsAt < a.startsAt
  · rw [if_pos ⟨hstart, hearlier⟩]
    refine ⟨⟨a, hlast, rfl⟩, ⟨c, List.mem_append_left _ hc, hattained⟩, ?_⟩
    intro d hd
    rcases List.mem_append.mp hd with hd | hd
    · exact h.earliest d hd
    · rw [List.mem_singleton.mp hd]
      exact (Instant.le_total _ _).resolve_right (Instant.not_le.mpr hearlier)
  · rw [if_neg fun hboth => hearlier hboth.2]
    refine ⟨⟨a, hlast, rfl⟩, ⟨a, List.mem_append_right _ (List.mem_singleton_self a), rfl⟩, ?_⟩
    intro d hd
    rcases List.mem_append.mp hd with hd | hd
    · exact Instant.le_trans (Instant.not_lt.mp hearlier) (h.earliest d hd)
    · rw [List.mem_singleton.mp hd]
      exact Instant.le_refl _

theorem Merges.singleton (history : List Alert) (a : Alert) : Merges (history ++ [a]) [a] a where
  last := ⟨a, List.getLast?_concat, rfl⟩
  attained := ⟨a, List.mem_singleton_self a, rfl⟩
  earliest b hb := by
    rw [List.mem_singleton.mp hb]
    exact Instant.le_refl _

/-- The stored alert comes from the last episode, and so it does after one more update. -/
theorem exists_merges_concat (hepisode : LastEpisode history episode)
    (h : Merges history episode b) (a : Alert) :
    ∃ episode, LastEpisode (history ++ [a]) episode ∧
      Merges (history ++ [a]) episode (AlertStore.continued (some b) a) := by
  obtain ⟨c, hc, hb⟩ := h.last
  have hends : b.endsAt = c.endsAt := by rw [hb]
  by_cases hstart : a.startsAt ≤ b.endsAt
  · refine ⟨episode ++ [a], hepisode.concat ?_, h.concat hstart⟩
    intro d hd
    obtain rfl : c = d := Option.some.inj (hc.symm.trans hd)
    exact hends ▸ hstart
  · refine ⟨[a], .gap hc (hends ▸ hstart), ?_⟩
    rw [continued_some, if_neg fun hboth => hstart hboth.1]
    exact .singleton history a

end Alert

namespace AlertStore

open Alert

/-! ### Batches -/

/-- The stored alert after the updates of its fingerprint. -/
def merged (old : Option Alert) (updates : List Alert) : Option Alert :=
  updates.foldl (fun old a => some (continued old a)) old

/-- Only the updates of a fingerprint have a part in what is stored under it. -/
theorem get?_put (s : AlertStore) (alerts : List Alert) (f : Fingerprint) :
    (s.put alerts).get? f = merged (s.get? f) (alerts.filter (·.fingerprint = f)) := by
  induction alerts generalizing s with
  | nil => rfl
  | cons a alerts ih =>
      rw [show s.put (a :: alerts) = (s.insert a).put alerts from rfl, ih, Hub.get?_insert]
      by_cases ha : a.fingerprint = f
      · rw [List.filter_cons_of_pos (by simpa using ha), if_pos ha.symm, ha]
        rfl
      · rw [List.filter_cons_of_neg (by simpa using ha), if_neg (Ne.symm ha)]

theorem foldl_put (batches : List (List Alert)) (s : AlertStore) :
    batches.foldl put s = s.put batches.flatten := List.foldl_flatten.symm

theorem exists_merges (history : List Alert) :
    ∃ episode, LastEpisode history episode ∧
      (history = [] ∧ merged none history = none ∨
        ∃ a, merged none history = some a ∧ Merges history episode a) := by
  induction history using List.reverseRecOn with
  | nil => exact ⟨[], .nil, .inl ⟨rfl, rfl⟩⟩
  | append_singleton history a ih =>
      have hmerged : merged none (history ++ [a]) = some (continued (merged none history) a) := by
        rw [merged, List.foldl_append]
        rfl
      obtain ⟨episode, hepisode, ⟨rfl, hnone⟩ | ⟨b, hb, hmerges⟩⟩ := ih
      · rw [hmerged, hnone]
        exact ⟨[a], LastEpisode.nil.concat nofun, .inr ⟨a, rfl, .singleton [] a⟩⟩
      · obtain ⟨episode, hepisode, hmerges⟩ := exists_merges_concat hepisode hmerges a
        rw [hmerged, hb]
        exact ⟨episode, hepisode, .inr ⟨_, rfl, hmerges⟩⟩

/-- **The stored alert is the last update of its fingerprint, with the earliest start of its last
episode.**  In whatever batches the alerts come, those of other fingerprints have no part in it. -/
theorem stored_merges (batches : List (List Alert)) (f : Fingerprint) :
    let stored := (batches.foldl put empty).get? f
    let history := batches.flatten.filter (·.fingerprint = f)
    stored = (empty.put history).get? f ∧
    ∃ episode, LastEpisode history episode ∧ (∀ run, LastEpisode history run → run = episode) ∧
      (history = [] ∧ stored = none ∨ ∃ a, stored = some a ∧ Merges history episode a) := by
  intro stored history
  have hstored : stored = merged none history := by
    rw [← SortedMap.get?_empty f]
    exact (congrArg (·.get? f) (foldl_put batches empty)).trans (get?_put empty batches.flatten f)
  obtain ⟨episode, hepisode, hmerged⟩ := exists_merges history
  refine ⟨?_, episode, hepisode, fun _ => hepisode.unique, hstored ▸ hmerged⟩
  rw [hstored, get?_put, List.filter_filter]
  simp only [Bool.and_self]
  rfl

end AlertStore

end AlertRouter

import AlertRouter.Proofs.Alert.Resolved
import AlertRouter.Proofs.Alert.Stored

/-! # Batches are taken in as far as they are valid

A posted alert passes through three forms: its times are filled in, which decides how it counts; it
loses its labels without a value; and in this form it is checked and stored.  The alerts of a batch
do not hinder each other.  The store is as if only the valid ones had been put, in their order, and
the answer has what is wrong with each of the others (`AlertStore.BestEffort`).

The counters go alert by alert (`Batch.tally_foldl`) and so does the store, so that it makes no
difference whether alerts come in one batch or in two that follow each other at the same time. -/

namespace AlertRouter

/-- The form in which a posted alert is checked and stored. -/
def Alert.Posted.cleanedBy (p : Alert.Posted) (now deadline : Instant) : Alert :=
  (p.toAlertBy now deadline).withoutEmptyLabels

namespace Batch

variable {now : Instant}

/-- The valid alerts of a batch, in the form in which they are stored. -/
def accepted (posted : List Alert.Posted) (now deadline : Instant) : List Alert :=
  (posted.map (·.cleanedBy now deadline)).filter (·.isValid)

end Batch

namespace Alert

end Alert

namespace AlertStore

variable {s : AlertStore} {t : Tally} {posted : List Alert.Posted} {deadline now : Instant}

theorem store_ingestBy : (s.ingestBy t posted deadline now).2.1 =
    s.put (Batch.accepted posted now deadline) :=
  congrArg s.put (Batch.valid_ofPosted t posted deadline now)

end AlertStore

end AlertRouter

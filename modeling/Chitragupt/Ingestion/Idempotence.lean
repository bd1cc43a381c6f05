import Chitragupt.Ingestion.Record

/-!
# Repeated uploads

A repeated request is accepted like any other, and its run stores everything a second
time.  As long as a document identifier is repeated only after its runs have failed, and
for the same content, no slot is taken twice and one document at most holds the chunks of
a content in a project.
-/

namespace Chitragupt

open Machines (Machine)

/-- What has to be unique among the active chunks. -/
def ChunkRow.slot (chunk : ChunkRow) : Uuid × Nat := (chunk.documentId, chunk.chunkIndex)

/-- The run is past the step that stores and has stored nothing. -/
structure IngestTask.Spent (task : IngestTask) : Prop where
  past : task.stage.rank < 6
  nothing : task.stored = []

namespace IngestServicer

variable [Runtime] (servicer : IngestServicer)

omit [Runtime] in
/-- No two active chunks share a slot, and the runs whose chunks are stored agree on the
document whenever they agree on content and project. -/
structure Idempotent (uploads : Uploads) : Prop where
  slots : ((uploads.storage.chunks.filter (·.isActive)).map ChunkRow.slot).Nodup
  contents : ∀ first ∈ uploads.tasks, ∀ second ∈ uploads.tasks,
    (∃ chunk ∈ uploads.storage.chunks, chunk ∈ first.stored) →
      (∃ chunk ∈ uploads.storage.chunks, chunk ∈ second.stored) →
        servicer.contentKey first.upload = servicer.contentKey second.upload →
          first.upload.documentId = second.upload.documentId

omit [Runtime] in
/-- An accepted request repeats a document identifier for the same content only, and only
after all runs for it are spent. -/
def RepeatsOnlySpent (uploads : Uploads) : UploadEvent → Prop
  | .request request _ createFault =>
      ∀ upload storage, servicer.Accepts uploads request createFault upload storage →
        ∀ task ∈ uploads.tasks, task.upload.documentId = upload.documentId →
          task.Spent ∧ servicer.contentKey task.upload = servicer.contentKey upload
  | .move _ => True

end IngestServicer

/-! ## What a spent run does -/

section Spent

variable [Runtime] {task : IngestTask} {stage : Stage} {before after : Storage}

/-- A spent run stays spent. -/
theorem spent_moved (spent : task.Spent)
    (advanced : task.pipeline.advance task.upload task.stage before = some (stage, after)) :
    (task.moved stage before after).Spent := by
  have added : after.chunks.drop before.chunks.length = [] := by
    apply List.eq_nil_iff_forall_not_mem.mpr
    intro chunk member
    have early := (IngestionPipeline.writes_advance advanced).rank_of_added member
    exact absurd spent.past (not_lt.mpr early)
  constructor
  · exact lt_trans (IngestionPipeline.rank_advance advanced) spent.past
  · rw [IngestTask.moved, spent.nothing, added, List.append_nil]

end Spent

/-! ## What the tables record -/

namespace IngestServicer

variable [Runtime] (servicer : IngestServicer)

omit [Runtime] in
/-- Of two runs for one document, which are for the same content, the earlier one is spent;
and no slot is taken twice. -/
structure Recorded (uploads : Uploads) : Prop extends servicer.Traced uploads where
  spent : uploads.tasks.Pairwise fun first second =>
    first.upload.documentId = second.upload.documentId →
      first.Spent ∧ servicer.contentKey first.upload = servicer.contentKey second.upload
  slots : (uploads.storage.chunks.map ChunkRow.slot).Nodup

variable {servicer} {before after : Uploads} {event : UploadEvent}

omit [Runtime] in
/-- Two runs for one document are for the same content, and one of them is spent unless
they are the same run. -/
theorem Recorded.same_document (recorded : servicer.Recorded before) {first second : IngestTask}
    (here : first ∈ before.tasks) (there : second ∈ before.tasks)
    (same : first.upload.documentId = second.upload.documentId) :
    servicer.contentKey first.upload = servicer.contentKey second.upload ∧
      (first = second ∨ first.Spent ∨ second.Spent) := by
  rcases List.mem_iff_getElem.mp here with ⟨i, boundFirst, rfl⟩
  rcases List.mem_iff_getElem.mp there with ⟨j, boundSecond, rfl⟩
  have ordered := List.pairwise_iff_getElem.mp recorded.spent
  rcases Nat.lt_trichotomy i j with earlier | rfl | later
  · rcases ordered i j boundFirst boundSecond earlier same with ⟨spent, content⟩
    exact ⟨content, .inr (.inl spent)⟩
  · exact ⟨rfl, .inl rfl⟩
  · rcases ordered j i boundSecond boundFirst later same.symm with ⟨spent, content⟩
    exact ⟨content.symm, .inr (.inr spent)⟩

omit [Runtime] in
theorem recorded_empty : servicer.Recorded .empty where
  toTraced := traced_empty
  spent := List.Pairwise.nil
  slots := List.nodup_nil

omit [Runtime] in
/-- A relation along a list is kept by a change that keeps it on both sides. -/
theorem pairwise_set {α : Type} {relation : α → α → Prop} {items : List α} {index : Nat}
    {item changed : α} (listed : items[index]? = some item) (related : items.Pairwise relation)
    (left : ∀ other, relation item other → relation changed other)
    (right : ∀ other, relation other item → relation other changed) :
    (items.set index changed).Pairwise relation := by
  induction items generalizing index with
  | nil => cases listed
  | cons head tail ih =>
      rcases List.pairwise_cons.mp related with ⟨first, rest⟩
      cases index with
      | zero =>
          rcases Option.some.inj listed with rfl
          exact List.pairwise_cons.mpr ⟨fun other member => left other (first other member), rest⟩
      | succ index =>
          apply List.pairwise_cons.mpr
          refine ⟨?_, ih listed rest⟩
          intro other member
          rcases List.mem_or_eq_of_mem_set member with old | rfl
          · exact first other old
          · exact right head (first item (List.mem_of_getElem? listed))

omit [Runtime] in
/-- An accepted request stores nothing. -/
theorem recorded_accept (recorded : servicer.Recorded before) {upload : Upload}
    {pipeline : IngestionPipeline} {storage : Storage}
    (created : servicer.createDocument upload before.storage = .ok storage)
    (repeats : ∀ task ∈ before.tasks, task.upload.documentId = upload.documentId →
      task.Spent ∧ servicer.contentKey task.upload = servicer.contentKey upload) :
    servicer.Recorded { storage, tasks := before.tasks ++ [{ upload, pipeline }] } := by
  refine ⟨traced_accept recorded.toTraced created, ?_, ?_⟩
  · apply List.pairwise_append.mpr
    refine ⟨recorded.spent, List.pairwise_singleton _ _, ?_⟩
    intro task listed new member same
    rw [List.mem_singleton.mp member] at same ⊢
    exact repeats task listed same
  · change (storage.chunks.map ChunkRow.slot).Nodup
    rw [chunks_of_created created]
    exact recorded.slots

/-- The rows that a move adds take slots that are free. -/
theorem recorded_move (recorded : servicer.Recorded before) {index : Nat} {task : IngestTask}
    {stage : Stage} {storage : Storage} (listed : before.tasks[index]? = some task)
    (moved : task.pipeline.advance task.upload task.stage before.storage =
      some (stage, storage)) :
    servicer.Recorded
      { storage, tasks := before.tasks.set index (task.moved stage before.storage storage) } := by
  have member : task ∈ before.tasks := List.mem_of_getElem? listed
  have sound := sound_moved (recorded.sound task member) moved
  have writes := IngestionPipeline.writes_advance moved
  refine ⟨traced_move recorded.toTraced listed moved, ?_, ?_⟩
  · apply pairwise_set listed recorded.spent
    · intro other related same
      rcases related same with ⟨spent, content⟩
      exact ⟨spent_moved spent moved, content⟩
    · intro other related same
      exact related same
  · change (storage.chunks.map ChunkRow.slot).Nodup
    rw [writes.chunks_eq, List.map_append]
    apply recorded.slots.append
    · apply List.Nodup.of_map Prod.snd
      have indices := sound.indices
      rw [IngestTask.moved, List.map_append] at indices
      rw [List.map_map]
      exact indices.of_append_right
    · intro slot old new
      rcases List.mem_map.mp old with ⟨earlier, there, rfl⟩
      rcases List.mem_map.mp new with ⟨later, here, same⟩
      have early := writes.rank_of_added here
      have ownLater := sound.owned later (List.mem_append_right _ here)
      rcases recorded.chunks earlier there with ⟨other, otherListed, stored⟩
      have ownEarlier := (recorded.sound other otherListed).owned earlier stored
      have documents : later.documentId = earlier.documentId := (Prod.mk.inj same).1
      -- The run of the earlier chunk is neither this one, which had stored nothing yet, nor
      -- another one for the document, as neither of the two is spent.
      rcases (recorded.same_document otherListed member
        (ownEarlier.symm.trans (documents.symm.trans ownLater))).2 with rfl | spent | spent
      · rw [(recorded.sound other member).pending early] at stored
        cases stored
      · rw [spent.nothing] at stored
        cases stored
      · exact absurd spent.past (not_lt.mpr early)

theorem recorded_step (step : servicer.Step before event after)
    (repeats : servicer.RepeatsOnlySpent before event)
    (recorded : servicer.Recorded before) : servicer.Recorded after := by
  cases step with
  | idle => exact recorded
  | accept request pipeline createFault upload storage accepts =>
      exact recorded_accept recorded accepts.created (repeats upload storage accepts)
  | move index task stage storage listed moved => exact recorded_move recorded listed moved

variable (servicer) in
/-- The record is kept by every step that repeats only what is spent. -/
theorem stable_recorded : servicer.machine.Stable servicer.RepeatsOnlySpent servicer.Recorded :=
  fun uploads event repeats recorded =>
    recorded_step (servicer.machine_step uploads event) repeats recorded

omit [Runtime] in
theorem idempotent_of_recorded {uploads : Uploads} (recorded : servicer.Recorded uploads) :
    servicer.Idempotent uploads := by
  constructor
  · exact recorded.slots.sublist (List.filter_sublist.map _)
  · intro first here second there firstStored secondStored same
    have row : ∀ task ∈ uploads.tasks, (∃ chunk ∈ uploads.storage.chunks, chunk ∈ task.stored) →
        ∃ document ∈ uploads.storage.documents,
          document.documentId = task.upload.documentId ∧
            document.contentKey = servicer.contentKey task.upload := by
      rintro task member ⟨chunk, listed, stored⟩
      have own := (recorded.sound task member).owned chunk stored
      rcases List.mem_map.mp (uploads.storage.references chunk listed) with
        ⟨document, found, ownDocument⟩
      rcases recorded.documents document found with ⟨other, otherListed, sameId, sameKey⟩
      have owner : document.documentId = task.upload.documentId := ownDocument.trans own
      have content := (recorded.same_document otherListed member (sameId.trans owner)).1
      exact ⟨document, found, owner, sameKey.symm.trans content⟩
    rcases row first here firstStored with ⟨firstRow, firstListed, firstId, firstKey⟩
    rcases row second there secondStored with ⟨secondRow, secondListed, secondId, secondKey⟩
    have rows : firstRow = secondRow :=
      List.inj_on_of_nodup_map uploads.storage.contentKeys firstListed secondListed
        (firstKey.trans (same.trans secondKey.symm))
    rw [← firstId, rows, secondId]

/-- In every run whose accepted requests repeat a document identifier only for the same
content and after its runs have failed, ingestion is idempotent. -/
theorem idempotent_run (servicer : IngestServicer) (events : List UploadEvent)
    (repeats : servicer.machine.Meets servicer.RepeatsOnlySpent .empty events) :
    servicer.Idempotent (servicer.machine.run .empty events) :=
  idempotent_of_recorded (servicer.stable_recorded.run repeats recorded_empty)

end IngestServicer

/-! ### The same request twice -/

section Sample

attribute [local instance] referenceRuntime

/-- Moves repeat nothing. -/
theorem meets_moves (uploads : Uploads) (count task : Nat) :
    sampleIngestServicer.machine.Meets sampleIngestServicer.RepeatsOnlySpent uploads
      (List.replicate count (.move task)) := by
  induction count generalizing uploads with
  | zero =>
      intro happened member
      cases member
  | succ count ih =>
      rw [List.replicate_succ, Machine.meets_cons]
      exact ⟨trivial, ih _⟩

/-- A request that is sent again after its run has failed. -/
theorem idempotent_retry :
    sampleIngestServicer.Idempotent (sampleIngestServicer.machine.run .empty
      (uploadedBy darkPipeline 0 ++ uploadedBy plainPipeline 1)) := by
  apply IngestServicer.idempotent_run
  rw [uploadedBy, uploadedBy, List.cons_append, Machine.meets_cons, Machine.meets_append,
    Machine.meets_cons]
  refine ⟨?_, meets_moves _ _ _, ?_, meets_moves _ _ _⟩
  · intro upload storage accepts task member
    cases member
  · intro upload storage accepts task member same
    have parsed := accepts.parsed
    rw [parse_sampleIngestRequest, Option.some.injEq] at parsed
    subst parsed
    rcases List.mem_singleton.mp member with rfl
    exact ⟨⟨by decide, rfl⟩, rfl⟩

/-- The chunk is stored twice under one document and index. -/
theorem not_idempotent_of_repeated :
    ¬∀ (servicer : IngestServicer) (events : List UploadEvent),
      servicer.Idempotent (servicer.machine.run .empty events) := by
  intro all
  have slots :=
    (all sampleIngestServicer (uploadedBy plainPipeline 0 ++ uploadedBy plainPipeline 1)).slots
  have stored : (((sampleIngestServicer.machine.run .empty
      (uploadedBy plainPipeline 0 ++ uploadedBy plainPipeline 1)).storage.chunks.filter
        (·.isActive)).map ChunkRow.slot) = [(0xD1, 0), (0xD1, 0)] := rfl
  rw [stored] at slots
  exact List.not_nodup_pair _ slots

end Sample

end Chitragupt

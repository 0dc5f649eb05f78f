import Mathlib.Tactic
import Collector.Poll
import Collector.Proofs.Checkpoint.Cache

/-!
# What a poll leaves behind

A poll of `harvest-source` that finds its reader free ends in one of six ways
(`Site.PollEnd`), and each of them says which checkpoint is held afterwards, which blob is
stored and which records were written.  A checkpoint that was forced past a timestamp is
held before the records are written, so that a writer that refuses them leaves them behind
the cursor: they are skipped (`Site.skipped`).

Main statements:

* `Site.settle_cases`: what becomes of a page once it is reconciled.
* `Site.poll_spec`: how a poll ends, what the writer has afterwards, and that
  nothing else of the job changes.
* `Site.poll_of_takes`: a poll in which nothing fails.
-/

namespace Collector

/-- The checkpoint that is held while a reconciled page is written. -/
def Reconciled.ahead (r : Reconciled) (previous : Checkpoint) : Checkpoint :=
  if r.refreshed then r.checkpoint.getD previous else previous

namespace Site

/-! ## Views of a job -/

/-- The checkpoint that the reader holds. -/
def held (s : Site) : Option Checkpoint := s.reader.cache.held

/-- The blob that the store gives back for the task, once it can be read. -/
def blob (s : Site) : Option Bytes :=
  if s.backend.store.forgetful then none
  else s.backend.store.blobs.get? s.reader.task.identity

/-- The checkpoint that the stored blob stands for. -/
def saved (s : Site) : Checkpoint := CheckpointCache.resume s.reader.cache.initial s.blob

/-- The checkpoint that the job goes on from: the one that it holds, else the one
that is stored. -/
def position (s : Site) : Checkpoint := s.reader.cache.trusted?.getD s.saved

/-- Whether the writer takes what it is given. -/
def Takes (s : Site) : Prop :=
  s.backend.writeFault = none ∧ s.backend.writer.receiver ≠ .gone

instance (s : Site) : Decidable s.Takes := by unfold Takes; infer_instance

/-- What a poll makes of the page that it gets; none if it gets none. -/
def reconciled? (s : Site) (source : Source) : Option Reconciled :=
  match s.load.1 with
  | .error _ => none
  | .ok previous => (s.collect source previous).toOption

/-- The records that a poll writes. -/
def written (s : Site) (source : Source) : List Record :=
  match s.reconciled? source with
  | some r => if s.Takes then r.emit else []
  | none => []

/-- The records that a poll moves the cursor past although the writer refuses
them. -/
def skipped (s : Site) (source : Source) : List Record :=
  match s.reconciled? source with
  | some r => if s.Takes then [] else if r.refreshed then r.emit else []
  | none => []

/-- The envelopes in which records are written: one, or none if there are no
records. -/
def batch (settings : PollSettings) (records : List Record) : List Envelope :=
  if records.isEmpty then [] else [envelope settings records]

/-- The job is the same but for the checkpoint that is held, what is stored and
what was written. -/
structure Agrees (s t : Site) : Prop where
  /-- Both jobs have the same task. -/
  task : t.reader.task = s.reader.task
  /-- Both jobs poll the source in the same way. -/
  settings : t.reader.settings = s.reader.settings
  /-- Both jobs have the same cursor to begin from. -/
  initial : t.reader.cache.initial = s.reader.cache.initial
  /-- A poll is on its way in both jobs, or in neither. -/
  guard : t.reader.guard = s.reader.guard
  /-- The reader is started in both jobs, or in neither. -/
  started : t.reader.started = s.reader.started
  /-- The writer takes what it is given in both jobs, or in neither. -/
  takes : t.Takes ↔ s.Takes
  /-- The store remembers nothing in both jobs, or in neither. -/
  forgetful : t.backend.store.forgetful = s.backend.store.forgetful
  /-- Reading the store fails in both jobs in the same way, or in neither. -/
  readFault : t.backend.store.readFault = s.backend.store.readFault
  /-- Writing to the store fails in both jobs in the same way, or in neither. -/
  storeFault : t.backend.store.writeFault = s.backend.store.writeFault

namespace Agrees

variable {s t u : Site}

theorem refl (s : Site) : Agrees s s :=
  ⟨rfl, rfl, rfl, rfl, rfl, Iff.rfl, rfl, rfl, rfl⟩

theorem trans (h : Agrees s t) (k : Agrees t u) : Agrees s u where
  task := k.task.trans h.task
  settings := k.settings.trans h.settings
  initial := k.initial.trans h.initial
  guard := k.guard.trans h.guard
  started := k.started.trans h.started
  takes := k.takes.trans h.takes
  forgetful := k.forgetful.trans h.forgetful
  readFault := k.readFault.trans h.readFault
  storeFault := k.storeFault.trans h.storeFault

end Agrees

/-- The job is the same but for the checkpoint that is held: nothing was stored and nothing was
written. -/
structure Untouched (s t : Site) : Prop extends Agrees s t where
  /-- The blob of the task is the same. -/
  blob : t.blob = s.blob
  /-- The writer has what it had. -/
  writer : t.backend.writer = s.backend.writer

theorem untouched_refl (s : Site) : Untouched s s := ⟨.refl s, rfl, rfl⟩

theorem untouched_hold (s : Site) (c : Checkpoint) : Untouched s (s.hold c) :=
  ⟨⟨rfl, rfl, rfl, rfl, rfl, Iff.rfl, rfl, rfl, rfl⟩, rfl, rfl⟩

theorem untouched_log (s : Site) (call : BackendCall) :
    Untouched s { s with backend := s.backend.log call } :=
  ⟨⟨rfl, rfl, rfl, rfl, rfl, Iff.rfl, rfl, rfl, rfl⟩, rfl, rfl⟩

theorem Untouched.trans {s t u : Site} (h : Untouched s t) (k : Untouched t u) : Untouched s u :=
  ⟨h.toAgrees.trans k.toAgrees, k.blob.trans h.blob, k.writer.trans h.writer⟩

/-! ## Loading -/

theorem read_eq_ok {s : Site} {b : Option Bytes}
    (h : s.backend.store.read s.reader.task = .ok b) : b = s.blob := by
  simp only [CheckpointStore.read] at h
  simp only [blob]
  split_ifs at h ⊢
  · exact (Except.ok.inj h).symm
  · split at h
    · cases h
    · exact (Except.ok.inj h).symm

/-- The store is asked in vain, or the job goes on from its position. -/
theorem load_cases (s : Site) :
    (∃ e t, s.load = (.error (.checkpoint e), t) ∧ s.backend.store.readFault = some e ∧
      t.held = s.held ∧ Untouched s t) ∨
    ∃ t, s.load = (.ok s.position, t) ∧ t.held = some s.position ∧ Untouched s t := by
  obtain ⟨reader, backend⟩ := s
  cases htrusted : reader.cache.trusted? with
  | some state =>
    refine .inr ⟨⟨reader, backend⟩, ?_, ?_, untouched_refl _⟩
    · simp only [load, CheckpointCache.load, position, htrusted, Option.getD_some]
    · simp only [CheckpointCache.trusted?, Option.filter_eq_some_iff] at htrusted
      simp only [held, position, CheckpointCache.trusted?, htrusted.1, Option.filter,
        htrusted.2, if_true, Option.getD_some]
  | none =>
    have hasked := untouched_log ⟨reader, backend⟩ .storeRead
    cases hread : backend.store.read reader.task with
    | error e =>
      refine .inl ⟨e, ⟨reader, backend.log .storeRead⟩, ?_, ?_, rfl, hasked⟩
      · simp only [load, CheckpointCache.load, htrusted, Backend.readBlob, hread]
      · simp only [CheckpointStore.read] at hread
        split_ifs at hread
        split at hread
        · rename_i fault hfault
          cases hread
          exact hfault
        · cases hread
    | ok b =>
      have hb : b = blob ⟨reader, backend⟩ := read_eq_ok hread
      have hposition : position ⟨reader, backend⟩ = saved ⟨reader, backend⟩ := by
        simp only [position, htrusted, Option.getD_none]
      refine .inr ⟨_, ?_, ?_, hasked.trans (untouched_hold _ (saved ⟨reader, backend⟩))⟩
      · simp only [load, CheckpointCache.load, htrusted, Backend.readBlob, hread, hposition, hb]
        rfl
      · rw [hposition]
        rfl

/-! ## The steps after the page is reconciled -/

theorem advance_spec {s : Site} {p : Checkpoint} (r : Reconciled) (h : s.held = some p) :
    (s.advance r).held = some (r.ahead p) ∧ Untouched s (s.advance r) := by
  obtain ⟨emit, checkpoint, refreshed⟩ := r
  simp only [advance, Reconciled.ahead]
  cases refreshed with
  | false => exact ⟨h, untouched_refl _⟩
  | true =>
    cases checkpoint with
    | none => exact ⟨h, untouched_refl _⟩
    | some next => exact ⟨rfl, untouched_hold _ _⟩

/-- The writer refuses the new records and nothing changes, or it has them after
what it had. -/
theorem deliver_cases (s : Site) (r : Reconciled) :
    (∃ e, s.deliver r = (.error (.write e), s) ∧ ¬ s.Takes ∧ r.emit ≠ []) ∨
      ∃ t, s.deliver r = (.ok (), t) ∧ (s.Takes ∨ r.emit = []) ∧ t.held = s.held ∧
        Agrees s t ∧ t.blob = s.blob ∧
        t.backend.writer.envelopes =
          s.backend.writer.envelopes ++ batch s.reader.settings r.emit := by
  obtain ⟨reader, backend⟩ := s
  cases hemit : r.emit with
  | nil =>
    refine .inr ⟨⟨reader, backend⟩, ?_, .inr rfl, rfl, .refl _, rfl, ?_⟩
    · simp only [deliver, hemit, List.isEmpty_nil, if_true]
    · simp only [batch, List.isEmpty_nil, if_true, List.append_nil]
  | cons x xs =>
    simp only [deliver, hemit, List.isEmpty_cons, Bool.false_eq_true, if_false, Backend.deliver,
      Takes, batch]
    cases hfault : backend.writeFault with
    | some e => exact .inl ⟨e, rfl, by simp, by simp⟩
    | none =>
      simp only [Writer.write]
      cases hreceiver : backend.writer.receiver with
      | gone => exact .inl ⟨.closed, rfl, by simp, by simp⟩
      | absent =>
        refine .inr ⟨_, rfl, .inl (by simp), rfl, ⟨rfl, rfl, rfl, rfl, rfl, ?_, rfl, rfl, rfl⟩,
          rfl, rfl⟩
        simp [Takes, hfault, hreceiver]
      | listening unread =>
        refine .inr ⟨_, rfl, .inl (by simp), rfl, ⟨rfl, rfl, rfl, rfl, rfl, ?_, rfl, rfl, rfl⟩,
          rfl, rfl⟩
        simp [Takes, hfault, hreceiver]

/-- The blob that is there after a checkpoint was stored. -/
def blobOf (s : Site) (next : Checkpoint) : Option Bytes :=
  if s.backend.store.forgetful then none else some next.encode

/-- The store refuses the checkpoint and nothing changes, or it has it. -/
theorem persist_cases (s : Site) (next : Checkpoint) :
    (∃ e t, s.persist next = (.error (.checkpoint e), t) ∧
        s.backend.store.writeFault = some e ∧ t.held = s.held ∧ Untouched s t) ∨
      ∃ t, s.persist next = (.ok (), t) ∧ t.held = s.held ∧ Agrees s t ∧
        t.blob = s.blobOf next ∧ t.backend.writer = s.backend.writer := by
  obtain ⟨reader, backend⟩ := s
  rcases CheckpointStore.write_cases (backend.log .storeWrite).store reader.task next.encode with
    ⟨e, hwrite, hfault⟩ | ⟨store, hwrite, hforget, hread, hfault, hblob⟩
  · refine .inl ⟨e, ⟨reader, backend.log .storeWrite⟩, ?_, hfault, rfl,
      untouched_log ⟨reader, backend⟩ .storeWrite⟩
    simp only [persist, CheckpointCache.persist, Backend.writeBlob, hwrite]
  · refine .inr ⟨⟨reader, { backend.log .storeWrite with store }⟩, ?_, rfl,
      ⟨rfl, rfl, rfl, rfl, rfl, Iff.rfl, hforget, hread, hfault⟩, ?_, rfl⟩
    · simp only [persist, CheckpointCache.persist, Backend.writeBlob, hwrite]
    · simp only [blob, blobOf, hforget]
      cases hf : backend.store.forgetful with
      | true => simp [Backend.log, hf]
      | false => simp [Backend.log, hf, hblob hf]

/-! ## Whole polls -/

/-- How a poll ends that finds its reader free. -/
inductive PollEnd (s : Site) (source : Source) (result : Except PollError PollOutcome)
    (t : Site) : Prop
  /-- The store could not be read. -/
  | unread (e : ClientError) (hresult : result = .error (.checkpoint e))
      (hfault : s.backend.store.readFault = some e) (hnone : s.reconciled? source = none)
      (hheld : t.held = s.held) (hblob : t.blob = s.blob)
  /-- There was no page, or it could not be reconciled. -/
  | failed (e : PollError) (hresult : result = .error e)
      (hcollect : s.collect source s.position = .error e) (hnone : s.reconciled? source = none)
      (hheld : t.held = some s.position) (hblob : t.blob = s.blob)
  /-- The writer refused the new records. -/
  | refused (r : Reconciled) (e : ClientError) (hresult : result = .error (.write e))
      (hcollect : s.collect source s.position = .ok r) (hsome : s.reconciled? source = some r)
      (hrefused : ¬ s.Takes) (hemit : r.emit ≠ [])
      (hheld : t.held = some (r.ahead s.position)) (hblob : t.blob = s.blob)
  /-- The store refused the new checkpoint. -/
  | unstored (r : Reconciled) (next : Checkpoint) (e : ClientError)
      (hresult : result = .error (.checkpoint e))
      (hcollect : s.collect source s.position = .ok r) (hsome : s.reconciled? source = some r)
      (htaken : s.Takes ∨ r.emit = []) (hfault : s.backend.store.writeFault = some e)
      (hnext : r.checkpoint = some next)
      (hheld : t.held = some (r.ahead s.position)) (hblob : t.blob = s.blob)
  /-- The new checkpoint was stored. -/
  | stored (r : Reconciled) (next : Checkpoint) (hresult : result = .ok (outcome r))
      (hcollect : s.collect source s.position = .ok r) (hsome : s.reconciled? source = some r)
      (htaken : s.Takes ∨ r.emit = []) (hnext : r.checkpoint = some next)
      (hheld : t.held = some next) (hblob : t.blob = s.blobOf next)
  /-- There was no new checkpoint. -/
  | unchanged (r : Reconciled) (hresult : result = .ok (outcome r))
      (hcollect : s.collect source s.position = .ok r) (hsome : s.reconciled? source = some r)
      (htaken : s.Takes ∨ r.emit = []) (hnext : r.checkpoint = none)
      (hheld : t.held = some s.position) (hblob : t.blob = s.blob)

/-- What a poll does after it claimed the reader, from the reconciled page on. -/
theorem settle_cases {s : Site} {p : Checkpoint} (r : Reconciled) (h : s.held = some p) :
    Agrees s (s.settle r).2 ∧
    (s.settle r).2.backend.writer.envelopes = s.backend.writer.envelopes ++
      batch s.reader.settings (if s.Takes then r.emit else []) ∧
    ((∃ e, (s.settle r).1 = .error (.write e) ∧ ¬ s.Takes ∧ r.emit ≠ [] ∧
        (s.settle r).2.held = some (r.ahead p) ∧ (s.settle r).2.blob = s.blob) ∨
      (s.Takes ∨ r.emit = []) ∧
        ((∃ e next, (s.settle r).1 = .error (.checkpoint e) ∧
            s.backend.store.writeFault = some e ∧ r.checkpoint = some next ∧
            (s.settle r).2.held = some (r.ahead p) ∧ (s.settle r).2.blob = s.blob) ∨
          (s.settle r).1 = .ok (outcome r) ∧
            ((∃ next, r.checkpoint = some next ∧ (s.settle r).2.held = some next ∧
                (s.settle r).2.blob = s.blobOf next) ∨
              r.checkpoint = none ∧ (s.settle r).2.held = some p ∧
                (s.settle r).2.blob = s.blob))) := by
  obtain ⟨hheld, hadvance⟩ := advance_spec r h
  have htakes := hadvance.takes
  rcases deliver_cases (s.advance r) r with ⟨e, hdeliver, hrefused, hemit⟩ |
    ⟨t, hdeliver, htaken, htheld, ht, htblob, htenv⟩
  · -- the writer refuses
    have hsettle : s.settle r = (.error (.write e), s.advance r) := by
      simp only [settle, hdeliver]
    rw [hsettle, htakes] at *
    refine ⟨hadvance.toAgrees, ?_, .inl ⟨e, rfl, hrefused, hemit, hheld, hadvance.blob⟩⟩
    simp [hadvance.writer, hrefused, batch]
  · rw [htakes] at htaken
    have henv : t.backend.writer.envelopes = s.backend.writer.envelopes ++
        batch s.reader.settings (if s.Takes then r.emit else []) := by
      rw [htenv, hadvance.writer, hadvance.settings]
      rcases htaken with hyes | hnil
      · rw [if_pos hyes]
      · rw [hnil, ite_self]
    have hagrees := hadvance.toAgrees.trans ht
    cases hnext : r.checkpoint with
    | none =>
      have hsettle : s.settle r = (.ok (outcome r), t) := by
        simp only [settle, hdeliver, commit, hnext]
      have hahead : r.ahead p = p := by simp [Reconciled.ahead, hnext]
      rw [hsettle]
      exact ⟨hagrees, henv, .inr ⟨htaken, .inr ⟨rfl, .inr ⟨rfl, by rw [htheld, hheld, hahead],
        htblob.trans hadvance.blob⟩⟩⟩⟩
    | some next =>
      rcases persist_cases t next with ⟨e, u, hpersist, hfault, huheld, hu⟩ |
        ⟨u, hpersist, huheld, hu, hublob, huwriter⟩
      · -- the store refuses
        have hsettle : s.settle r = (.error (.checkpoint e), u) := by
          simp only [settle, hdeliver, commit, hnext, hpersist]
        rw [hsettle]
        exact ⟨hagrees.trans hu.toAgrees, by rw [hu.writer, henv], .inr ⟨htaken, .inl ⟨e, next,
          rfl, by rw [← hagrees.storeFault, hfault], rfl, by rw [huheld, htheld, hheld],
          by rw [hu.blob, htblob, hadvance.blob]⟩⟩⟩
      · have hsettle : s.settle r = (.ok (outcome r), u.hold next) := by
          simp only [settle, hdeliver, commit, hnext, hpersist]
        have hhold := untouched_hold u next
        rw [hsettle]
        refine ⟨(hagrees.trans hu).trans hhold.toAgrees, by rw [hhold.writer, huwriter, henv],
          .inr ⟨htaken, .inr ⟨rfl, .inl ⟨next, rfl, rfl, ?_⟩⟩⟩⟩
        rw [hhold.blob, hublob, blobOf, blobOf, hagrees.forgetful]

theorem collect_congr {s t : Site} (h : t.reader.settings = s.reader.settings) (source : Source)
    (c : Checkpoint) : t.collect source c = s.collect source c := by
  simp only [collect, h]

/-- What a poll does with a claimed reader. -/
theorem cycle_spec (s : Site) (source : Source) :
    PollEnd s source (s.cycle source).1 (s.cycle source).2 ∧ Agrees s (s.cycle source).2 ∧
      (s.cycle source).2.backend.writer.envelopes =
        s.backend.writer.envelopes ++ batch s.reader.settings (s.written source) := by
  rcases s.load_cases with ⟨e, t, hload, hfault, hheld, ht⟩ | ⟨t, hload, hheld, ht⟩
  · have hcycle : s.cycle source = (.error (.checkpoint e), t) := by simp only [cycle, hload]
    have hnone : s.reconciled? source = none := by simp only [reconciled?, hload]
    rw [hcycle]
    refine ⟨.unread e rfl hfault hnone hheld ht.blob, ht.toAgrees, ?_⟩
    simp [ht.writer, written, hnone, batch]
  · cases hcollect : s.collect source s.position with
    | error e =>
      have hcycle : s.cycle source = (.error e, t) := by
        simp only [cycle, hload, collect_congr ht.settings, hcollect]
      have hnone : s.reconciled? source = none := by
        simp only [reconciled?, hload, hcollect, Except.toOption]
      rw [hcycle]
      refine ⟨.failed e rfl hcollect hnone hheld ht.blob, ht.toAgrees, ?_⟩
      simp [ht.writer, written, hnone, batch]
    | ok r =>
      have hcycle : s.cycle source = t.settle r := by
        simp only [cycle, hload, collect_congr ht.settings, hcollect]
      have hsome : s.reconciled? source = some r := by
        simp only [reconciled?, hload, hcollect, Except.toOption]
      have hwritten : s.written source = if s.Takes then r.emit else [] := by
        simp only [written, hsome]
      obtain ⟨hagrees, henv, hend⟩ := settle_cases r hheld
      rw [hcycle, hwritten]
      simp only [ht.takes, ht.blob, ht.writer, ht.settings, ht.storeFault] at henv hend
      refine ⟨?_, ht.toAgrees.trans hagrees, henv⟩
      rcases hend with ⟨e, hresult, hrefused, hemit, hheld, hblob⟩ |
        ⟨htaken, ⟨e, next, hresult, hfault, hnext, hheld, hblob⟩ |
          ⟨hresult, ⟨next, hnext, hheld, hblob⟩ | ⟨hnext, hheld, hblob⟩⟩⟩
      · exact .refused r e hresult hcollect hsome hrefused hemit hheld hblob
      · exact .unstored r next e hresult hcollect hsome htaken hfault hnext hheld hblob
      · rw [blobOf, ht.forgetful] at hblob
        exact .stored r next hresult hcollect hsome htaken hnext hheld hblob
      · exact .unchanged r hresult hcollect hsome htaken hnext hheld hblob

/-- The reader is claimed while a poll is on its way. -/
def claimed (s : Site) : Site := { s with reader := { s.reader with guard := ⟨true⟩ } }

theorem poll_eq {s : Site} (hfree : s.reader.guard.busy = false) (source : Source) :
    s.poll source = ((s.claimed.cycle source).1, (s.claimed.cycle source).2.release) := by
  simp only [poll, claim?, PollGuard.claim?, hfree, Bool.false_eq_true, if_false, Option.map_some,
    claimed]

/-- The ways in which a poll ends; the writer has what it had and what was written,
and nothing else of the job changes. -/
theorem poll_spec {s : Site} (hfree : s.reader.guard.busy = false) (source : Source) :
    PollEnd s source (s.poll source).1 (s.poll source).2 ∧ Agrees s (s.poll source).2 ∧
      (s.poll source).2.backend.writer.envelopes =
        s.backend.writer.envelopes ++ batch s.reader.settings (s.written source) := by
  have hguard : s.reader.guard = ⟨false⟩ := congrArg PollGuard.mk hfree
  obtain ⟨hend, h, henv⟩ := s.claimed.cycle_spec source
  rw [poll_eq hfree]
  refine ⟨?_, ⟨h.task, h.settings, h.initial, hguard.symm, h.started, h.takes, h.forgetful,
    h.readFault, h.storeFault⟩, henv⟩
  -- claiming and giving back change nothing that a poll looks at
  cases hend with
  | unread e hresult hfault hnone hheld hblob =>
    exact .unread e hresult hfault hnone hheld hblob
  | failed e hresult hcollect hnone hheld hblob =>
    exact .failed e hresult hcollect hnone hheld hblob
  | refused r e hresult hcollect hsome hrefused hemit hheld hblob =>
    exact .refused r e hresult hcollect hsome hrefused hemit hheld hblob
  | unstored r next e hresult hcollect hsome htaken hfault hnext hheld hblob =>
    exact .unstored r next e hresult hcollect hsome htaken hfault hnext hheld hblob
  | stored r next hresult hcollect hsome htaken hnext hheld hblob =>
    exact .stored r next hresult hcollect hsome htaken hnext hheld hblob
  | unchanged r hresult hcollect hsome htaken hnext hheld hblob =>
    exact .unchanged r hresult hcollect hsome htaken hnext hheld hblob

/-- A poll in which nothing fails holds and stores the new checkpoint, if there is
one, and writes all new records. -/
theorem poll_of_takes {s : Site} {source : Source} (hfree : s.reader.guard.busy = false)
    (htakes : s.Takes) (hread : s.backend.store.readFault = none)
    (hstore : s.backend.store.writeFault = none) {r : Reconciled}
    (hcollect : s.collect source s.position = .ok r) :
    (s.poll source).1 = .ok (outcome r) ∧ s.written source = r.emit ∧
      (s.poll source).2.held = some (r.checkpoint.getD s.position) ∧
      (s.poll source).2.blob = (r.checkpoint.map s.blobOf).getD s.blob := by
  have hwritten : s.reconciled? source = some r → s.written source = r.emit := by
    intro hsome
    simp only [written, hsome, if_pos htakes]
  obtain ⟨hend, -, -⟩ := poll_spec hfree source
  cases hend with
  | unread e _ hfault => exact absurd hfault (by simp [hread])
  | failed e _ hfailed => exact absurd hfailed (by simp [hcollect])
  | refused r' e _ _ _ hrefused => exact absurd htakes hrefused
  | unstored r' next e _ _ _ _ hfault => exact absurd hfault (by simp [hstore])
  | stored r' next hresult hcollect' hsome _ hnext hheld hblob =>
    obtain rfl : r = r' := Except.ok.inj (hcollect.symm.trans hcollect')
    simp only [hnext, Option.getD_some, Option.map_some]
    exact ⟨hresult, hwritten hsome, hheld, hblob⟩
  | unchanged r' hresult hcollect' hsome _ hnext hheld hblob =>
    obtain rfl : r = r' := Except.ok.inj (hcollect.symm.trans hcollect')
    simp only [hnext, Option.getD_none, Option.map_none]
    exact ⟨hresult, hwritten hsome, hheld, hblob⟩

/-- A held checkpoint that names a cursor is the position. -/
theorem position_of_held {s : Site} {c : Checkpoint} (h : s.held = some c) (hc : c.cursor ≠ "") :
    s.position = c := by
  simp only [held] at h
  simp [position, CheckpointCache.trusted?, h, Option.filter, Checkpoint.isEmpty, hc]

theorem position_of_held_eq_none {s : Site} (h : s.held = none) : s.position = s.saved := by
  simp only [held] at h
  simp [position, CheckpointCache.trusted?, h]

end Site

end Collector

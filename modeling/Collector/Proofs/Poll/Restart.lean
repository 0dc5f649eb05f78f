import Collector.Proofs.Collection.Run

/-!
# Jobs that are built anew

Between two polls a job of `harvest-source` may be built anew over its store and its
writer.  It then holds no checkpoint and goes on from the stored one.  That makes no
difference as long as the checkpoint that the job holds is the one that its blob stands
for (`Site.Settled`), and a poll keeps it so unless it forces the cursor forward and fails
afterwards (`Site.Smooth`): everything else that is held was stored before.

Two jobs that differ only in what they hold and in the calls that they made
(`Site.Like`) hold the same once they have loaded their checkpoint (`Site.Same`), and
do the same from then on.

Main statements:

* `Site.Same.settle`: what a poll does with its page depends on nothing else.
* `Site.Settled.poll`: a poll keeps what is held and what is stored together.
* `Site.rounds_steady`: a job that is built anew does what it does otherwise.
-/

namespace Collector.Site

/-! ## Jobs that do the same -/

/-- Two jobs are the same but for the checkpoints that they hold, the calls that were
made, and whether they are started. -/
structure Like (s t : Site) : Prop where
  /-- Both jobs have the same task. -/
  task : s.reader.task = t.reader.task
  /-- Both jobs poll the source in the same way. -/
  settings : s.reader.settings = t.reader.settings
  /-- Both jobs have the same cursor to begin from. -/
  initial : s.reader.cache.initial = t.reader.cache.initial
  /-- A poll is on its way in both jobs, or in neither. -/
  guard : s.reader.guard = t.reader.guard
  /-- Both writers have the same. -/
  writer : s.backend.writer = t.backend.writer
  /-- Writing fails in both jobs in the same way, or in neither. -/
  writeFault : s.backend.writeFault = t.backend.writeFault
  /-- Both stores have the same. -/
  store : s.backend.store = t.backend.store

/-- Two jobs that hold the same checkpoint, and are the same but for the calls that were made. -/
structure Same (s t : Site) : Prop extends Like s t where
  /-- Both jobs hold the same checkpoint. -/
  held : s.held = t.held

variable {s t u : Site}

theorem Like.refl (s : Site) : Like s s := ⟨rfl, rfl, rfl, rfl, rfl, rfl, rfl⟩

theorem Like.symm (h : Like s t) : Like t s :=
  ⟨h.task.symm, h.settings.symm, h.initial.symm, h.guard.symm, h.writer.symm, h.writeFault.symm,
    h.store.symm⟩

theorem Like.trans (h : Like s t) (k : Like t u) : Like s u :=
  ⟨h.task.trans k.task, h.settings.trans k.settings, h.initial.trans k.initial,
    h.guard.trans k.guard, h.writer.trans k.writer, h.writeFault.trans k.writeFault,
    h.store.trans k.store⟩

theorem Like.blob (h : Like s t) : s.blob = t.blob := by
  simp only [Site.blob, h.store, h.task]

theorem Like.saved (h : Like s t) : s.saved = t.saved := by
  simp only [Site.saved, h.initial, h.blob]

theorem Same.position (h : Same s t) : s.position = t.position := by
  have hheld : s.reader.cache.held = t.reader.cache.held := h.held
  simp only [Site.position, CheckpointCache.trusted?, hheld, h.saved]

theorem Like.hold (h : Like s t) (c : Checkpoint) : Same (s.hold c) (t.hold c) :=
  ⟨⟨h.task, h.settings, h.initial, h.guard, h.writer, h.writeFault, h.store⟩, rfl⟩

theorem Like.claimed (h : Like s t) : Like s.claimed t.claimed :=
  ⟨h.task, h.settings, h.initial, rfl, h.writer, h.writeFault, h.store⟩

theorem Same.release (h : Same s t) : Same s.release t.release :=
  ⟨⟨h.task, h.settings, h.initial, rfl, h.writer, h.writeFault, h.store⟩, h.held⟩

theorem Like.suffer (h : Like s t) (f : Faults) : Like (s.suffer f) (t.suffer f) := by
  refine ⟨h.task, h.settings, h.initial, h.guard, h.writer, rfl, ?_⟩
  simp only [Site.suffer, h.store]

/-! ## One part of a poll after the other -/

/-- Loading changes only what is held, and the calls that were made. -/
theorem like_load (s : Site) : Like s s.load.2 := by
  obtain ⟨reader, backend⟩ := s
  simp only [load, CheckpointCache.load]
  cases reader.cache.trusted? with
  | some state => exact Like.refl _
  | none =>
    simp only [Backend.readBlob]
    cases backend.store.read reader.task <;> exact ⟨rfl, rfl, rfl, rfl, rfl, rfl, rfl⟩

/-- A store that can be read lets the job go on from its position. -/
theorem load_of_read (hread : s.backend.store.readFault = none) :
    ∃ t, s.load = (.ok s.position, t) ∧ t.held = some s.position ∧ Like s t := by
  rcases s.load_cases with ⟨e, t, -, hfault, -⟩ | ⟨t, hload, hheld, -⟩
  · rw [hread] at hfault
    cases hfault
  · refine ⟨t, hload, hheld, ?_⟩
    have hlike := s.like_load
    rwa [hload] at hlike

theorem Like.collect (h : Like s t) (source : Source) (c : Checkpoint) :
    s.collect source c = t.collect source c := collect_congr h.settings source c

theorem Same.advance (h : Same s t) (r : Reconciled) : Same (s.advance r) (t.advance r) := by
  unfold Site.advance
  split
  · exact h.hold _
  · exact h

theorem Same.deliver (h : Same s t) (r : Reconciled) :
    (s.deliver r).1 = (t.deliver r).1 ∧ Same (s.deliver r).2 (t.deliver r).2 := by
  obtain ⟨sreader, sbackend⟩ := s
  obtain ⟨treader, tbackend⟩ := t
  obtain ⟨⟨htask, hsettings, hinitial, hguard, hwriter, hfault, hstore⟩, hheld⟩ := h
  dsimp only at hsettings hwriter hfault
  simp only [Site.deliver, Backend.deliver, hsettings, hwriter, hfault]
  split
  · exact ⟨rfl, ⟨htask, hsettings, hinitial, hguard, hwriter, hfault, hstore⟩, hheld⟩
  · cases hfault' : tbackend.writeFault with
    | some e =>
      exact ⟨rfl, ⟨htask, hsettings, hinitial, hguard, hwriter, hfault, hstore⟩, hheld⟩
    | none =>
      cases tbackend.writer.write (envelope treader.settings r.emit) with
      | error e =>
        exact ⟨rfl, ⟨htask, hsettings, hinitial, hguard, hwriter, hfault, hstore⟩, hheld⟩
      | ok writer =>
        exact ⟨rfl, ⟨htask, hsettings, hinitial, hguard, rfl, rfl, hstore⟩, hheld⟩

theorem Same.persist (h : Same s t) (next : Checkpoint) :
    (s.persist next).1 = (t.persist next).1 ∧ Same (s.persist next).2 (t.persist next).2 := by
  obtain ⟨sreader, sbackend⟩ := s
  obtain ⟨treader, tbackend⟩ := t
  obtain ⟨⟨htask, hsettings, hinitial, hguard, hwriter, hfault, hstore⟩, hheld⟩ := h
  dsimp only at htask hstore
  simp only [Site.persist, CheckpointCache.persist, Backend.writeBlob, Backend.log, htask, hstore]
  cases tbackend.store.write treader.task next.encode with
  | error e => exact ⟨rfl, ⟨htask, hsettings, hinitial, hguard, hwriter, hfault, rfl⟩, hheld⟩
  | ok store => exact ⟨rfl, ⟨htask, hsettings, hinitial, hguard, hwriter, hfault, rfl⟩, hheld⟩

theorem Same.commit (h : Same s t) (r : Reconciled) :
    (s.commit r).1 = (t.commit r).1 ∧ Same (s.commit r).2 (t.commit r).2 := by
  unfold Site.commit
  cases r.checkpoint with
  | none => exact ⟨rfl, h⟩
  | some next =>
    obtain ⟨hresult, hsame⟩ := h.persist next
    cases hs : s.persist next with
    | mk result s' =>
      cases ht : t.persist next with
      | mk result' t' =>
        simp only [hs, ht] at hresult hsame ⊢
        subst hresult
        cases result with
        | error e => exact ⟨rfl, hsame⟩
        | ok _ => exact ⟨rfl, hsame.hold next⟩

/-- What a poll does with a page that is reconciled. -/
theorem Same.settle (h : Same s t) (r : Reconciled) :
    (s.settle r).1 = (t.settle r).1 ∧ Same (s.settle r).2 (t.settle r).2 := by
  simp only [Site.settle]
  obtain ⟨hresult, hsame⟩ := (h.advance r).deliver r
  cases hs : (s.advance r).deliver r with
  | mk result s' =>
    cases ht : (t.advance r).deliver r with
    | mk result' t' =>
      simp only [hs, ht] at hresult hsame ⊢
      subst hresult
      cases result with
      | error e => exact ⟨rfl, hsame⟩
      | ok _ => exact hsame.commit r

/-- Two jobs whose stores can be read, and which go on from the same checkpoint, poll
in the same way. -/
theorem Like.cycle (h : Like s t) (hposition : s.position = t.position)
    (hread : s.backend.store.readFault = none) (source : Source) :
    (s.cycle source).1 = (t.cycle source).1 ∧ Same (s.cycle source).2 (t.cycle source).2 := by
  obtain ⟨s', hs, hsheld, hslike⟩ := load_of_read hread
  obtain ⟨t', ht, htheld, htlike⟩ := load_of_read (s := t) (h.store ▸ hread)
  have hsame : Same s' t' :=
    ⟨(hslike.symm.trans h).trans htlike, by rw [hsheld, htheld, hposition]⟩
  simp only [Site.cycle, hs, ht, hposition, hsame.toLike.collect]
  cases t'.collect source t.position with
  | error e => exact ⟨rfl, hsame⟩
  | ok r => exact hsame.settle r

theorem Like.poll (h : Like s t) (hposition : s.position = t.position)
    (hread : s.backend.store.readFault = none) (hfree : s.reader.guard.busy = false)
    (source : Source) :
    (s.poll source).1 = (t.poll source).1 ∧ Same (s.poll source).2 (t.poll source).2 := by
  have hfree' : t.reader.guard.busy = false := h.guard ▸ hfree
  obtain ⟨hresult, hsame⟩ := h.claimed.cycle hposition hread source
  rw [poll_eq hfree, poll_eq hfree']
  exact ⟨hresult, hsame.release⟩

/-! ## What is held and what is stored -/

/-- Between two polls: what the job goes on from is what its blob stands for. -/
structure Settled (s : Site) : Prop where
  /-- No poll is on its way. -/
  free : s.reader.guard.busy = false
  /-- The cursor to begin from is the one that the task gives. -/
  initial : s.reader.cache.initial = s.reader.settings.nextRecordTime
  /-- The store keeps what it is given. -/
  keeps : s.backend.store.forgetful = false
  /-- The checkpoint that is held names no cursor, or is the stored one. -/
  position : s.position = s.saved

/-- A poll that moves the cursor past a timestamp does not fail after that. -/
def Smooth (s : Site) (source : Source) : Prop :=
  (s.reconciled? source).any Reconciled.refreshed = true → (s.poll source).1.isOk = true

instance (s : Site) (source : Source) : Decidable (s.Smooth source) := by
  unfold Smooth
  infer_instance

/-- A checkpoint that is held makes no difference if it is the stored one, or names no
cursor. -/
theorem position_eq_saved {c : Checkpoint} (hheld : s.held = some c)
    (h : c.isEmpty = false → c = s.saved) : s.position = s.saved := by
  have hheld' : s.reader.cache.held = some c := hheld
  simp only [Site.position, CheckpointCache.trusted?, hheld', Option.filter]
  by_cases hempty : c.isEmpty = true
  · simp only [hempty, Bool.not_true, Bool.false_eq_true, if_false, Option.getD_none, Site.saved]
  · rw [Bool.not_eq_true] at hempty
    simp only [hempty, Bool.not_false, if_true, Option.getD_some]
    exact h hempty

/-- Without a forced cursor nothing is held ahead of the store. -/
theorem ahead_of_not_refreshed {r : Reconciled} (h : r.refreshed ≠ true) (p : Checkpoint) :
    r.ahead p = p := by
  simp only [Reconciled.ahead, h, if_false, Bool.false_eq_true]

/-- A poll that fails did not force the cursor. -/
theorem Smooth.not_refreshed {source : Source} (h : s.Smooth source) {r : Reconciled}
    (hsome : s.reconciled? source = some r) {e : PollError}
    (hresult : (s.poll source).1 = .error e) :
    r.refreshed ≠ true := by
  intro hrefreshed
  have hok := h (by rw [hsome]; exact hrefreshed)
  rw [hresult] at hok
  cases hok

/-- A poll keeps what is held and what is stored together. -/
theorem Settled.poll (h : Settled s) (hread : s.backend.store.readFault = none) {source : Source}
    (hsmooth : s.Smooth source) : Settled (s.poll source).2 := by
  obtain ⟨hend, hagrees, -⟩ := poll_spec h.free source
  have hsaved : (s.poll source).2.blob = s.blob → (s.poll source).2.saved = s.saved := by
    intro hblob
    rw [Site.saved, Site.saved, hblob, hagrees.initial]
  refine ⟨(congrArg PollGuard.busy hagrees.guard).trans h.free, ?_,
    hagrees.forgetful.trans h.keeps, ?_⟩
  · rw [hagrees.initial, hagrees.settings]
    exact h.initial
  · -- what is held is what the job went on from, unless something was stored
    have hsame : (s.poll source).2.held = some s.position → (s.poll source).2.blob = s.blob →
        (s.poll source).2.position = (s.poll source).2.saved := by
      intro hheld hblob
      exact position_eq_saved hheld fun _ => by rw [hsaved hblob, h.position]
    cases hend with
    | unread e _ hfault =>
      rw [hread] at hfault
      cases hfault
    | failed e _ _ _ hheld hblob => exact hsame hheld hblob
    | refused r e hresult _ hsome _ _ hheld hblob =>
      rw [ahead_of_not_refreshed (hsmooth.not_refreshed hsome hresult)] at hheld
      exact hsame hheld hblob
    | unstored r next e hresult _ hsome _ _ _ hheld hblob =>
      rw [ahead_of_not_refreshed (hsmooth.not_refreshed hsome hresult)] at hheld
      exact hsame hheld hblob
    | stored r next _ _ _ _ _ hheld hblob =>
      refine position_eq_saved hheld fun hcursor => ?_
      rw [Site.saved, hblob, blobOf, h.keeps, if_neg Bool.false_ne_true,
        CheckpointCache.resume_encode, hcursor, if_neg Bool.false_ne_true]
    | unchanged r _ _ _ _ _ hheld hblob => exact hsame hheld hblob

/-! ## Runs -/

/-- The job is built anew over the same backend. -/
def anew (s : Site) : Site := ⟨Reader.ofSettings s.reader.task s.reader.settings, s.backend⟩

/-- The cursor that a poll asks its source for; none if it does not come to that. -/
def asked? (s : Site) (source : Source) : Option String :=
  match (Stage.runToFetch source .claim s).1 with
  | .fetch previous => some previous.cursor
  | _ => none

/-- What happens around one poll. -/
structure Round where
  /-- Whether the job is built anew before it. -/
  anew : Bool := false
  /-- What the source answers. -/
  source : Source
  /-- What the calls of the poll fail with. -/
  faults : Faults := {}

/-- A round like the given one, before which the job is not built anew. -/
def Round.steady (r : Round) : Round := { r with anew := false }

/-- What is seen of one poll. -/
structure PollReport where
  /-- The cursor that the source was asked for. -/
  asked : Option String
  /-- The envelopes that were written. -/
  written : List Envelope
  /-- How the poll ended. -/
  outcome : Except PollError PollOutcome
  /-- What the store has afterwards. -/
  stored : KeyMap Bytes

/-- The job when the poll of a round begins. -/
def before (s : Site) (r : Round) : Site := (if r.anew then s.anew else s).suffer r.faults

/-- A job after one round, and what is seen of its poll. -/
def round (s : Site) (r : Round) : PollReport × Site :=
  let before := s.before r
  let (outcome, after) := before.poll r.source
  ({ asked := before.asked? r.source
     written := after.backend.writer.envelopes.drop before.backend.writer.envelopes.length
     outcome
     stored := after.backend.store.blobs }, after)

/-- A job after rounds one after another, and what is seen of each of its polls. -/
def rounds (s : Site) : List Round → List PollReport × Site
  | [] => ([], s)
  | r :: rs =>
    let (report, s) := s.round r
    let (reports, s) := s.rounds rs
    (report :: reports, s)

/-- In none of the rounds a poll moves the cursor past a timestamp and fails after
that. -/
def AllSmooth (s : Site) : List Round → Prop
  | [] => True
  | r :: rs => (s.before r).Smooth r.source ∧ (s.round r).2.AllSmooth rs

instance decidableAllSmooth : (s : Site) → (rs : List Round) → Decidable (AllSmooth s rs)
  | _, [] => .isTrue trivial
  | s, r :: rs =>
    have := decidableAllSmooth (s.round r).2 rs
    inferInstanceAs (Decidable (_ ∧ _))

/-- Up to where a poll waits for its source it has only loaded its checkpoint. -/
theorem asked?_eq (hfree : s.reader.guard.busy = false) (hread : s.backend.store.readFault = none)
    (source : Source) : s.asked? source = some s.position.cursor := by
  obtain ⟨t, hload, -⟩ := load_of_read (s := s.claimed) hread
  have hclaim : Stage.step source .claim s = (.load, s.claimed) := by
    simp only [Stage.step, claim?, PollGuard.claim?, hfree, Bool.false_eq_true, if_false,
      Option.map_some, claimed]
  have hfetch : Stage.step source .load s.claimed = (.fetch s.position, t) := by
    simp only [Stage.step, hload]
    rfl
  have hrun : Stage.runToFetch source .claim s = (.fetch s.position, t) := by
    rw [Stage.runToFetch, dif_pos (by simp [Stage.rank]), if_neg (by simp [Stage.isFetch]),
      hclaim, Stage.runToFetch, dif_pos (by simp [Stage.rank]),
      if_neg (by simp [Stage.isFetch]), hfetch, Stage.runToFetch]
    simp [Stage.isFetch]
  rw [asked?, hrun]

/-- Two jobs between polls that go on from the same checkpoint. -/
structure Alike (s t : Site) : Prop extends Like s t where
  /-- The first job goes on from what its blob stands for. -/
  settled : Settled s
  /-- The second job goes on from what its blob stands for. -/
  settled' : Settled t

theorem Alike.position (h : Alike s t) : s.position = t.position := by
  rw [h.settled.position, h.settled'.position, h.saved]

theorem Settled.suffer (h : Settled s) (f : Faults) : Settled (s.suffer f) :=
  ⟨h.free, h.initial, h.keeps, h.position⟩

theorem Settled.anew (h : Settled s) : Settled s.anew := by
  refine ⟨rfl, rfl, h.keeps, position_of_held_eq_none rfl⟩

theorem Settled.like_anew (h : Settled s) : Like s.anew s := by
  refine ⟨rfl, rfl, h.initial.symm, ?_, rfl, rfl, rfl⟩
  exact congrArg PollGuard.mk h.free.symm

/-- Whether one of them is built anew before the poll makes no difference. -/
theorem Alike.before (h : Alike s t) (r : Round) : Alike (s.before r) (t.before r.steady) := by
  have hsecond : t.before r.steady = t.suffer r.faults := rfl
  rw [hsecond, Site.before]
  split_ifs
  · exact ⟨(h.settled.like_anew.trans h.toLike).suffer r.faults, h.settled.anew.suffer r.faults,
      h.settled'.suffer r.faults⟩
  · exact ⟨h.toLike.suffer r.faults, h.settled.suffer r.faults, h.settled'.suffer r.faults⟩

/-- One round leaves the jobs alike, and the same is seen of both. -/
theorem Alike.round (h : Alike s t) (r : Round) (hread : r.faults.read = none)
    (hsmooth : (t.before r.steady).Smooth r.source) :
    (s.round r).1 = (t.round r.steady).1 ∧ Alike (s.round r).2 (t.round r.steady).2 := by
  have hbefore := h.before r
  have hread' : (s.before r).backend.store.readFault = none := hread
  have hread'' : (t.before r.steady).backend.store.readFault = none := hread
  obtain ⟨hresult, hsame⟩ :=
    hbefore.toLike.poll hbefore.position hread' hbefore.settled.free r.source
  have hsettled' := hbefore.settled'.poll hread'' hsmooth
  have hsettled : Settled ((s.before r).poll r.source).2 :=
    ⟨hsame.guard ▸ hsettled'.free, by rw [hsame.initial, hsettled'.initial, hsame.settings],
      hsame.store ▸ hsettled'.keeps, by rw [hsame.position, hsettled'.position, hsame.saved]⟩
  refine ⟨?_, hsame.toLike, hsettled, hsettled'⟩
  simp only [Site.round, PollReport.mk.injEq]
  refine ⟨?_, ?_, hresult, ?_⟩
  · rw [asked?_eq hbefore.settled.free hread', hbefore.position,
      ← asked?_eq hbefore.settled'.free hread'' r.source]
    rfl
  · rw [hsame.writer, hbefore.writer]
    rfl
  · rw [hsame.store]
    rfl

/-- Any number of rounds leave the jobs alike, and the same is seen of both. -/
theorem Alike.rounds (h : Alike s t) (rs : List Round) (hread : ∀ r ∈ rs, r.faults.read = none)
    (hsmooth : t.AllSmooth (rs.map Round.steady)) :
    (s.rounds rs).1 = (t.rounds (rs.map Round.steady)).1 ∧
      Alike (s.rounds rs).2 (t.rounds (rs.map Round.steady)).2 := by
  induction rs generalizing s t with
  | nil => exact ⟨rfl, h⟩
  | cons r rs ih =>
    obtain ⟨hfirst, hrest⟩ := hsmooth
    obtain ⟨hreport, halike⟩ := h.round r (hread r List.mem_cons_self) hfirst
    obtain ⟨hreports, halike'⟩ := ih halike (fun q hq => hread q (List.mem_cons_of_mem _ hq)) hrest
    exact ⟨congrArg₂ List.cons hreport hreports, halike'⟩

/-- A job over any store that keeps what it is given, whatever blob that has for it: if
the store can be read, and no poll of the job that moves the cursor past a timestamp
fails after that, then the job may be built anew before any of its polls.  The same
cursors are asked for, the same envelopes are written, the polls end in the same way and
the store has the same content, poll by poll and at the end. -/
theorem rounds_steady (task : Task) (settings : PollSettings) (backend : Backend)
    (hkeeps : backend.store.forgetful = false) (rs : List Round)
    (hread : ∀ r ∈ rs, r.faults.read = none)
    (hsmooth : AllSmooth ⟨Reader.ofSettings task settings, backend⟩ (rs.map Round.steady)) :
    (rounds ⟨Reader.ofSettings task settings, backend⟩ rs).1 =
        (rounds ⟨Reader.ofSettings task settings, backend⟩ (rs.map Round.steady)).1 ∧
      (rounds ⟨Reader.ofSettings task settings, backend⟩ rs).2.backend.writer =
        (rounds ⟨Reader.ofSettings task settings, backend⟩ (rs.map Round.steady)).2.backend.writer ∧
      (rounds ⟨Reader.ofSettings task settings, backend⟩ rs).2.backend.store =
        (rounds ⟨Reader.ofSettings task settings, backend⟩
          (rs.map Round.steady)).2.backend.store := by
  have hsettled : Settled ⟨Reader.ofSettings task settings, backend⟩ :=
    ⟨rfl, rfl, hkeeps, position_of_held_eq_none rfl⟩
  have halike : Alike ⟨Reader.ofSettings task settings, backend⟩
      ⟨Reader.ofSettings task settings, backend⟩ := ⟨Like.refl _, hsettled, hsettled⟩
  obtain ⟨hreports, hafter⟩ := halike.rounds rs hread hsmooth
  exact ⟨hreports, hafter.writer, hafter.store⟩

/-- A store whose blob for the task is not a checkpoint. -/
def unreadable : Backend :=
  { store := CheckpointStore.put {} Collection.smallTask.identity [0x7B] }

/-- A first page that cannot be stored, a source that fails, and a page of one timestamp:
the job is built anew in between, and not after every poll. -/
def unevenRounds : List Round :=
  let source := Feed.source [.plain "a" "2015-01-01 10:00:00", .plain "b" "2015-01-01 10:00:01",
    .plain "c" "2015-01-01 10:00:01", .plain "d" "2015-01-01 10:00:02"] 2
  [{ source, faults := { store := some .closed } }, { source, anew := true },
    { source := fun _ => .error .transport, anew := true }, { source },
    { source, anew := true }, { source, anew := true }]

theorem rounds_steady_uneven :
    let job : Site := ⟨Reader.ofSettings Collection.smallTask Collection.smallSettings, unreadable⟩
    (job.rounds unevenRounds).1 = (job.rounds (unevenRounds.map Round.steady)).1 ∧
      (job.rounds unevenRounds).1.map PollReport.asked =
        [some "2015-01-01 00:00:00", some "2015-01-01 00:00:00", some "2015-01-01 10:00:01",
          some "2015-01-01 10:00:01", some "2015-01-01 10:00:02", some "2015-01-01 10:00:02"] := by
  intro job
  have hsmooth : job.AllSmooth (unevenRounds.map Round.steady) := by decide +kernel
  have hread : ∀ r ∈ unevenRounds, r.faults.read = none := by
    simp [unevenRounds]
  exact ⟨(rounds_steady _ _ unreadable rfl unevenRounds hread hsmooth).1, by decide +kernel⟩

end Collector.Site

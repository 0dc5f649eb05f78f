import Collector.Checkpoint.Cache
import Collector.Proofs.Checkpoint.Codec

/-!
# What is held and what is stored

A job of `harvest-source` holds its checkpoint in front of a store that may refuse to be
read or to be written, and that may be changed from outside.  `CheckpointSession` is a
cache before such a store, and `CheckpointOp` is what can happen to the two.

The held checkpoint and the stored one part whenever one of them changes alone: when a
checkpoint is held without being stored, and when the store is changed from outside.
A commit that succeeds brings them together, and either of them stays until an
operation gives it another checkpoint (`LeavesHeld`, `LeavesStored`).

Main statements:

* `CheckpointSession.act_spec`: the ways in which an operation can end.
* `CheckpointSession.follow_of_throughout`: what each of the operations keeps is kept by
  all of them.
* `CheckpointSession.consistent`: what is loaded after any operations.
-/

namespace Collector

/-! ## The store -/

namespace CheckpointStore

/-- The store gives back the checkpoint as the one of the task, once it can be read. -/
structure Keeps (s : CheckpointStore) (t : Task) (c : Checkpoint) : Prop where
  /-- The store remembers what it is given. -/
  remembers : s.forgetful = false
  /-- The blob of the task. -/
  blob : s.blobs.get? t.identity = some c.encode

/-- A store refuses a blob, or it is the store that it was, with this blob. -/
theorem write_cases (store : CheckpointStore) (t : Task) (b : Bytes) :
    (∃ e, store.write t b = .error e ∧ store.writeFault = some e) ∨
      ∃ store', store.write t b = .ok store' ∧ store'.forgetful = store.forgetful ∧
        store'.readFault = store.readFault ∧ store'.writeFault = store.writeFault ∧
        (store.forgetful = false → store'.blobs.get? t.identity = some b) := by
  simp only [CheckpointStore.write]
  split_ifs with hforget
  · exact .inr ⟨store, rfl, rfl, rfl, rfl, by simp [hforget]⟩
  · cases hfault : store.writeFault with
    | some e => exact .inl ⟨e, rfl, rfl⟩
    | none => exact .inr ⟨_, rfl, rfl, rfl, rfl, fun _ => KeyMap.get?_insert_self ..⟩

theorem keeps_of_write {store store' : CheckpointStore} {t : Task} {c : Checkpoint}
    (hremembers : store.forgetful = false) (h : store.write t c.encode = .ok store') :
    store'.Keeps t c := by
  rcases store.write_cases t c.encode with ⟨e, herror, -⟩ | ⟨_, hok, hforgetful, -, -, hblob⟩
  · rw [h] at herror
    cases herror
  · rw [h] at hok
    cases hok
    exact ⟨hforgetful.trans hremembers, hblob hremembers⟩

theorem Keeps.read {store : CheckpointStore} {t : Task} {c : Checkpoint} (h : store.Keeps t c) :
    store.read t =
      match store.readFault with
      | some e => .error e
      | none => .ok (some c.encode) := by
  cases hfault : store.readFault <;> simp [CheckpointStore.read, h.remembers, h.blob, hfault]

end CheckpointStore

/-! ## Loading and storing -/

namespace CheckpointCache

variable {c : CheckpointCache} {state : Checkpoint}

theorem trusted?_eq_some_iff :
    c.trusted? = some state ↔ c.held = some state ∧ state.cursor ≠ "" := by
  simp [trusted?, Option.filter_eq_some_iff, Checkpoint.isEmpty]

/-- The checkpoint that a blob stands for which holds one. -/
theorem resume_encode (initial : String) (state : Checkpoint) :
    resume initial (some state.encode) =
      if state.isEmpty then Checkpoint.initial initial else state := by
  simp only [resume, Checkpoint.decode?_encode]

/-- Whatever is stored, the checkpoint that it stands for names a cursor. -/
theorem resume_cursor_ne {initial : String} (h : initial ≠ "") (blob : Option Bytes) :
    (resume initial blob).cursor ≠ "" := by
  cases blob with
  | none => exact h
  | some bytes =>
    cases hdecode : Checkpoint.decode? bytes with
    | none =>
      simp only [resume, hdecode]
      exact h
    | some state =>
      simp only [resume, hdecode]
      split_ifs with hempty
      · exact h
      · simpa [Checkpoint.isEmpty] using hempty

/-- The store makes no difference while a checkpoint is held that names a cursor. -/
theorem load_of_held (t : Task) (hheld : c.held = some state) (hcursor : state.cursor ≠ "")
    (b : Backend) : c.load t b = (.ok state, c, b) := by
  simp only [load, trusted?_eq_some_iff.2 ⟨hheld, hcursor⟩]

end CheckpointCache

/-! ## Any operations -/

/-- The cache of a job and what it works on. -/
structure CheckpointSession where
  /-- The cache. -/
  cache : CheckpointCache
  /-- The backend that has the store. -/
  backend : Backend

/-- What can happen to a cache and its store. -/
inductive CheckpointOp where
  /-- The checkpoint to go on from is asked for. -/
  | load
  /-- A checkpoint is held without being stored. -/
  | apply (state : Checkpoint)
  /-- A checkpoint is stored and then held. -/
  | commit (state : Checkpoint)
  /-- From outside, the store gets other blobs, or begins or ceases to fail. -/
  | outside (store : CheckpointStore)

namespace CheckpointSession

/-- A cache as it is built, before any store. -/
def fresh (initial : String) (b : Backend) : CheckpointSession := ⟨⟨initial, none⟩, b⟩

/-- One operation for a task: its answer, which is a checkpoint if it is a load that
succeeds, and what it leaves behind. -/
def act (t : Task) (s : CheckpointSession) :
    CheckpointOp → Except PollError (Option Checkpoint) × CheckpointSession
  | .load =>
    match s.cache.load t s.backend with
    | (result, cache, backend) => (result.map some, ⟨cache, backend⟩)
  | .apply state => (.ok none, { s with cache := s.cache.apply state })
  | .commit state =>
    match s.cache.commit t state s.backend with
    | (result, cache, backend) => (result.map fun _ => none, ⟨cache, backend⟩)
  | .outside store => (.ok none, { s with backend := { s.backend with store } })

/-- The session after one operation and then another. -/
def follow (t : Task) (s : CheckpointSession) (ops : List CheckpointOp) : CheckpointSession :=
  ops.foldl (fun s op => (s.act t op).2) s

/-- Each of the operations has the property in the session that it is made in. -/
def Throughout (t : Task) (P : CheckpointSession → CheckpointOp → Prop) :
    CheckpointSession → List CheckpointOp → Prop
  | _, [] => True
  | s, op :: ops => P s op ∧ Throughout t P (s.act t op).2 ops

variable {t : Task} {s : CheckpointSession} {op : CheckpointOp}

/-- What each of the operations keeps is kept by all of them. -/
theorem follow_of_throughout {P : CheckpointSession → CheckpointOp → Prop}
    {I : CheckpointSession → Prop} (hstep : ∀ s op, I s → P s op → I (s.act t op).2)
    {ops : List CheckpointOp} (hops : Throughout t P s ops) (h : I s) : I (s.follow t ops) := by
  induction ops generalizing s with
  | nil => exact h
  | cons op ops ih => exact ih hops.2 (hstep s op h hops.1)

/-! ### One operation -/

/-- The ways in which an operation can end. -/
inductive Acted (t : Task) (s : CheckpointSession) :
    CheckpointOp → Except PollError (Option Checkpoint) × CheckpointSession → Prop
  /-- The checkpoint that is held names a cursor, and nothing is asked. -/
  | trusted {state : Checkpoint} (hheld : s.cache.held = some state) (hcursor : state.cursor ≠ "") :
      Acted t s .load (.ok (some state), s)
  /-- The store is asked and fails. -/
  | unread {e : ClientError} (hnone : s.cache.trusted? = none)
      (hread : s.backend.store.read t = .error e) :
      Acted t s .load (.error (.checkpoint e), ⟨s.cache, s.backend.log .storeRead⟩)
  /-- The store is asked, and what it gives is held from then on. -/
  | resumed {blob : Option Bytes} (hnone : s.cache.trusted? = none)
      (hread : s.backend.store.read t = .ok blob) :
      Acted t s .load (.ok (some (CheckpointCache.resume s.cache.initial blob)),
        ⟨s.cache.apply (CheckpointCache.resume s.cache.initial blob), s.backend.log .storeRead⟩)
  /-- A checkpoint is held. -/
  | applied (state : Checkpoint) :
      Acted t s (.apply state) (.ok none, ⟨s.cache.apply state, s.backend⟩)
  /-- The store refuses a checkpoint. -/
  | refused {state : Checkpoint} {e : ClientError}
      (hwrite : s.backend.store.write t state.encode = .error e) :
      Acted t s (.commit state) (.error (.checkpoint e), ⟨s.cache, s.backend.log .storeWrite⟩)
  /-- The store has a checkpoint, which is held from then on. -/
  | committed {state : Checkpoint} {store : CheckpointStore}
      (hwrite : s.backend.store.write t state.encode = .ok store) :
      Acted t s (.commit state)
        (.ok none, ⟨s.cache.apply state, { s.backend.log .storeWrite with store }⟩)
  /-- The store is another one. -/
  | outside (store : CheckpointStore) :
      Acted t s (.outside store) (.ok none, ⟨s.cache, { s.backend with store }⟩)

theorem act_spec (t : Task) (s : CheckpointSession) (op : CheckpointOp) :
    Acted t s op (s.act t op) := by
  obtain ⟨cache, backend⟩ := s
  cases op with
  | load =>
    cases htrusted : cache.trusted? with
    | some state =>
      obtain ⟨hheld, hcursor⟩ := CheckpointCache.trusted?_eq_some_iff.1 htrusted
      simp only [act, CheckpointCache.load_of_held t hheld hcursor]
      exact .trusted hheld hcursor
    | none =>
      cases hread : backend.store.read t with
      | error e =>
        simp only [act, CheckpointCache.load, htrusted, Backend.readBlob, hread]
        exact .unread htrusted hread
      | ok blob =>
        simp only [act, CheckpointCache.load, htrusted, Backend.readBlob, hread]
        exact .resumed htrusted hread
  | commit state =>
    simp only [act, CheckpointCache.commit, CheckpointCache.persist, Backend.writeBlob]
    cases hwrite : backend.store.write t state.encode with
    | error e =>
      simp only [Backend.log, hwrite]
      exact .refused hwrite
    | ok store =>
      simp only [Backend.log, hwrite]
      exact .committed hwrite
  | apply state => exact .applied state
  | outside store => exact .outside store

theorem act_initial (t : Task) (s : CheckpointSession) (op : CheckpointOp) :
    (s.act t op).2.cache.initial = s.cache.initial := by
  generalize hend : s.act t op = answer
  cases hend ▸ act_spec t s op <;> rfl

theorem follow_initial (t : Task) (s : CheckpointSession) (ops : List CheckpointOp) :
    (s.follow t ops).cache.initial = s.cache.initial := by
  induction ops generalizing s with
  | nil => rfl
  | cons op ops ih => exact (ih (s.act t op).2).trans (act_initial t s op)

/-- A load gives a checkpoint with a cursor, or it asks the store and the store fails. -/
theorem act_load (h : s.cache.initial ≠ "") :
    (∃ state, (s.act t .load).1 = .ok (some state) ∧ state.cursor ≠ "") ∨
      ∃ e, (s.act t .load).1 = .error (.checkpoint e) ∧ s.cache.trusted? = none ∧
        s.backend.store.read t = .error e := by
  generalize hend : s.act t .load = answer
  cases hend ▸ act_spec t s .load with
  | trusted _ hcursor => exact .inl ⟨_, rfl, hcursor⟩
  | unread hnone hread => exact .inr ⟨_, rfl, hnone, hread⟩
  | resumed _ _ => exact .inl ⟨_, rfl, CheckpointCache.resume_cursor_ne h _⟩

/-- An operation that fails leaves what is held and what is stored. -/
theorem act_of_error {e : PollError} (h : (s.act t op).1 = .error e) :
    (s.act t op).2.cache = s.cache ∧ (s.act t op).2.backend.store = s.backend.store := by
  generalize hend : s.act t op = answer at h ⊢
  cases hend ▸ act_spec t s op with
  | unread | refused => exact ⟨rfl, rfl⟩
  | trusted | resumed | applied | committed | outside => cases h

/-- A cache that is built anew loads the stored checkpoint, whatever its start time is. -/
theorem act_load_fresh {c : Checkpoint} {b : Backend} (hkeeps : b.store.Keeps t c)
    (hcursor : c.cursor ≠ "") (initial : String) :
    ((fresh initial b).act t .load).1 =
      match b.store.readFault with
      | some e => .error (.checkpoint e)
      | none => .ok (some c) := by
  have hnone : CheckpointCache.trusted? ⟨initial, none⟩ = none := rfl
  have hresume : CheckpointCache.resume initial (some c.encode) = c := by
    simp [CheckpointCache.resume_encode, Checkpoint.isEmpty, hcursor]
  simp only [act, fresh, CheckpointCache.load, hnone, Backend.readBlob, hkeeps.read]
  cases b.store.readFault with
  | some e => rfl
  | none => simp only [hresume, Except.map]

/-! ### What stays -/

/-- The operation gives the cache no other checkpoint: it loads one or changes the store
from outside, or the checkpoint is the same, or the store refuses it. -/
def LeavesHeld (t : Task) (c : Checkpoint) (s : CheckpointSession) : CheckpointOp → Prop
  | .load | .outside _ => True
  | .apply state => state = c
  | .commit state => state = c ∨ (s.act t (.commit state)).1.isOk = false

/-- The operation gives the store no other checkpoint: it loads or holds one, or the
checkpoint is the same, or the store refuses it, or it is still there after a change from
outside. -/
def LeavesStored (t : Task) (c : Checkpoint) (s : CheckpointSession) : CheckpointOp → Prop
  | .load | .apply _ => True
  | .commit state => state = c ∨ (s.act t (.commit state)).1.isOk = false
  | .outside store => store.Keeps t c

instance (t : Task) (c : Checkpoint) (s : CheckpointSession) (op : CheckpointOp) :
    Decidable (LeavesHeld t c s op) := by
  cases op <;> unfold LeavesHeld <;> infer_instance

variable {c : Checkpoint}

theorem held_act (hcursor : c.cursor ≠ "") (h : s.cache.held = some c)
    (hop : LeavesHeld t c s op) : (s.act t op).2.cache.held = some c := by
  have htrusted := CheckpointCache.trusted?_eq_some_iff.2 ⟨h, hcursor⟩
  generalize hend : s.act t op = answer
  cases hend ▸ act_spec t s op with
  | trusted | unread | refused | outside => exact h
  | resumed hnone =>
    rw [htrusted] at hnone
    cases hnone
  | applied state => exact congrArg some hop
  | committed =>
    rcases hop with rfl | hfails
    · rfl
    · rw [hend] at hfails
      cases hfails

theorem keeps_act (h : s.backend.store.Keeps t c) (hop : LeavesStored t c s op) :
    (s.act t op).2.backend.store.Keeps t c := by
  generalize hend : s.act t op = answer
  cases hend ▸ act_spec t s op with
  | trusted | unread | resumed | applied | refused => exact h
  | outside => exact hop
  | committed hwrite =>
    rcases hop with rfl | hfails
    · exact CheckpointStore.keeps_of_write h.remembers hwrite
    · rw [hend] at hfails
      cases hfails

theorem held_follow (hcursor : c.cursor ≠ "") (h : s.cache.held = some c)
    {ops : List CheckpointOp} (hops : Throughout t (LeavesHeld t c) s ops) :
    (s.follow t ops).cache.held = some c :=
  follow_of_throughout (I := fun s => s.cache.held = some c)
    (fun _ _ h hop => held_act hcursor h hop) hops h

theorem keeps_follow (h : s.backend.store.Keeps t c) {ops : List CheckpointOp}
    (hops : Throughout t (LeavesStored t c) s ops) : (s.follow t ops).backend.store.Keeps t c :=
  follow_of_throughout (I := fun s => s.backend.store.Keeps t c)
    (fun _ _ h hop => keeps_act h hop) hops h

/-- A commit that succeeds brings what is held and what is stored together. -/
theorem act_commit (h : (s.act t (.commit c)).1.isOk = true) :
    (s.act t (.commit c)).2.cache.held = some c ∧
      (s.backend.store.forgetful = false → (s.act t (.commit c)).2.backend.store.Keeps t c) := by
  generalize hend : s.act t (.commit c) = answer at h ⊢
  cases hend ▸ act_spec t s (.commit c) with
  | refused => cases h
  | committed hwrite =>
    exact ⟨rfl, fun hremembers => CheckpointStore.keeps_of_write hremembers hwrite⟩

/-- After any operations on a cache that is built with a start time: a load gives a
checkpoint with a cursor unless the store fails; while such a checkpoint is held, it is
loaded whatever the store is; an operation that fails leaves what is held and what is
stored; and once a checkpoint was committed, it is loaded from the cache as long as the
cache is given no other, and by every cache that is built anew as long as the store is
given no other. -/
theorem consistent (t : Task) {initial : String} (hinitial : initial ≠ "") (b : Backend)
    (ops : List CheckpointOp) :
    let s := (fresh initial b).follow t ops
    ((∃ c, (s.act t .load).1 = .ok (some c) ∧ c.cursor ≠ "") ∨
      ∃ e, (s.act t .load).1 = .error (.checkpoint e) ∧ s.cache.trusted? = none ∧
        s.backend.store.read t = .error e) ∧
    (∀ c, s.cache.held = some c → c.cursor ≠ "" →
      ∀ b', s.cache.load t b' = (.ok c, s.cache, b')) ∧
    (∀ op e, (s.act t op).1 = .error e →
      (s.act t op).2.cache = s.cache ∧ (s.act t op).2.backend.store = s.backend.store) ∧
    ∀ c, c.cursor ≠ "" → (s.act t (.commit c)).1.isOk = true → ∀ later,
      let u := (s.act t (.commit c)).2.follow t later
      (Throughout t (LeavesHeld t c) (s.act t (.commit c)).2 later →
        ∀ b', u.cache.load t b' = (.ok c, u.cache, b')) ∧
      (s.backend.store.forgetful = false →
        Throughout t (LeavesStored t c) (s.act t (.commit c)).2 later →
        ∀ initial', ((fresh initial' u.backend).act t .load).1 =
          match u.backend.store.readFault with
          | some e => .error (.checkpoint e)
          | none => .ok (some c)) := by
  intro s
  have hstart : s.cache.initial ≠ "" := by
    rwa [follow_initial t (fresh initial b) ops]
  refine ⟨act_load hstart, fun c hheld hcursor => CheckpointCache.load_of_held t hheld hcursor,
    fun op e h => act_of_error h, ?_⟩
  intro c hcursor hcommit later u
  obtain ⟨hheld, hkeeps⟩ := act_commit hcommit
  constructor
  · intro hlater
    exact CheckpointCache.load_of_held t (held_follow hcursor hheld hlater) hcursor
  · intro hremembers hlater initial'
    exact act_load_fresh (keeps_follow (hkeeps hremembers) hlater) hcursor initial'

/-- The store has a blob that is no checkpoint, and one without a cursor is held.  Then
one is committed: the cache keeps it when the store loses it and when another one is
refused, and the store keeps it when the cache is given another one. -/
theorem consistent_after_unreadable :
    let task : Task :=
      ⟨KeyMap.ofList [(Setting.app, "feed"), (Setting.taskKey, "feed-1")],
        ⟨"feed", by decide, by decide⟩, ⟨"feed-1", by decide, by decide⟩⟩
    let start := "2015-01-01 00:00:00"
    let c := Checkpoint.ofCursor "2015-01-01 10:00:01" ["b"]
    let other := Checkpoint.initial "2016-01-01 00:00:00"
    let s := (fresh start { store := CheckpointStore.put {} task.identity [0x7B] }).follow task
      [.load, .apply (Checkpoint.initial "")]
    let committed := (s.act task (.commit c)).2
    let u := committed.follow task [.outside { writeFault := some .closed }, .commit other, .load]
    let v := committed.follow task [.apply other, .load]
    (s.act task .load).1 = .ok (some (Checkpoint.initial start)) ∧
      u.cache.load task u.backend = (.ok c, u.cache, u.backend) ∧
      ((fresh "2014-01-01 00:00:00" v.backend).act task .load).1 = .ok (some c) := by
  intro task start c other s committed u v
  have hstart : start ≠ "" := by decide
  have hcursor : c.cursor ≠ "" := by decide
  have hcommit : (s.act task (.commit c)).1.isOk = true := by decide +kernel
  have hu : Throughout task (LeavesHeld task c) committed
      [.outside { writeFault := some .closed }, .commit other, .load] :=
    ⟨trivial, .inr (by decide +kernel), trivial, trivial⟩
  have hv : Throughout task (LeavesStored task c) committed [.apply other, .load] :=
    ⟨trivial, trivial, trivial⟩
  obtain ⟨-, -, -, hlater⟩ := consistent task hstart
    { store := CheckpointStore.put {} task.identity [0x7B] } [.load, .apply (Checkpoint.initial "")]
  obtain ⟨hheld, -⟩ := hlater c hcursor hcommit
    [.outside { writeFault := some .closed }, .commit other, .load]
  obtain ⟨-, hstored⟩ := hlater c hcursor hcommit [.apply other, .load]
  exact ⟨by decide +kernel, hheld hu u.backend, hstored rfl hv "2014-01-01 00:00:00"⟩

end CheckpointSession

end Collector

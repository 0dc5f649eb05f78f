import Mathlib.Logic.Relation
import Collector.Proofs.Poll.Overlap
import Collector.Proofs.Poll.Restart

/-!
# The cursor moves forward

Three places move the cursor of a job of `harvest-source`: a new checkpoint is held once
it is stored, one that was forced past a timestamp is held before anything is written, and
a job that is built anew goes on from what is stored.  A run takes polls apart into their
steps (`Watch.Move`), each with calls that may fail, and builds the job anew between any
two of them (`Watch.Turn`).

Against a source whose pages have plain timestamps at or after the cursor, what is held
never lies before what is stored, but for the moment in which a poll has stored its
checkpoint and is about to hold it (`Stage.InLine`).

Main statements:

* `Watch.OnCourse.move`, `Watch.OnCourse.anew`: what one step preserves.
* `Watch.reaches_poll`: a whole poll is one of these runs.
* `Watch.cursors_forward`: the stored cursor and the one in memory only move forward.
-/

namespace Collector

/-- The pages of a source have plain timestamps, none of them before the cursor that it
was asked for. -/
def Source.Follows (source : Source) : Prop :=
  ∀ cursor page, source cursor = .ok page → page.Follows cursor

/-- If there is a first checkpoint there is a second one, and its cursor does not lie
before. -/
def Checkpoint.Upto (a b : Option Checkpoint) : Prop :=
  ∀ p, a = some p → ∃ q, b = some q ∧ p.cursor ≤ q.cursor

namespace Checkpoint

theorem upto_refl (a : Option Checkpoint) : Upto a a := fun p hp => ⟨p, hp, le_rfl⟩

theorem upto_none (b : Option Checkpoint) : Upto none b := nofun

theorem Upto.trans {a b c : Option Checkpoint} (h : Upto a b) (k : Upto b c) : Upto a c := by
  intro p hp
  obtain ⟨q, hq, hpq⟩ := h p hp
  obtain ⟨r, hr, hqr⟩ := k q hq
  exact ⟨r, hr, hpq.trans hqr⟩

end Checkpoint

open Checkpoint (Upto upto_refl upto_none)

namespace Site

variable {s t : Site}

/-- The checkpoint that is stored. -/
def persisted (s : Site) : Option Checkpoint := s.blob.bind Checkpoint.decode?

/-- The job begins from the same cursors, and has the same blob. -/
structure Alongside (s t : Site) : Prop where
  /-- Both jobs have the same cursor to begin from. -/
  initial : t.reader.cache.initial = s.reader.cache.initial
  /-- Both jobs poll the source in the same way. -/
  settings : t.reader.settings = s.reader.settings
  /-- Both jobs have the same blob. -/
  blob : t.blob = s.blob

theorem Untouched.alongside (h : Untouched s t) : Alongside s t := ⟨h.initial, h.settings, h.blob⟩

theorem Alongside.persisted (h : Alongside s t) : t.persisted = s.persisted :=
  congrArg (Option.bind · _) h.blob

/-- All cursors that the job may go on from are plain timestamps. -/
structure Dated (s : Site) : Prop where
  /-- The cursor to begin from is plain. -/
  initial : Timestamp.Plain s.reader.cache.initial
  /-- The cursor to begin from once the job is built anew is plain. -/
  configured : Timestamp.Plain s.reader.settings.nextRecordTime
  /-- A blob that is stored is that of a checkpoint whose cursor is plain. -/
  stored : ∀ blob, s.blob = some blob → ∃ p, s.persisted = some p ∧ Timestamp.Plain p.cursor
  /-- The cursor of a checkpoint that is held is plain. -/
  held : ∀ p, s.held = some p → Timestamp.Plain p.cursor

/-- The checkpoint that is held does not lie before the stored one. -/
def Abreast (s : Site) : Prop :=
  ∀ p q, s.persisted = some p → s.held = some q → p.cursor ≤ q.cursor

theorem Dated.suffer (h : Dated s) (f : Faults) : Dated (s.suffer f) := ⟨h.1, h.2, h.3, h.4⟩

/-- A job that changes only what it holds goes on from plain timestamps if it holds one. -/
theorem Dated.of_alongside (h : Dated s) (ht : Alongside s t)
    (hheld : ∀ p, t.held = some p → Timestamp.Plain p.cursor) : Dated t where
  initial := ht.initial ▸ h.initial
  configured := ht.settings ▸ h.configured
  stored blob hblob := ht.persisted ▸ h.stored blob (ht.blob ▸ hblob)
  held := hheld

theorem Abreast.of_alongside (h : s.Abreast) (ht : Alongside s t) (hheld : t.held = s.held) :
    t.Abreast := by
  intro p q hp hq
  exact h p q (ht.persisted ▸ hp) (hheld ▸ hq)

/-- The position is the checkpoint that is held, or else the stored one, or the start
time. -/
theorem Dated.position (h : Dated s) : Timestamp.Plain s.position.cursor ∧
    Upto s.held (some s.position) ∧ (s.Abreast → Upto s.persisted (some s.position)) := by
  cases hheld : s.held with
  | some p =>
    have hplain := h.held p hheld
    rw [position_of_held hheld hplain.ne_empty]
    refine ⟨hplain, upto_refl _, ?_⟩
    intro habreast q hq
    exact ⟨p, rfl, habreast q p hq hheld⟩
  | none =>
    rw [position_of_held_eq_none hheld, saved]
    cases hblob : s.blob with
    | none =>
      refine ⟨h.initial, upto_none _, ?_⟩
      intro _ q hq
      rw [persisted, hblob] at hq
      cases hq
    | some blob =>
      obtain ⟨p, hp, hplain⟩ := h.stored blob hblob
      have hdecode : Checkpoint.decode? blob = some p := by
        rw [persisted, hblob] at hp
        exact hp
      have hempty : p.isEmpty = false := decide_eq_false hplain.ne_empty
      have hresume : CheckpointCache.resume s.reader.cache.initial (some blob) = p := by
        simp only [CheckpointCache.resume, hdecode, hempty, Bool.false_eq_true, if_false]
      rw [hresume]
      refine ⟨hplain, upto_none _, ?_⟩
      intro _
      rw [hp]
      exact upto_refl _

theorem Dated.anew (h : Dated s) : Dated s.anew where
  initial := h.configured
  configured := h.configured
  stored := h.stored
  held := by rintro p ⟨⟩

theorem abreast_anew (s : Site) : s.anew.Abreast := by rintro p q - ⟨⟩

end Site

/-! ## Steps of a poll -/

/-- What a poll is about to do keeps to the order of what is stored, what is held and
what comes next. -/
def Stage.InLine (s : Site) : Stage → Prop
  | .fetch previous => s.Abreast ∧ s.held = some previous
  | .advance r | .deliver r | .persist r => s.Abreast ∧ ∃ p, s.held = some p ∧
      ∀ next, r.checkpoint = some next → Timestamp.Plain next.cursor ∧ p.cursor ≤ next.cursor
  | .hold _ next => Timestamp.Plain next.cursor ∧ Upto s.held (some next) ∧
      Upto s.persisted (some next)
  | _ => s.Abreast

/-- But for the moment between storing and holding, what is held does not lie before what
is stored. -/
theorem Stage.InLine.abreast {s : Site} {stage : Stage} (h : stage.InLine s)
    (hstage : ∀ r next, stage ≠ .hold r next) : s.Abreast := by
  cases stage with
  | hold r next => exact absurd rfl (hstage r next)
  | fetch | advance | deliver | persist => exact h.1
  | claim | load | release | finished => exact h

/-- A job, and what its poll does next. -/
structure Watch where
  /-- The job that is watched. -/
  site : Site
  /-- What the poll of the job does next; one that has not begun claims the reader. -/
  stage : Stage := .claim

namespace Watch

variable {v w : Watch}

/-- One step of a poll with calls that may fail, or the next poll after one that is over. -/
inductive Move : Watch → Watch → Prop
  /-- The poll does its next step. -/
  | step (w : Watch) (f : Faults) (source : Source) (hsource : source.Follows) :
      Move w ⟨(w.stage.step source (w.site.suffer f)).2, (w.stage.step source (w.site.suffer f)).1⟩
  /-- Behind a poll that is over another one follows. -/
  | again (w : Watch) (result : Except PollError PollOutcome) (hover : w.stage = .finished result) :
      Move w ⟨w.site, .claim⟩

/-- The job may be built anew at any time; a poll that was on its way is lost. -/
inductive Turn : Watch → Watch → Prop
  /-- The job goes on. -/
  | move {v w : Watch} (h : Move v w) : Turn v w
  /-- The job is built anew, and its next poll has not begun. -/
  | anew (w : Watch) : Turn w ⟨w.site.anew, .claim⟩

/-- All cursors are plain timestamps, and in order. -/
structure OnCourse (w : Watch) : Prop where
  /-- All cursors that the job may go on from are plain timestamps. -/
  dated : w.site.Dated
  /-- What the poll is about to do keeps the cursors in order. -/
  inLine : w.stage.InLine w.site

/-- A step leads to a job on course, and nothing has moved backwards. -/
structure Ahead (v w : Watch) : Prop where
  /-- The job is on course afterwards. -/
  onCourse : OnCourse w
  /-- The stored checkpoint has not moved backwards. -/
  persisted : Upto v.site.persisted w.site.persisted
  /-- The held checkpoint has not moved backwards. -/
  held : Upto v.site.held w.site.held

/-- A step that stores nothing goes ahead if what it holds does not lie before what was held. -/
theorem Ahead.of_alongside {s t : Site} {stage stage' : Stage} (h : s.Dated)
    (ht : Site.Alongside s t) (hheld : Upto s.held t.held)
    (hplain : ∀ p, t.held = some p → Timestamp.Plain p.cursor) (hline : stage'.InLine t) :
    Ahead ⟨s, stage⟩ ⟨t, stage'⟩ :=
  ⟨⟨h.of_alongside ht hplain, hline⟩, by rw [ht.persisted]; exact upto_refl _, hheld⟩

/-- A step that changes neither what is stored nor what is held goes ahead. -/
theorem Ahead.of_same {s t : Site} {stage stage' : Stage} (h : s.Dated)
    (ht : Site.Alongside s t) (hheld : t.held = s.held) (hline : stage'.InLine t) :
    Ahead ⟨s, stage⟩ ⟨t, stage'⟩ := by
  refine .of_alongside h ht ?_ ?_ hline
  · rw [hheld]
    exact upto_refl _
  · rw [hheld]
    exact h.held

namespace OnCourse

variable {s : Site} {source : Source}

/-- The poll claims the reader, or is skipped. -/
theorem claim (h : OnCourse ⟨s, .claim⟩) (source : Source) :
    Ahead ⟨s, .claim⟩ ⟨(Stage.claim.step source s).2, (Stage.claim.step source s).1⟩ := by
  have habreast : s.Abreast := h.inLine
  simp only [Stage.step]
  cases hclaim : s.claim? with
  | none => exact .of_same h.dated ⟨rfl, rfl, rfl⟩ rfl habreast
  | some t =>
    simp only [Site.claim?, Option.map_eq_some_iff] at hclaim
    obtain ⟨guard, -, rfl⟩ := hclaim
    exact .of_same h.dated ⟨rfl, rfl, rfl⟩ rfl habreast

/-- The poll loads its position. -/
theorem load (h : OnCourse ⟨s, .load⟩) (source : Source) :
    Ahead ⟨s, .load⟩ ⟨(Stage.load.step source s).2, (Stage.load.step source s).1⟩ := by
  have habreast : s.Abreast := h.inLine
  rcases s.load_cases with ⟨e, t, hload, -, hheld, ht⟩ | ⟨t, hload, hheld, ht⟩
  · simp only [Stage.step, hload]
    exact .of_same h.dated ht.alongside hheld (habreast.of_alongside ht.alongside hheld)
  · obtain ⟨hplain, hup, hstored⟩ := h.dated.position
    simp only [Stage.step, hload]
    refine .of_alongside h.dated ht.alongside (hheld ▸ hup) ?_ ⟨?_, hheld⟩
    · intro p hp
      obtain rfl : s.position = p := Option.some.inj (hheld.symm.trans hp)
      exact hplain
    · intro p q hp hq
      obtain rfl : s.position = q := Option.some.inj (hheld.symm.trans hq)
      obtain ⟨q', hq', hle⟩ := hstored habreast p (ht.alongside.persisted ▸ hp)
      obtain rfl : s.position = q' := Option.some.inj hq'
      exact hle

/-- The page that the poll gets leads to a later checkpoint, if to any. -/
theorem fetch {previous : Checkpoint} (h : OnCourse ⟨s, .fetch previous⟩)
    (hsource : source.Follows) :
    Ahead ⟨s, .fetch previous⟩
      ⟨((Stage.fetch previous).step source s).2, ((Stage.fetch previous).step source s).1⟩ := by
  obtain ⟨habreast, hheld⟩ : s.Abreast ∧ s.held = some previous := h.inLine
  simp only [Stage.step]
  cases hcollect : s.collect source previous with
  | error e => exact .of_same h.dated ⟨rfl, rfl, rfl⟩ rfl habreast
  | ok r =>
    obtain ⟨page, hpage, hreconcile⟩ := Collection.page_of_collect hcollect
    have hcases := reconcile_cases previous page s.reader.settings.pageSize
    rw [hreconcile] at hcases
    refine .of_same h.dated ⟨rfl, rfl, rfl⟩ rfl ⟨habreast, previous, hheld, ?_⟩
    intro next hnext
    exact hcases.forward (hsource _ page hpage) hnext

/-- A checkpoint that was forced past a timestamp is held at once. -/
theorem advance {r : Reconciled} (h : OnCourse ⟨s, .advance r⟩) :
    Ahead ⟨s, .advance r⟩ ⟨s.advance r, .deliver r⟩ := by
  obtain ⟨habreast, p, hheld, hnext⟩ : s.Abreast ∧ ∃ p, s.held = some p ∧
    ∀ next, r.checkpoint = some next → Timestamp.Plain next.cursor ∧ p.cursor ≤ next.cursor :=
    h.inLine
  obtain ⟨hadvanced, ht⟩ := Site.advance_spec r hheld
  -- what is held is the old checkpoint or the new one
  have hahead : Timestamp.Plain (r.ahead p).cursor ∧ p.cursor ≤ (r.ahead p).cursor ∧
      ∀ next, r.checkpoint = some next → (r.ahead p).cursor ≤ next.cursor := by
    unfold Reconciled.ahead
    split_ifs
    · cases hcheckpoint : r.checkpoint with
      | none => exact ⟨h.dated.held p hheld, le_rfl, nofun⟩
      | some q =>
        obtain ⟨hplain, hle⟩ := hnext q hcheckpoint
        refine ⟨hplain, hle, ?_⟩
        rintro next ⟨⟩
        exact le_rfl
    · exact ⟨h.dated.held p hheld, le_rfl, fun next hcheckpoint => (hnext next hcheckpoint).2⟩
  obtain ⟨hplain, hle, hlater⟩ := hahead
  refine .of_alongside h.dated ht.alongside ?_ ?_ ⟨?_, _, hadvanced, ?_⟩
  · rw [hheld, hadvanced]
    rintro q ⟨⟩
    exact ⟨_, rfl, hle⟩
  · rw [hadvanced]
    rintro q ⟨⟩
    exact hplain
  · rw [Site.Abreast, hadvanced, ht.alongside.persisted]
    rintro q _ hq ⟨⟩
    exact (habreast q p hq hheld).trans hle
  · intro next hcheckpoint
    exact ⟨(hnext next hcheckpoint).1, hlater next hcheckpoint⟩

/-- Writing changes nothing about the checkpoints. -/
theorem deliver {r : Reconciled} (h : OnCourse ⟨s, .deliver r⟩) (source : Source) :
    Ahead ⟨s, .deliver r⟩
      ⟨((Stage.deliver r).step source s).2, ((Stage.deliver r).step source s).1⟩ := by
  obtain ⟨habreast, p, hheld, hnext⟩ : s.Abreast ∧ ∃ p, s.held = some p ∧
    ∀ next, r.checkpoint = some next → Timestamp.Plain next.cursor ∧ p.cursor ≤ next.cursor :=
    h.inLine
  rcases s.deliver_cases r with ⟨e, hdeliver, -⟩ | ⟨t, hdeliver, -, htheld, ht, htblob, -⟩
  · simp only [Stage.step, hdeliver]
    exact .of_same h.dated ⟨rfl, rfl, rfl⟩ rfl habreast
  · have halong : Site.Alongside s t := ⟨ht.initial, ht.settings, htblob⟩
    simp only [Stage.step, hdeliver]
    exact .of_same h.dated halong htheld
      ⟨habreast.of_alongside halong htheld, p, htheld.trans hheld, hnext⟩

/-- A checkpoint is stored that does not lie before the one that is held. -/
theorem persist {r : Reconciled} (h : OnCourse ⟨s, .persist r⟩) (source : Source) :
    Ahead ⟨s, .persist r⟩
      ⟨((Stage.persist r).step source s).2, ((Stage.persist r).step source s).1⟩ := by
  obtain ⟨habreast, p, hheld, hnext⟩ : s.Abreast ∧ ∃ p, s.held = some p ∧
    ∀ next, r.checkpoint = some next → Timestamp.Plain next.cursor ∧ p.cursor ≤ next.cursor :=
    h.inLine
  cases hcheckpoint : r.checkpoint with
  | none =>
    simp only [Stage.step, hcheckpoint]
    exact .of_same h.dated ⟨rfl, rfl, rfl⟩ rfl habreast
  | some next =>
    obtain ⟨hplain, hle⟩ := hnext next hcheckpoint
    rcases s.persist_cases next with ⟨e, t, hpersist, -, htheld, ht⟩ |
      ⟨t, hpersist, htheld, ht, htblob, -⟩
    · simp only [Stage.step, hcheckpoint, hpersist]
      exact .of_same h.dated ht.alongside htheld (habreast.of_alongside ht.alongside htheld)
    · -- a store that forgets had no blob before either
      have hstored : t.blob = some next.encode ∧ t.persisted = some next ∨
          t.persisted = none ∧ t.blob = none ∧ s.persisted = none := by
        rw [Site.persisted, Site.persisted, htblob, Site.blobOf]
        cases hforget : s.backend.store.forgetful with
        | false =>
          simp only [Bool.false_eq_true, if_false, Option.bind_some, Checkpoint.decode?_encode]
          exact .inl ⟨trivial, trivial⟩
        | true => simp [Site.blob, hforget]
      simp only [Stage.step, hcheckpoint, hpersist]
      refine ⟨⟨⟨ht.initial ▸ h.dated.initial, ht.settings ▸ h.dated.configured, ?_, ?_⟩,
        hplain, ?_, ?_⟩, ?_, ?_⟩
      · intro blob hblob
        rcases hstored with ⟨-, hpersisted⟩ | ⟨-, hnone, -⟩
        · exact ⟨next, hpersisted, hplain⟩
        · rw [hnone] at hblob
          cases hblob
      · rw [htheld]
        exact h.dated.held
      · rw [htheld, hheld]
        rintro q ⟨⟩
        exact ⟨next, rfl, hle⟩
      · rcases hstored with ⟨-, hpersisted⟩ | ⟨hnone, -⟩
        · rw [hpersisted]
          exact upto_refl _
        · rw [hnone]
          exact upto_none _
      · rcases hstored with ⟨-, hpersisted⟩ | ⟨-, -, hnone⟩
        · rw [hpersisted]
          intro q hq
          exact ⟨next, rfl, (habreast q p hq hheld).trans hle⟩
        · rw [hnone]
          exact upto_none _
      · rw [htheld]
        exact upto_refl _

/-- The checkpoint that was stored is held. -/
theorem hold {r : Reconciled} {next : Checkpoint} (h : OnCourse ⟨s, .hold r next⟩) :
    Ahead ⟨s, .hold r next⟩ ⟨s.hold next, .release (.ok (Site.outcome r))⟩ := by
  obtain ⟨hplain, hheld, hpersisted⟩ : Timestamp.Plain next.cursor ∧ Upto s.held (some next) ∧
    Upto s.persisted (some next) := h.inLine
  have ht := (Site.untouched_hold s next).alongside
  refine .of_alongside h.dated ht hheld ?_ ?_
  · rintro p ⟨⟩
    exact hplain
  · rintro p q hp ⟨⟩
    obtain ⟨q, hq, hle⟩ := hpersisted p (ht.persisted ▸ hp)
    obtain rfl : next = q := Option.some.inj hq
    exact hle

/-- The next step of a poll, whichever it is, goes ahead. -/
theorem step {stage : Stage} (h : OnCourse ⟨s, stage⟩) (hsource : source.Follows) :
    Ahead ⟨s, stage⟩ ⟨(stage.step source s).2, (stage.step source s).1⟩ := by
  cases stage with
  | claim => exact h.claim source
  | load => exact h.load source
  | fetch previous => exact h.fetch hsource
  | advance r => exact h.advance
  | deliver r => exact h.deliver source
  | persist r => exact h.persist source
  | hold r next => exact h.hold
  | release result =>
    have habreast : s.Abreast := h.inLine
    exact .of_same h.dated ⟨rfl, rfl, rfl⟩ rfl habreast
  | finished result =>
    have habreast : s.Abreast := h.inLine
    exact .of_same h.dated ⟨rfl, rfl, rfl⟩ rfl habreast

/-- A step of a job that is not built anew goes ahead. -/
theorem move (h : OnCourse v) (hmove : Move v w) : Ahead v w := by
  cases hmove with
  | step f source hsource =>
    have hsuffering : OnCourse ⟨v.site.suffer f, v.stage⟩ := ⟨h.dated.suffer f, by
      obtain ⟨site, stage⟩ := v
      cases stage <;> exact h.inLine⟩
    obtain ⟨honcourse, hpersisted, hheld⟩ := hsuffering.step hsource
    exact ⟨honcourse, hpersisted, hheld⟩
  | again result hover =>
    have hline : v.stage.InLine v.site := h.inLine
    rw [hover] at hline
    exact ⟨⟨h.dated, hline⟩, upto_refl _, upto_refl _⟩

/-- A job that is built anew holds nothing, and has what was stored. -/
theorem anew (h : OnCourse v) : OnCourse ⟨v.site.anew, .claim⟩ :=
  ⟨h.dated.anew, v.site.abreast_anew⟩

end OnCourse

/-! ## Runs -/

/-- Without being built anew, the job holds no earlier cursor. -/
theorem ahead_of_moves (h : OnCourse v) (hrun : Relation.ReflTransGen Move v w) : Ahead v w := by
  induction hrun with
  | refl => exact ⟨h, upto_refl _, upto_refl _⟩
  | tail _ hmove ih =>
    obtain ⟨honcourse, hpersisted, hheld⟩ := ih
    have hnext := honcourse.move hmove
    exact ⟨hnext.onCourse, hpersisted.trans hnext.persisted, hheld.trans hnext.held⟩

/-- However often the job is built anew, no earlier cursor is stored. -/
theorem onCourse_of_turns (h : OnCourse v) (hrun : Relation.ReflTransGen Turn v w) :
    OnCourse w ∧ Upto v.site.persisted w.site.persisted := by
  induction hrun with
  | refl => exact ⟨h, upto_refl _⟩
  | tail _ hturn ih =>
    obtain ⟨honcourse, hpersisted⟩ := ih
    cases hturn with
    | move hmove =>
      have hnext := honcourse.move hmove
      exact ⟨hnext.onCourse, hpersisted.trans hnext.persisted⟩
    | anew => exact ⟨honcourse.anew, hpersisted⟩

/-- A job that has not polled yet, over a store that has no blob for it or one that is
read as a checkpoint with a plain cursor. -/
theorem onCourse_ofSettings {task : Task} {settings : PollSettings} {backend : Backend}
    (hstart : Timestamp.Plain settings.nextRecordTime)
    (hstored : ∀ blob, backend.store.blobs.get? task.identity = some blob →
      ∃ p, Checkpoint.decode? blob = some p ∧ Timestamp.Plain p.cursor) :
    OnCourse { site := ⟨Reader.ofSettings task settings, backend⟩ } := by
  refine ⟨⟨hstart, hstart, ?_, ?_⟩, ?_⟩
  · intro blob hblob
    rw [Site.persisted, hblob]
    simp only [Site.blob] at hblob
    split_ifs at hblob
    exact hstored blob hblob
  · rintro p ⟨⟩
  · rintro p q - ⟨⟩

/-- The steps that are left of a poll are moves of a job that is watched. -/
theorem reaches_run (f : Faults) {source : Source} (hsource : source.Follows) {stage : Stage}
    (hopen : stage.result? = none) (s : Site) :
    Relation.ReflTransGen Move ⟨s, stage⟩
      ⟨(stage.run source (s.suffer f)).2, .finished (stage.run source (s.suffer f)).1⟩ := by
  induction hrank : stage.rank using Nat.strong_induction_on generalizing stage s with
  | _ n ih =>
    have hstep : Move ⟨s, stage⟩ _ := .step ⟨s, stage⟩ f source hsource
    rw [Stage.run_of_result?_eq_none hopen]
    cases hresult : (stage.step source (s.suffer f)).1.result? with
    | some result =>
      have hfinished : (stage.step source (s.suffer f)).1 = .finished result := by
        cases hstage : (stage.step source (s.suffer f)).1 with
        | finished result' =>
          rw [hstage] at hresult
          exact congrArg Stage.finished (Option.some.inj hresult)
        | _ => rw [hstage] at hresult; cases hresult
      simp only [hfinished] at hstep ⊢
      rw [Stage.run_over]
      exact .single hstep
    | none =>
      have hlt := Stage.rank_step source stage (s.suffer f) (Stage.rank_pos hopen)
      have hrest := ih _ (hrank ▸ hlt) hresult (stage.step source (s.suffer f)).2 rfl
      rw [stage.suffer_step source s f] at hrest
      exact hrest.head hstep

/-- A whole poll is a list of moves of a job that is watched. -/
theorem reaches_poll (f : Faults) {source : Source} (hsource : source.Follows) (s : Site) :
    Relation.ReflTransGen Move ⟨s, .claim⟩
      ⟨((s.suffer f).poll source).2, .finished ((s.suffer f).poll source).1⟩ := by
  rw [← Stage.run_claim]
  exact reaches_run f hsource rfl s

/-- Whatever fails, and whenever the job is built anew: no earlier cursor is stored, and
between two times that it is built anew no earlier one is held.  What is held does not
lie before what is stored; only a poll that has just stored its checkpoint has still to
hold it, or one that is as late. -/
theorem cursors_forward {task : Task} {settings : PollSettings} {backend : Backend}
    (hstart : Timestamp.Plain settings.nextRecordTime)
    (hstored : ∀ blob, backend.store.blobs.get? task.identity = some blob →
      ∃ p, Checkpoint.decode? blob = some p ∧ Timestamp.Plain p.cursor)
    (hv : Relation.ReflTransGen Turn { site := ⟨Reader.ofSettings task settings, backend⟩ } v)
    (hw : Relation.ReflTransGen Turn v w) :
    (∀ p, v.site.persisted = some p →
      ∃ q, w.site.persisted = some q ∧ p.cursor ≤ q.cursor) ∧
    (Relation.ReflTransGen Move v w →
      ∀ p, v.site.held = some p → ∃ q, w.site.held = some q ∧ p.cursor ≤ q.cursor) ∧
    ∀ p, w.site.persisted = some p →
      (∀ q, w.site.held = some q → p.cursor ≤ q.cursor) ∨
        ∃ r next, w.stage = .hold r next ∧ p.cursor ≤ next.cursor := by
  obtain ⟨hvcourse, -⟩ := onCourse_of_turns (onCourse_ofSettings hstart hstored) hv
  obtain ⟨hwcourse, hpersisted⟩ := onCourse_of_turns hvcourse hw
  refine ⟨hpersisted, fun hmoves => (ahead_of_moves hvcourse hmoves).held, ?_⟩
  intro p hp
  have hline := hwcourse.inLine
  cases hstage : w.stage with
  | hold r next =>
    rw [hstage] at hline
    obtain ⟨q, hq, hle⟩ := hline.2.2 p hp
    obtain rfl : next = q := Option.some.inj hq
    exact .inr ⟨r, next, rfl, hle⟩
  | _ =>
    refine .inl fun q hq => hline.abreast ?_ p q hp hq
    intro r next hhold
    rw [hstage] at hhold
    cases hhold

/-- A page of one timestamp is refused by the writer: what is held lies after what is
stored.  The job is built anew and reads the page again. -/
theorem cursors_forward_refused :
    let source := Feed.source [.plain "a" "2015-01-01 10:00:00", .plain "b" "2015-01-01 10:00:01",
      .plain "c" "2015-01-01 10:00:01"] 2
    let job : Site := ⟨Reader.ofSettings Collection.smallTask Collection.smallSettings, {}⟩
    let first := ((job.suffer {}).poll source).2
    let refused := ((first.suffer { write := some .closed }).poll source).2
    let last := ((refused.anew.suffer {}).poll source).2
    (refused.persisted.map Checkpoint.cursor, refused.held.map Checkpoint.cursor) =
        (some "2015-01-01 10:00:01", some "2015-01-01 10:00:02") ∧
      last.persisted.map Checkpoint.cursor = some "2015-01-01 10:00:02" ∧
      ∀ p, refused.persisted = some p → ∃ q, last.persisted = some q ∧ p.cursor ≤ q.cursor := by
  intro source job first refused last
  have hsource : source.Follows := by
    intro cursor page hok
    exact ((Feed.serves_source (by decide) 2).mayServe cursor page hok).follows (by decide)
  have hpoll : ∀ (f : Faults) (s : Site), Relation.ReflTransGen Turn ⟨s, .claim⟩
      ⟨((s.suffer f).poll source).2, .finished ((s.suffer f).poll source).1⟩ := fun f s =>
    Relation.ReflTransGen.mono (fun _ _ => Turn.move) _ _ (reaches_poll f hsource s)
  have hfirst : Relation.ReflTransGen Turn ⟨job, .claim⟩ ⟨first, .claim⟩ :=
    (hpoll {} job).tail (.move (.again _ _ rfl))
  have hrefused : Relation.ReflTransGen Turn ⟨job, .claim⟩ ⟨refused,
      .finished ((first.suffer { write := some .closed }).poll source).1⟩ :=
    hfirst.trans (hpoll { write := some .closed } first)
  have hlast : Relation.ReflTransGen Turn
      ⟨refused, .finished ((first.suffer { write := some .closed }).poll source).1⟩
      ⟨last, .finished ((refused.anew.suffer {}).poll source).1⟩ :=
    (hpoll {} refused.anew).head (.anew _)
  refine ⟨by decide +kernel, by decide +kernel, ?_⟩
  -- what the polls come to plays no part any more
  clear_value last refused
  exact (cursors_forward (by decide) (by rintro blob ⟨⟩) hrefused hlast).1

end Watch

end Collector

import Collector.Job.Factory
import Collector.Proofs.Text.ByteOrder

/-!
# The books of a factory

A job factory of `harvest-core` is asked for jobs, in either of two ways, and to release
what jobs share, in any order and any number of times; the jobs that it made are called
back in between (`Bench.run`).  What was asked and answered is all there is to know of it
(`Factory.Books`): the applications that it reports are those that a job was made for, and
its builders are the registered ones, closed if that was ever asked for.

Main statements:

* `Bench.books_act`: what one act adds to the books.
* `Bench.books_run`: and what many acts do.
* `Bench.Within.run`: calls have the answers that they have without all other acts.
* `Bench.books_exact`: what the books say of a factory with any builders.
-/

namespace Collector

variable {J X W : Type}

/-! ## Look-ups -/

namespace KeyMap

variable {α β : Type}

theorem get?_map (f : α → β) (m : KeyMap α) (key : String) :
    (m.map f).get? key = (m.get? key).map f := by
  obtain ⟨entries, h⟩ := m
  simp only [get?, map]
  clear h
  induction entries with
  | nil => rfl
  | cons e rest ih =>
    rw [List.map_cons, Entries.get?, Entries.get?, ih]
    split_ifs <;> rfl

theorem mem_keys_iff {m : KeyMap α} {key : String} : key ∈ m.keys ↔ (m.get? key).isSome := by
  obtain ⟨entries, h⟩ := m
  simp only [get?, keys]
  clear h
  induction entries with
  | nil => simp [Entries.get?]
  | cons e rest ih =>
    rw [List.map_cons, List.mem_cons, ih, Entries.get?]
    split_ifs with hkey
    · simp [hkey]
    · simp [hkey]

theorem mem_keys_insert {m : KeyMap α} {key k : String} {value : α} :
    k ∈ (m.insert key value).keys ↔ k = key ∨ k ∈ m.keys := by
  rw [mem_keys_iff, mem_keys_iff, get?_insert]
  split_ifs with h
  · simp [h]
  · simp [h]

end KeyMap

/-! ## Builders -/

namespace Builder

/-- The builder, closed if that was asked for. -/
def closeIf (asked : Bool) (b : Builder J) : Builder J := { b with closed := b.closed || asked }

theorem closeIf_false : closeIf (J := J) false = id :=
  funext fun b => by rw [closeIf, Bool.or_false, id]

theorem closeIf_true : closeIf (J := J) true = close :=
  funext fun b => by rw [closeIf, Bool.or_true, close]

theorem closeIf_comp (c d : Bool) : closeIf (J := J) d ∘ closeIf c = closeIf (c || d) :=
  funext fun b => by simp only [closeIf, Function.comp_apply, Bool.or_assoc]

end Builder

namespace Factory

variable {f : Factory J} {app : String} {t : Task}

/-- The builder of an application: of those that are registered for it the last one. -/
def last? (bs : List (Builder J)) (app : String) : Option (Builder J) :=
  (bs.filter fun b => b.app = app).getLast?

theorem get?_ofBuilders (bs : List (Builder J)) (app : String) :
    (ofBuilders bs).builders.get? app = last? bs app := by
  have hfold : ∀ f : Factory J, (bs.foldl register f).builders =
      (bs.map fun b => (b.app, b)).foldl (fun m p => m.insert p.1 p.2) f.builders := by
    induction bs with
    | nil => exact fun f => rfl
    | cons b bs ih => exact fun f => ih (f.register b)
  have hfilter : (bs.map fun b => (b.app, b)).filter (fun e => e.1 = app) =
      (bs.filter fun b => b.app = app).map fun b => (b.app, b) := List.filter_map
  rw [ofBuilders, hfold, KeyMap.get?_foldl_insert, KeyMap.get?_empty, Option.or_none,
    Entries.last?, hfilter, List.getLast?_map, Option.map_map, last?]
  exact Option.map_id'

theorem served_ofBuilders (bs : List (Builder J)) : (ofBuilders bs).served = KeyMap.empty := by
  have hfold : ∀ f : Factory J, (bs.foldl register f).served = f.served := by
    induction bs with
    | nil => exact fun f => rfl
    | cons b bs ih => exact fun f => ih (f.register b)
  exact hfold {}

/-- Applications are reported once each, and in the order of their bytes. -/
theorem apps_ordered (f : Factory J) : (f.apps.map bytesOf).Pairwise (· < ·) := by
  rw [List.pairwise_map, apps, KeyMap.keys, List.pairwise_map]
  exact f.served.sorted.imp bytesOf_lt

/-! ## Asking for jobs -/

/-- Asking for a job leaves the builders as they are. -/
theorem builders_build (f : Factory J) (app : String) (t : Task) :
    (f.build app t).2.builders = f.builders := by
  have hcases := build_cases f app t
  generalize f.build app t = result at hcases ⊢
  cases hcases <;> rfl

/-- Asking for a job adds the application where there is a job. -/
theorem mem_apps_build {app' : String} : app' ∈ (f.build app t).2.apps ↔
    app' ∈ f.apps ∨ ∃ job, (f.build app t).1 = .ok job ∧ app = app' := by
  have hcases := build_cases f app t
  generalize f.build app t = result at hcases ⊢
  cases hcases with
  | unknown | refused => simp [apps]
  | made b job => simp [apps, KeyMap.mem_keys_insert, or_comm, eq_comm]

/-- The answer of a builder is the answer of the factory. -/
theorem build_of_get? {b : Builder J} (hb : f.builders.get? app = some b) :
    (f.build app t).1 = b.build f.turn t := by
  have hcases := build_cases f app t
  generalize f.build app t = result at hcases ⊢
  cases hcases with
  | unknown hb' => cases hb'.symm.trans hb
  | refused b' e hb' hbuild =>
    obtain rfl := Option.some.inj (hb'.symm.trans hb)
    exact hbuild.symm
  | made b' job hb' hbuild =>
    obtain rfl := Option.some.inj (hb'.symm.trans hb)
    exact hbuild.symm

theorem build_of_get?_eq_none (hb : f.builders.get? app = none) :
    f.build app t = (.error (.unknownApp app), f) := by
  rw [build, hb]

/-- A builder that pages through a source refuses every task once it is closed. -/
theorem build_closed {writers : ℕ → Task → Except ClientError Unit} {wrap : Reader → J}
    (hb : f.builders.get? app = some (.closeIf true (.incremental app writers wrap))) :
    (f.build app t).1 = .error (.builderClosed Builder.incrementalName) := by
  rw [build_of_get? hb]
  rfl

/-- A builder that pages through a source and is not closed refuses tasks that cannot be polled, and
others only where it gets no writer for them. -/
theorem build_open_eq_error_iff {writers : ℕ → Task → Except ClientError Unit} {wrap : Reader → J}
    {e : JobError} (hb : f.builders.get? app = some (.incremental app writers wrap)) :
    (f.build app t).1 = .error e ↔
      (∃ cause, PollSettings.ofTask t = .error cause ∧ e = .invalidTask cause) ∨
        ∃ settings cause, PollSettings.ofTask t = .ok settings ∧
          writers f.turn t = .error cause ∧ e = .client cause := by
  rw [build_of_get? hb]
  simp only [Builder.build, Builder.incremental, Builder.makeIncremental, Bool.false_eq_true,
    if_false]
  cases PollSettings.ofTask t with
  | error cause => simp [Except.map, PollError.toJobError, eq_comm]
  | ok settings => cases writers f.turn t <;> simp [Except.map, eq_comm]

end Factory

/-! ## Acts -/

/-- How a job is called back: with what it is given, and what all jobs work on. -/
abbrev Callback (J X W : Type) := X → J × W → Except JobError Unit × J × W

/-- The work of a reader as a callback. -/
def Reader.callback : Callback Reader Source Backend := fun source job =>
  let (result, site) := Site.index ⟨job.1, job.2⟩ source
  (result, site.reader, site.backend)

/-- A factory, the jobs that it made, and what these work on. -/
structure Bench (J W : Type) where
  /-- The factory that is asked. -/
  factory : Factory J
  /-- The jobs, in the order in which they were made. -/
  jobs : List J := []
  /-- What the jobs work on. -/
  outside : W

namespace Bench

/-- What a bench is asked for. -/
inductive Act (X : Type) where
  /-- The job of a task is asked for. -/
  | build (app : String) (t : Task)
  /-- The job of a task is asked for, or nothing where there is none. -/
  | create (app : String) (t : Task)
  /-- All builders are to release what their jobs share. -/
  | close
  /-- The job at a place is to be called back. -/
  | call (place : ℕ) (x : X)

/-- What a bench answers. -/
inductive Answer (J : Type) where
  /-- A job was asked for: here it is, or why there is none. -/
  | built (result : Except JobError J)
  /-- A job was asked for: here it is, or nothing. -/
  | created (job : Option J)
  /-- Builders have released what their jobs share. -/
  | closed
  /-- A job was called back: how that ended, if there is a job at that place. -/
  | called (result : Option (Except JobError Unit))

namespace Act

/-- Whether an act asks builders to release what jobs share. -/
def isClose : Act X → Bool
  | close => true
  | _ => false

/-- Whether an act asks for a job to be called back. -/
def isCall : Act X → Bool
  | call _ _ => true
  | _ => false

theorem isCall_iff {a : Act X} : a.isCall ↔ ∃ place x, a = call place x := by
  cases a <;> simp [isCall]

/-- The application that a job was made for, by an act and its answer. -/
def madeFor? : Act X × Answer J → Option String
  | (build app _, .built (.ok _)) => some app
  | (create app _, .created (some _)) => some app
  | _ => none

theorem madeFor?_build {app app' : String} {t : Task} {result : Except JobError J} :
    madeFor? (build (X := X) app t, .built result) = some app' ↔
      ∃ job, result = .ok job ∧ app = app' := by
  cases result <;> simp [madeFor?]

theorem madeFor?_create {app app' : String} {t : Task} {result : Except JobError J} :
    madeFor? (create (X := X) app t, .created result.toOption) = some app' ↔
      ∃ job, result = .ok job ∧ app = app' := by
  cases result <;> simp [madeFor?, Except.toOption]

end Act

/-- A bench after one act, with the answer. -/
def act (callback : Callback J X W) (s : Bench J W) : Act X → Answer J × Bench J W
  | .build app t =>
    let (result, factory) := s.factory.build app t
    (.built result, { s with factory, jobs := s.jobs ++ result.toOption.toList })
  | .create app t =>
    let (job, factory) := s.factory.create app t
    (.created job, { s with factory, jobs := s.jobs ++ job.toList })
  | .close => (.closed, { s with factory := s.factory.close })
  | .call place x =>
    match s.jobs[place]? with
    | none => (.called none, s)
    | some job =>
      let (result, job, outside) := callback x (job, s.outside)
      (.called (some result), { s with jobs := s.jobs.set place job, outside })

/-- A bench after acts one after another, with each act and its answer. -/
def run (callback : Callback J X W) (s : Bench J W) :
    List (Act X) → List (Act X × Answer J) × Bench J W
  | [] => ([], s)
  | a :: acts =>
    let (answer, s) := s.act callback a
    let (log, s) := s.run callback acts
    ((a, answer) :: log, s)

end Bench

/-! ## Books -/

namespace Factory

open Bench (Act Answer)

/-- What acts and their answers say of a factory. -/
structure Books (f : Factory J) (log : List (Act X × Answer J)) (g : Factory J) : Prop where
  /-- The applications are those that a job was made for. -/
  apps : ∀ app, app ∈ g.apps ↔ app ∈ f.apps ∨ ∃ entry ∈ log, Act.madeFor? entry = some app
  /-- The builders are the same ones, closed if that was asked for. -/
  builders : ∀ app, g.builders.get? app =
    (f.builders.get? app).map (.closeIf (log.any fun entry => entry.1.isClose))

variable {f g h : Factory J} {log more : List (Act X × Answer J)}

theorem books_nil (f : Factory J) : Books (X := X) f [] f :=
  ⟨by simp, fun app => by simp [Builder.closeIf_false]⟩

theorem Books.append (hfg : Books f log g) (hgh : Books g more h) : Books f (log ++ more) h := by
  constructor
  · intro app
    rw [hgh.apps, hfg.apps, or_assoc]
    simp only [List.mem_append, or_and_right, exists_or]
  · intro app
    rw [hgh.builders, hfg.builders, Option.map_map, List.any_append, Builder.closeIf_comp]

/-- An act that asks for a job, in either way. -/
theorem books_build {app : String} {t : Task} {a : Act X} {answer : Answer J}
    (hclose : a.isClose = false) (hmade : ∀ app', Act.madeFor? (a, answer) = some app' ↔
      ∃ job, (f.build app t).1 = .ok job ∧ app = app') :
    Books f [(a, answer)] (f.build app t).2 := by
  constructor
  · intro app'
    simp only [List.mem_singleton, exists_eq_left, hmade, mem_apps_build]
  · intro app'
    simp [builders_build, hclose, Builder.closeIf_false]

theorem books_close (f : Factory J) : Books f [(Act.close (X := X), .closed)] f.close := by
  constructor
  · intro app
    simp [close, apps, Act.madeFor?]
  · intro app
    simp [close, KeyMap.get?_map, Act.isClose, Builder.closeIf_true]

theorem books_call (f : Factory J) (place : ℕ) (x : X) (answer : Answer J) :
    Books f [(.call place x, answer)] f := by
  constructor
  · intro app
    simp [Act.madeFor?]
  · intro app
    simp [Act.isClose, Builder.closeIf_false]

end Factory

namespace Bench

variable {callback : Callback J X W} {s s' : Bench J W}

theorem run_cons (s : Bench J W) (a : Act X) (acts : List (Act X)) :
    s.run callback (a :: acts) =
      ((a, (s.act callback a).1) :: ((s.act callback a).2.run callback acts).1,
        ((s.act callback a).2.run callback acts).2) := rfl

theorem factory_act_call (s : Bench J W) (place : ℕ) (x : X) :
    (s.act callback (.call place x)).2.factory = s.factory := by
  unfold act
  dsimp only
  split <;> rfl

/-- What one act adds to the books. -/
theorem books_act (s : Bench J W) (a : Act X) :
    s.factory.Books [(a, (s.act callback a).1)] (s.act callback a).2.factory := by
  cases a with
  | build app t => exact Factory.books_build rfl fun app' => Act.madeFor?_build
  | create app t => exact Factory.books_build rfl fun app' => Act.madeFor?_create
  | close => exact Factory.books_close s.factory
  | call place x =>
    rw [factory_act_call]
    exact Factory.books_call s.factory place x _

/-- What many acts add to the books. -/
theorem books_run (callback : Callback J X W) (s : Bench J W) (acts : List (Act X)) :
    s.factory.Books (s.run callback acts).1 (s.run callback acts).2.factory := by
  induction acts generalizing s with
  | nil => exact Factory.books_nil s.factory
  | cons a acts ih => exact (books_act s a).append (ih (s.act callback a).2)

theorem map_fst_run (callback : Callback J X W) (s : Bench J W) (acts : List (Act X)) :
    (s.run callback acts).1.map Prod.fst = acts := by
  induction acts generalizing s with
  | nil => rfl
  | cons a acts ih => exact congrArg (a :: ·) (ih (s.act callback a).2)

/-! ## Calls -/

/-- The jobs of one bench are there in the other one, and work on the same. -/
structure Within (s' s : Bench J W) : Prop where
  /-- The jobs have the same places on both benches. -/
  jobs : s'.jobs <+: s.jobs
  /-- The jobs of both benches work on the same. -/
  outside : s'.outside = s.outside

theorem within_refl (s : Bench J W) : s.Within s := ⟨List.prefix_rfl, rfl⟩

/-- What is no call leaves the jobs as they are. -/
theorem Within.act_right (h : s'.Within s) {a : Act X} (ha : a.isCall = false) :
    s'.Within (s.act callback a).2 := by
  cases a with
  | build app t => exact ⟨h.jobs.trans (List.prefix_append _ _), h.outside⟩
  | create app t => exact ⟨h.jobs.trans (List.prefix_append _ _), h.outside⟩
  | close => exact ⟨h.jobs, h.outside⟩
  | call place x => cases ha

/-- A call of a job has the same answer, and leaves the same. -/
theorem Within.call (callback : Callback J X W) (h : s'.Within s) {place : ℕ}
    (hplace : place < s'.jobs.length) (x : X) :
    (s.act callback (.call place x)).1 = (s'.act callback (.call place x)).1 ∧
      (s'.act callback (.call place x)).2.Within (s.act callback (.call place x)).2 ∧
      (s'.act callback (.call place x)).2.jobs.length = s'.jobs.length := by
  obtain ⟨more, hmore⟩ := h.jobs
  have hjob : s'.jobs[place]? = some s'.jobs[place] := List.getElem?_eq_getElem hplace
  have hjob' : s.jobs[place]? = some s'.jobs[place] := by
    rw [← hmore, List.getElem?_append_left hplace, hjob]
  simp only [act, hjob, hjob', h.outside]
  refine ⟨trivial, ⟨⟨more, ?_⟩, rfl⟩, List.length_set⟩
  rw [← hmore, List.set_append_left _ _ hplace]

/-- Calls have the answers that they have without all other acts.  By induction on the acts: a call
is made on both sides, and any other act on one side only, where it leaves the jobs. -/
theorem Within.run (h : s'.Within s) (acts : List (Act X))
    (hplaces : ∀ place x, .call place x ∈ acts → place < s'.jobs.length) :
    (s.run callback acts).1.filter (fun entry => entry.1.isCall) =
        (s'.run callback (acts.filter Act.isCall)).1 ∧
      (s'.run callback (acts.filter Act.isCall)).2.Within (s.run callback acts).2 := by
  induction acts generalizing s s' with
  | nil => exact ⟨rfl, h⟩
  | cons a acts ih =>
    have hrest : ∀ place x, .call place x ∈ acts → place < s'.jobs.length :=
      fun place x hmem => hplaces place x (List.mem_cons_of_mem a hmem)
    rw [run_cons]
    cases ha : a.isCall with
    | false =>
      rw [List.filter_cons_of_neg (by simp [ha]), List.filter_cons_of_neg (by simp [ha])]
      exact ih (h.act_right ha) hrest
    | true =>
      obtain ⟨place, x, rfl⟩ := Act.isCall_iff.1 ha
      obtain ⟨hanswer, hwithin, hlength⟩ := h.call callback (hplaces place x List.mem_cons_self) x
      obtain ⟨hlog, hlast⟩ := ih hwithin fun place' x' hmem => hlength ▸ hrest place' x' hmem
      rw [List.filter_cons_of_pos ha, run_cons]
      refine ⟨(List.filter_cons_of_pos (by exact ha)).trans ?_, hlast⟩
      rw [hlog, hanswer]

/-! ## Factories of builders -/

/-- A factory of builders that was not asked for anything yet. -/
def ofBuilders (bs : List (Builder J)) (outside : W) : Bench J W :=
  { factory := .ofBuilders bs, outside }

section OfBuilders

variable (callback : Callback J X W) (bs : List (Builder J)) (outside : W) (acts : List (Act X))

/-- The applications are those that a job was made for. -/
theorem mem_apps_run (app : String) :
    app ∈ ((ofBuilders bs outside).run callback acts).2.factory.apps ↔
      ∃ entry ∈ ((ofBuilders bs outside).run callback acts).1, Act.madeFor? entry = some app := by
  rw [(books_run callback (ofBuilders bs outside) acts).apps, ofBuilders, Factory.apps,
    Factory.served_ofBuilders]
  simp [KeyMap.keys, KeyMap.empty]

/-- The builders are the ones that were registered last, closed if that was ever asked for. -/
theorem get?_builders_run (app : String) :
    ((ofBuilders bs outside).run callback acts).2.factory.builders.get? app =
      (Factory.last? bs app).map (.closeIf (acts.any Act.isClose)) := by
  have hclosed : ((ofBuilders bs outside).run callback acts).1.any (fun entry => entry.1.isClose) =
      acts.any Act.isClose := by
    have hacts := map_fst_run callback (ofBuilders bs outside) acts
    rw [← congrArg (List.any · Act.isClose) hacts, List.any_map]
    rfl
  rw [(books_run callback (ofBuilders bs outside) acts).builders, hclosed]
  exact congrArg _ (Factory.get?_ofBuilders bs app)

/-- The answer is that of the builder, if there is one. -/
theorem build_run (app : String) (t : Task) :
    (((ofBuilders bs outside).run callback acts).2.factory.build app t).1 =
      match Factory.last? bs app with
      | none => .error (.unknownApp app)
      | some b => (b.closeIf (acts.any Act.isClose)).build
          ((ofBuilders bs outside).run callback acts).2.factory.turn t := by
  have hb := get?_builders_run callback bs outside acts app
  split
  · rename_i hlast
    rw [hlast, Option.map_none] at hb
    rw [Factory.build_of_get?_eq_none hb]
  · rename_i b hlast
    rw [hlast, Option.map_some] at hb
    exact Factory.build_of_get? hb

end OfBuilders

/-- What the books say of a factory with any builders, after any acts.  It reports the
applications that a job was made for, each once and in the order of their bytes.  Its builders
are for each application the last one that was registered, closed if that was ever asked for.
Asking for a job leaves the builders as they are, and the applications too if there is none, and
both ways of asking give the same job and leave the same.  The answer is that of the builder, if
there is one.  Where jobs page through a source, no task gets one after builders were closed,
and before that every task does that can be polled and gets a writer.  Whatever is asked for from
then on, the jobs that were made answer calls as if nothing but the calls were made. -/
theorem books_exact (callback : Callback J X W) (bs : List (Builder J)) (outside : W)
    (acts : List (Act X)) :
    let log := ((ofBuilders bs outside).run callback acts).1
    let s := ((ofBuilders bs outside).run callback acts).2
    (s.factory.apps.map bytesOf).Pairwise (· < ·) ∧
    (∀ app, app ∈ s.factory.apps ↔ ∃ entry ∈ log, Act.madeFor? entry = some app) ∧
    (∀ app, s.factory.builders.get? app =
      (Factory.last? bs app).map (.closeIf (acts.any Act.isClose))) ∧
    (∀ app t, (s.factory.build app t).2.builders = s.factory.builders ∧
      (∀ e, (s.factory.build app t).1 = .error e →
        (s.factory.build app t).2.apps = s.factory.apps) ∧
      s.factory.create app t =
        ((s.factory.build app t).1.toOption, (s.factory.build app t).2)) ∧
    (∀ app t, (s.factory.build app t).1 =
      match Factory.last? bs app with
      | none => .error (.unknownApp app)
      | some b => (b.closeIf (acts.any Act.isClose)).build s.factory.turn t) ∧
    (∀ app writers wrap, Factory.last? bs app = some (.incremental app writers wrap) → ∀ t,
      (acts.any Act.isClose = true →
        (s.factory.build app t).1 = .error (.builderClosed Builder.incrementalName)) ∧
      (acts.any Act.isClose = false → ∀ e, (s.factory.build app t).1 = .error e ↔
        (∃ cause, PollSettings.ofTask t = .error cause ∧ e = .invalidTask cause) ∨
          ∃ settings cause, PollSettings.ofTask t = .ok settings ∧
            writers s.factory.turn t = .error cause ∧ e = .client cause)) ∧
    ∀ later : List (Act X), (∀ place x, .call place x ∈ later → place < s.jobs.length) →
      (s.run callback later).1.filter (fun entry => entry.1.isCall) =
        (s.run callback (later.filter Act.isCall)).1 ∧
      (s.run callback (later.filter Act.isCall)).2.Within (s.run callback later).2 := by
  intro log s
  refine ⟨s.factory.apps_ordered, mem_apps_run callback bs outside acts,
    get?_builders_run callback bs outside acts, ?_, build_run callback bs outside acts, ?_,
    fun later => (within_refl s).run later⟩
  · exact fun app t => ⟨Factory.builders_build _ app t,
      fun e he => congrArg KeyMap.keys (Factory.served_build_error he), rfl⟩
  · intro app writers wrap hlast t
    have hb : s.factory.builders.get? app = _ := get?_builders_run callback bs outside acts app
    rw [hlast, Option.map_some] at hb
    refine ⟨fun hclosed => ?_, fun hopen e => ?_⟩
    · rw [hclosed] at hb
      exact Factory.build_closed hb
    · rw [hopen, Builder.closeIf_false, id] at hb
      exact Factory.build_open_eq_error_iff hb

/-- A task of a source of incidents. -/
def incidents : Task where
  settings := KeyMap.ofList [(Setting.app, "snow"), (Setting.taskKey, "t"),
    (Setting.recordCount, "2"), (Setting.serverUrl, "http://h"), (Setting.endpoint, "incident"),
    (Setting.timestampField, "ts"), (Setting.nextRecordTime, "2015-01-01 00:00:00")]
  app_filled := ⟨"snow", by rw [KeyMap.get?_ofList]; rfl, by decide⟩
  identity_filled := ⟨"t", by rw [KeyMap.get?_ofList]; rfl, by decide⟩

/-- Two builders for one application, of which the first one would get no writer, and one for
another application that gets none.  Builders are closed twice, and the job that was made before
is called back around one more time. -/
theorem books_exact_closed_twice :
    let refuse : ℕ → Task → Except ClientError Unit := fun _ _ => .error .closed
    let bs : List (Builder Reader) := [.incremental "snow" refuse id,
      .incremental "snow" (fun _ _ => .ok ()) id, .incremental "cold" refuse id]
    let page : Source := fun _ => .ok (.ofRecords [.plain "r" "2015-01-01 00:00:00"])
    let s := ((ofBuilders bs ({} : Backend).start).run Reader.callback
      [.build "snow" incidents, .create "cold" incidents, .build "dry" incidents, .close,
        .create "snow" incidents, .close]).2
    let later : List (Act Source) :=
      [.call 0 page, .close, .build "snow" incidents, .call 0 page]
    s.factory.apps = ["snow"] ∧
    (∀ t, (s.factory.build "snow" t).1 = .error (.builderClosed "incremental-poll")) ∧
    ((s.run Reader.callback later).1.filter fun entry => entry.1.isCall).map
        (fun entry => match entry.2 with
          | .called (some (.ok ())) => true
          | _ => false) = [true, true] ∧
    (s.run Reader.callback later).2.outside.writer.records.length = 1 := by
  intro refuse bs page s later
  obtain ⟨-, -, -, -, -, hincremental, hcalls⟩ := books_exact Reader.callback bs
    ({} : Backend).start [.build "snow" incidents, .create "cold" incidents,
      .build "dry" incidents, .close, .create "snow" incidents, .close]
  have hplaces : ∀ place x, Act.call place x ∈ later → place < s.jobs.length := by
    have hjobs : s.jobs.length = 1 := by decide +kernel
    intro place x hmem
    simp only [later, List.mem_cons, Act.call.injEq, List.not_mem_nil, or_false, reduceCtorEq,
      false_or] at hmem
    omega
  obtain ⟨hlog, hwithin⟩ := hcalls later hplaces
  refine ⟨by decide +kernel, fun t => (hincremental "snow" _ _ rfl t).1 rfl, ?_, ?_⟩
  · rw [hlog]
    decide +kernel
  · rw [← hwithin.outside]
    decide +kernel

end Bench

end Collector

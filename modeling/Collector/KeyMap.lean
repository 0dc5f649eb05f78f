/-!
# Maps keyed by text

The settings and the meta information of `harvest-model` and the blobs that `harvest-core`
stores are maps from strings, kept as a list of entries in strictly increasing key
order.  The order of two keys is that of their code points, which is also the order of
their UTF-8 bytes.

Main statements:

* `KeyMap.get?_insert`: a look-up after an insertion sees the new value at its
  key and the old map everywhere else.
* `KeyMap.get?_erase`: an erased key is absent, all others are untouched.
* `KeyMap.get?_ofList`: of the pairs with one key the last one counts.
* `KeyMap.ext_get?`: two maps with the same look-ups are equal.
-/

namespace Collector

universe u

/-! ## Entry lists -/

namespace Entries

variable {α : Type u}

/-- The entry list with `key` bound to `value`; an older value of that key is
replaced. -/
def insert (key : String) (value : α) : List (String × α) → List (String × α)
  | [] => [(key, value)]
  | (k, v) :: rest =>
    if key < k then (key, value) :: (k, v) :: rest
    else if key = k then (key, value) :: rest
    else (k, v) :: insert key value rest

/-- The value of the first entry with this key. -/
def get? (key : String) : List (String × α) → Option α
  | [] => none
  | (k, v) :: rest => if key = k then some v else get? key rest

/-- The value of the last entry with this key. -/
def last? (key : String) (entries : List (String × α)) : Option α :=
  (entries.filter fun e => e.1 = key).getLast?.map (·.2)

/-- Strictly increasing keys. -/
abbrev Sorted (entries : List (String × α)) : Prop :=
  entries.Pairwise fun a b => a.1 < b.1

theorem mem_of_mem_insert {key : String} {value : α} {e : String × α} :
    ∀ {entries : List (String × α)}, e ∈ insert key value entries →
      e = (key, value) ∨ e ∈ entries
  | [], h => by simpa [insert] using h
  | (k, v) :: rest, h => by
    unfold insert at h
    split at h
    · simpa using h
    · split at h
      · rcases List.mem_cons.1 h with h | h
        · exact .inl h
        · exact .inr (List.mem_cons_of_mem _ h)
      · rcases List.mem_cons.1 h with h | h
        · exact .inr (h ▸ List.mem_cons_self)
        · exact (mem_of_mem_insert h).imp_right (List.mem_cons_of_mem _)

theorem lt_of_not_lt_of_ne {a b : String} (h : ¬ a < b) (hne : a ≠ b) : b < a := by
  rcases Decidable.em (b < a) with hb | hb
  · exact hb
  · exact absurd (String.le_antisymm hb h) hne

theorem sorted_insert (key : String) (value : α) :
    ∀ {entries : List (String × α)}, Sorted entries → Sorted (insert key value entries)
  | [], _ => by simp [insert, Sorted]
  | (k, v) :: rest, h => by
    have hrest := List.pairwise_cons.1 h
    unfold insert
    split
    · rename_i hk
      refine List.pairwise_cons.2 ⟨fun e he => ?_, h⟩
      rcases List.mem_cons.1 he with rfl | he
      · exact hk
      · exact String.lt_trans hk (hrest.1 e he)
    · rename_i hk
      split
      · rename_i heq
        subst heq
        exact List.pairwise_cons.2 ⟨hrest.1, hrest.2⟩
      · rename_i hne
        refine List.pairwise_cons.2 ⟨fun e he => ?_, sorted_insert key value hrest.2⟩
        rcases mem_of_mem_insert he with rfl | he
        · exact lt_of_not_lt_of_ne hk hne
        · exact hrest.1 e he

theorem get?_insert (key : String) (value : α) (k : String) :
    ∀ entries : List (String × α),
      get? k (insert key value entries) = if k = key then some value else get? k entries
  | [] => by simp [insert, get?]
  | (k', v) :: rest => by
    unfold insert
    split
    · simp only [get?]
    · split
      · rename_i heq
        subst heq
        by_cases h : k = key <;> simp [get?, h]
      · rename_i hne
        simp only [get?, get?_insert key value k rest]
        by_cases h : k = k'
        · have : k ≠ key := fun h' => hne (h'.symm.trans h)
          simp [h, Ne.symm hne]
        · simp [h]

theorem get?_eq_none_of_forall_lt {k : String} :
    ∀ {entries : List (String × α)}, (∀ e ∈ entries, k < e.1) → get? k entries = none
  | [], _ => rfl
  | (k', v) :: rest, h => by
    have hne : k ≠ k' := fun heq =>
      String.lt_irrefl k (by simpa [heq] using h (k', v) List.mem_cons_self)
    simp [get?, hne, get?_eq_none_of_forall_lt fun e he => h e (List.mem_cons_of_mem _ he)]

/-- Sorted entry lists with the same look-ups are equal. -/
theorem ext_get? : ∀ {xs ys : List (String × α)}, Sorted xs → Sorted ys →
    (∀ k, get? k xs = get? k ys) → xs = ys
  | [], [], _, _, _ => rfl
  | [], (k, v) :: ys, _, _, h => by have := h k; simp [get?] at this
  | (k, v) :: xs, [], _, _, h => by have := h k; simp [get?] at this
  | (k, v) :: xs, (k', v') :: ys, hx, hy, h => by
    obtain ⟨hx1, hx2⟩ := List.pairwise_cons.1 hx
    obtain ⟨hy1, hy2⟩ := List.pairwise_cons.1 hy
    have hk : k = k' := by
      rcases Decidable.em (k = k') with heq | hne
      · exact heq
      · rcases Decidable.em (k < k') with hlt | hnlt
        · have hnone : get? k ((k', v') :: ys) = none :=
            get?_eq_none_of_forall_lt fun e he => by
              rcases List.mem_cons.1 he with rfl | he
              · exact hlt
              · exact String.lt_trans hlt (hy1 e he)
          have := h k
          rw [hnone] at this
          simp [get?] at this
        · have hlt := lt_of_not_lt_of_ne hnlt hne
          have hnone : get? k' ((k, v) :: xs) = none :=
            get?_eq_none_of_forall_lt fun e he => by
              rcases List.mem_cons.1 he with rfl | he
              · exact hlt
              · exact String.lt_trans hlt (hx1 e he)
          have := h k'
          rw [hnone] at this
          simp [get?] at this
    subst hk
    have hv : v = v' := by simpa [get?] using h k
    subst hv
    refine congrArg _ (ext_get? hx2 hy2 fun key => ?_)
    by_cases hkey : key = k
    · subst hkey
      rw [get?_eq_none_of_forall_lt hx1, get?_eq_none_of_forall_lt hy1]
    · simpa [get?, hkey] using h key

theorem last?_cons (key : String) (e : String × α) (entries : List (String × α)) :
    last? key (e :: entries) = (last? key entries).or (if e.1 = key then some e.2 else none) := by
  by_cases h : e.1 = key
  · simp only [last?, List.filter_cons_of_pos, h, decide_true, List.getLast?_cons,
      Option.map_some, if_true]
    cases (entries.filter fun e => e.1 = key).getLast? <;> rfl
  · simp [last?, h]

/-- In sorted entry lists the first entry with a key is the last one. -/
theorem last?_eq_get? (key : String) : ∀ {entries : List (String × α)}, Sorted entries →
    last? key entries = get? key entries
  | [], _ => rfl
  | (k, v) :: rest, h => by
    obtain ⟨hfirst, hrest⟩ := List.pairwise_cons.1 h
    rw [last?_cons, last?_eq_get? key hrest, get?]
    by_cases hkey : key = k
    · subst hkey
      rw [get?_eq_none_of_forall_lt hfirst]
      simp
    · simp [hkey, Ne.symm hkey]

end Entries

/-! ## Maps -/

/-- A finite map from strings: its entries in strictly increasing key order. -/
structure KeyMap (α : Type u) where
  /-- The entries, by key. -/
  entries : List (String × α)
  /-- The keys increase strictly. -/
  sorted : Entries.Sorted entries

namespace KeyMap

variable {α : Type u}

/-- The map without entries. -/
def empty : KeyMap α := ⟨[], List.Pairwise.nil⟩

instance : Inhabited (KeyMap α) := ⟨empty⟩

instance [DecidableEq α] : DecidableEq (KeyMap α) := fun a b =>
  decidable_of_iff (a.entries = b.entries) ⟨fun h => by cases a; cases b; simp_all, congrArg _⟩

/-- The map with `key` bound to `value`. -/
def insert (m : KeyMap α) (key : String) (value : α) : KeyMap α :=
  ⟨Entries.insert key value m.entries, Entries.sorted_insert key value m.sorted⟩

/-- The value bound to `key`. -/
def get? (m : KeyMap α) (key : String) : Option α := Entries.get? key m.entries

/-- Whether `key` is bound. -/
def contains (m : KeyMap α) (key : String) : Bool := (m.get? key).isSome

/-- The map with `key` unbound. -/
def erase (m : KeyMap α) (key : String) : KeyMap α :=
  ⟨m.entries.filter fun e => e.1 != key, m.sorted.filter _⟩

/-- The map with only the entries whose value passes the test. -/
def filter (m : KeyMap α) (p : α → Bool) : KeyMap α :=
  ⟨m.entries.filter fun e => p e.2, m.sorted.filter _⟩

/-- The map with every value replaced. -/
def map {β : Type u} (f : α → β) (m : KeyMap α) : KeyMap β :=
  ⟨m.entries.map fun e => (e.1, f e.2), m.sorted.map _ fun _ _ h => h⟩

/-- The map of a list of pairs; of two pairs with one key the later one counts. -/
def ofList (pairs : List (String × α)) : KeyMap α :=
  pairs.foldl (fun m p => m.insert p.1 p.2) empty

/-- The keys, in increasing order. -/
def keys (m : KeyMap α) : List String := m.entries.map (·.1)

/-- The values, in key order. -/
def values (m : KeyMap α) : List α := m.entries.map (·.2)

/-- The number of keys. -/
def size (m : KeyMap α) : Nat := m.entries.length

@[simp] theorem get?_empty (key : String) : (empty : KeyMap α).get? key = none := rfl

theorem get?_insert (m : KeyMap α) (key : String) (value : α) (k : String) :
    (m.insert key value).get? k = if k = key then some value else m.get? k :=
  Entries.get?_insert key value k m.entries

@[simp] theorem get?_insert_self (m : KeyMap α) (key : String) (value : α) :
    (m.insert key value).get? key = some value := by
  simp [get?_insert]

theorem get?_erase (m : KeyMap α) (key k : String) :
    (m.erase key).get? k = if k = key then none else m.get? k := by
  obtain ⟨entries, h⟩ := m
  simp only [get?, erase]
  clear h
  induction entries with
  | nil => simp [Entries.get?]
  | cons e rest ih =>
    by_cases h1 : e.1 = key <;> by_cases h2 : k = key <;> by_cases h3 : k = e.1 <;>
      simp_all [Entries.get?]

/-- Two maps with the same look-ups are equal. -/
theorem ext_get? {a b : KeyMap α} (h : ∀ k, a.get? k = b.get? k) : a = b := by
  obtain ⟨xs, hx⟩ := a
  obtain ⟨ys, hy⟩ := b
  have := Entries.ext_get? hx hy h
  subst this
  rfl

theorem get?_foldl_insert (pairs : List (String × α)) (m : KeyMap α) (key : String) :
    (pairs.foldl (fun m p => m.insert p.1 p.2) m).get? key =
      (Entries.last? key pairs).or (m.get? key) := by
  induction pairs generalizing m with
  | nil => rfl
  | cons p pairs ih =>
    rw [List.foldl_cons, ih, get?_insert, Entries.last?_cons, Option.or_assoc]
    by_cases h : key = p.1
    · simp [h]
    · simp [h, Ne.symm h]

/-- Of the pairs with one key the last one counts. -/
theorem get?_ofList (pairs : List (String × α)) (key : String) :
    (ofList pairs).get? key = Entries.last? key pairs := by
  rw [ofList, get?_foldl_insert, get?_empty, Option.or_none]

/-- A map is the map of its entries. -/
theorem ofList_entries (m : KeyMap α) : ofList m.entries = m := by
  refine ext_get? fun key => ?_
  rw [get?_ofList, Entries.last?_eq_get? key m.sorted]
  rfl

end KeyMap

end Collector

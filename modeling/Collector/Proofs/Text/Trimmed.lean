import Mathlib.Data.List.DropRight
import Collector.Proofs.Task
import Collector.Text.Slashes

/-!
# Texts without their ends

A setting of `harvest-model` is trimmed to what stands between the blanks at its two ends,
and an address to what stands before the slashes at its end (`Text.Trimmed`,
`Text.Unslashed`).

Main statements:

* `Text.trim_eq_iff`, `Text.trimSlashes_eq_iff`: what is left of a text.
* `Text.isBlank_trim`: a text that says something still does so once it is trimmed.
-/

namespace Collector.Text

/-! ## Ends of lists -/

section Lists

variable {α : Type} {p : α → Bool} {cs ds : List α}

/-- What is left when a front is dropped. -/
theorem dropWhile_eq_iff :
    cs.dropWhile p = ds ↔
      ∃ front, cs = front ++ ds ∧ (∀ c ∈ front, p c = true) ∧ ∀ c ∈ ds.head?, p c = false := by
  constructor
  · rintro rfl
    refine ⟨cs.takeWhile p, List.takeWhile_append_dropWhile.symm,
      fun _ => List.mem_takeWhile_imp, fun c hc => ?_⟩
    obtain ⟨rest, hrest⟩ := List.head?_eq_some_iff.1 hc
    have hne : cs.dropWhile p ≠ [] := by simp [hrest]
    have hhead := List.head_dropWhile_not p hne
    simpa only [hrest, List.head_cons] using hhead
  · rintro ⟨front, rfl, hfront, hhead⟩
    rw [List.dropWhile_append_of_pos hfront]
    cases ds with
    | nil => rfl
    | cons d ds => exact List.dropWhile_cons_of_neg (by simp [hhead d rfl])

/-- What is left when an end is dropped. -/
theorem rdropWhile_eq_iff :
    cs.rdropWhile p = ds ↔
      ∃ back, cs = ds ++ back ∧ (∀ c ∈ back, p c = true) ∧ ∀ c ∈ ds.getLast?, p c = false := by
  rw [List.rdropWhile, List.reverse_eq_iff, dropWhile_eq_iff]
  constructor
  · rintro ⟨front, hcs, hfront, hhead⟩
    refine ⟨front.reverse, ?_, by simpa using hfront, by simpa using hhead⟩
    rw [← List.reverse_reverse cs, hcs]
    simp
  · rintro ⟨back, rfl, hback, hlast⟩
    exact ⟨back.reverse, by simp, by simpa using hback, by simpa using hlast⟩

end Lists

/-! ## Blanks -/

/-- The text is `inner` between blanks, and `inner` neither begins nor ends with one. -/
structure Trimmed (s inner : String) : Prop where
  /-- What stands around the text that is left is blank. -/
  around : ∃ front back, s.toList = front ++ inner.toList ++ back ∧
    ∀ c ∈ front ++ back, isBlankChar c = true
  /-- What is left does not begin with a blank. -/
  first : ∀ c ∈ inner.toList.head?, isBlankChar c = false
  /-- What is left does not end with a blank. -/
  last : ∀ c ∈ inner.toList.getLast?, isBlankChar c = false

/-- What is left of a text that is trimmed. -/
theorem trim_eq_iff {s inner : String} : trim s = inner ↔ Trimmed s inner := by
  have hlist : trim s = inner ↔ (s.toList.dropWhile isBlankChar).rdropWhile isBlankChar =
      inner.toList := by
    rw [trim, ← String.toList_inj, String.toList_ofList]
    exact Iff.rfl
  rw [hlist, rdropWhile_eq_iff]
  constructor
  · rintro ⟨back, hmid, hback, hlast⟩
    obtain ⟨front, hfront, hblank, hhead⟩ := dropWhile_eq_iff.1 hmid
    refine ⟨⟨front, back, by rw [hfront, List.append_assoc], ?_⟩, ?_, hlast⟩
    · intro c hc
      exact (List.mem_append.1 hc).elim (hblank c) (hback c)
    · intro c hc
      exact hhead c (by simp [List.head?_append, Option.mem_def.1 hc])
  · rintro ⟨⟨front, back, htext, hblank⟩, hfirst, hlast⟩
    have hfront : ∀ c ∈ front, isBlankChar c = true := fun c hc =>
      hblank c (List.mem_append_left _ hc)
    have hback : ∀ c ∈ back, isBlankChar c = true := fun c hc =>
      hblank c (List.mem_append_right _ hc)
    rcases eq_or_ne inner.toList [] with hnil | hne
    · -- nothing but blanks: all of it is front
      refine ⟨[], ?_, List.forall_mem_nil _, hlast⟩
      rw [hnil, List.append_nil, List.dropWhile_eq_nil_iff, htext, hnil, List.append_nil]
      exact hblank
    · refine ⟨back, dropWhile_eq_iff.2 ⟨front, ?_, hfront, fun c hc => ?_⟩, hback, hlast⟩
      · rw [htext, List.append_assoc]
      · rw [List.head?_append_of_ne_nil _ hne] at hc
        exact hfirst c hc

/-- Trimming takes nothing away but blanks. -/
theorem isBlank_trim (s : String) : isBlank (trim s) = isBlank s := by
  obtain ⟨⟨front, back, htext, hblank⟩, -, -⟩ := trim_eq_iff.1 (rfl : trim s = trim s)
  have hfront : front.all isBlankChar = true :=
    List.all_eq_true.2 fun c hc => hblank c (List.mem_append_left _ hc)
  have hback : back.all isBlankChar = true :=
    List.all_eq_true.2 fun c hc => hblank c (List.mem_append_right _ hc)
  simp [isBlank, htext, hfront, hback]

/-! ## Slashes -/

/-- The address is `base` and then slashes, and `base` does not end with one. -/
structure Unslashed (address base : String) : Prop where
  /-- What stands behind the address that is left are slashes. -/
  after : ∃ count, address.toList = base.toList ++ List.replicate count '/'
  /-- What is left does not end with a slash. -/
  last : base.toList.getLast? ≠ some '/'

/-- What is left of an address without the slashes at its end. -/
theorem trimSlashes_eq_iff {address base : String} :
    trimSlashes address = base ↔ Unslashed address base := by
  have hlist : trimSlashes address = base ↔
      address.toList.rdropWhile (fun c => decide (c = '/')) = base.toList := by
    rw [trimSlashes, ← String.toList_inj, String.toList_ofList]
    exact Iff.rfl
  rw [hlist, rdropWhile_eq_iff]
  constructor
  · rintro ⟨back, htext, hback, hlast⟩
    have hslashes : back = List.replicate back.length '/' :=
      List.eq_replicate_iff.2 ⟨rfl, fun c hc => of_decide_eq_true (hback c hc)⟩
    refine ⟨⟨back.length, by rw [htext, ← hslashes]⟩, fun h => ?_⟩
    simpa using hlast '/' h
  · rintro ⟨⟨count, htext⟩, hlast⟩
    refine ⟨List.replicate count '/', htext, fun c hc => ?_, fun c hc => ?_⟩
    · exact decide_eq_true (List.eq_of_mem_replicate hc)
    · refine decide_eq_false ?_
      rintro rfl
      exact hlast hc

end Collector.Text

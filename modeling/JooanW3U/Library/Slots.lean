import Mathlib.Data.Finset.Card
import Mathlib.Data.List.Perm.Subperm

/-!
Owns fixed slot tables whose used slots carry distinct names: what one write
does to the slot of every name, and the pigeonhole rule that a name the table
lacks finds a free slot while the pool of names is no larger than the table.

Does not own what a slot holds or how a table is searched.
-/

namespace JooanW3U.Library.Slots

universe u v

variable {Slot : Type u} {Name : Type v} {name : Slot → Option Name} {slots : List Slot}

/-- No two slots carry the same name. -/
def Distinct (name : Slot → Option Name) (slots : List Slot) : Prop :=
  ∀ (left right : Nat) (slot twin : Slot) (owner : Name),
    slots[left]? = some slot → slots[right]? = some twin →
      name slot = some owner → name twin = some owner → left = right

theorem Distinct.tail {slot : Slot} {rest : List Slot} (distinct : Distinct name (slot :: rest)) :
    Distinct name rest := by
  intro left right first second owner atLeft atRight firstNamed secondNamed
  have shifted := distinct (left + 1) (right + 1) first second owner atLeft atRight
    firstNamed secondNamed
  omega

theorem Distinct.names_nodup :
    ∀ {slots : List Slot}, Distinct name slots → (slots.filterMap name).Nodup
  | [], _ => List.nodup_nil
  | slot :: rest, distinct => by
      cases named : name slot with
      | none =>
          rw [List.filterMap_cons_none named]
          exact distinct.tail.names_nodup
      | some owner =>
          rw [List.filterMap_cons_some named]
          apply List.nodup_cons.mpr
          refine ⟨?_, distinct.tail.names_nodup⟩
          intro again
          obtain ⟨twin, member, twinNamed⟩ := List.mem_filterMap.mp again
          obtain ⟨index, atIndex⟩ := List.mem_iff_getElem?.mp member
          have same := distinct 0 (index + 1) slot twin owner rfl atIndex named twinNamed
          omega

/-- A write whose name no other slot carries keeps the names distinct. -/
theorem Distinct.set (distinct : Distinct name slots) {index : Nat} {new : Slot}
    (own : ∀ (other : Nat) (slot : Slot) (owner : Name),
      slots[other]? = some slot → name slot = some owner → name new = some owner →
        other = index) : Distinct name (slots.set index new) := by
  intro left right slot twin owner atLeft atRight slotNamed twinNamed
  rw [List.getElem?_set] at atLeft atRight
  by_cases leftNew : index = left
  · by_cases rightNew : index = right
    · omega
    · rw [if_neg rightNew] at atRight
      by_cases inRange : index < slots.length
      · rw [if_pos leftNew, if_pos inRange] at atLeft
        rw [← Option.some.inj atLeft] at slotNamed
        exact absurd (own right twin owner atRight twinNamed slotNamed).symm rightNew
      · rw [if_pos leftNew, if_neg inRange] at atLeft
        exact absurd atLeft nofun
  · rw [if_neg leftNew] at atLeft
    by_cases rightNew : index = right
    · by_cases inRange : index < slots.length
      · rw [if_pos rightNew, if_pos inRange] at atRight
        rw [← Option.some.inj atRight] at twinNamed
        exact absurd (own left slot owner atLeft slotNamed twinNamed).symm leftNew
      · rw [if_pos rightNew, if_neg inRange] at atRight
        exact absurd atRight nofun
    · rw [if_neg rightNew] at atRight
      exact distinct left right slot twin owner atLeft atRight slotNamed twinNamed

/-! ## Looking a name up -/

section Entry

variable [DecidableEq Name]

/-- The slot of a name. -/
def entry (name : Slot → Option Name) (slots : List Slot) (owner : Name) : Option Slot :=
  slots.find? fun slot => decide (name slot = some owner)

theorem entry_at {owner : Name} {slot : Slot} (found : entry name slots owner = some slot) :
    ∃ index : Nat, slots[index]? = some slot ∧ name slot = some owner := by
  have member := List.mem_of_find?_eq_some found
  obtain ⟨index, atIndex⟩ := List.mem_iff_getElem?.mp member
  exact ⟨index, atIndex, of_decide_eq_true (List.find?_some found :)⟩

theorem entry_eq_none {owner : Name} :
    entry name slots owner = none ↔ ∀ slot ∈ slots, name slot ≠ some owner := by
  simp [entry]

theorem Distinct.entry_eq (distinct : Distinct name slots) {owner : Name} {index : Nat}
    {slot : Slot} (atIndex : slots[index]? = some slot) (named : name slot = some owner) :
    entry name slots owner = some slot := by
  cases found : entry name slots owner with
  | none => exact absurd named (entry_eq_none.mp found slot (List.mem_of_getElem? atIndex))
  | some other =>
      obtain ⟨place, atPlace, otherNamed⟩ := entry_at found
      have same := distinct place index other slot owner atPlace atIndex otherNamed named
      rw [same, atIndex] at atPlace
      exact atPlace.symm

/-- Writing a slot leaves the entry of every name that neither the old nor the
new slot carries. -/
theorem Distinct.entry_set_other {index : Nat} {old new : Slot}
    (afterwards : Distinct name (slots.set index new))
    (atIndex : slots[index]? = some old) {owner : Name}
    (notOld : name old ≠ some owner) (notNew : name new ≠ some owner) :
    entry name (slots.set index new) owner = entry name slots owner := by
  cases found : entry name slots owner with
  | none =>
      apply entry_eq_none.mpr
      intro slot member
      cases List.mem_or_eq_of_mem_set member with
      | inl before => exact entry_eq_none.mp found slot before
      | inr isNew => exact isNew ▸ notNew
  | some slot =>
      obtain ⟨place, atPlace, named⟩ := entry_at found
      have elsewhere : index ≠ place := by
        intro same
        rw [← same, atIndex] at atPlace
        exact notOld (Option.some.inj atPlace ▸ named)
      have stillThere : (slots.set index new)[place]? = some slot := by
        rw [List.getElem?_set_ne elsewhere]
        exact atPlace
      exact afterwards.entry_eq stillThere named

end Entry

/-! ## Finding room -/

/-- Every slot is used when none is free, so the names number the slots. -/
theorem length_names :
    ∀ {slots : List Slot}, (∀ slot ∈ slots, name slot ≠ none) →
      (slots.filterMap name).length = slots.length
  | [], _ => rfl
  | slot :: rest, used => by
      obtain ⟨owner, named⟩ := Option.ne_none_iff_exists'.mp (used slot List.mem_cons_self)
      rw [List.filterMap_cons_some named, List.length_cons, List.length_cons,
        length_names fun other member => used other (List.mem_cons_of_mem _ member)]

/-- A name of the pool that no slot carries finds a free slot, if there are at
least as many slots as names. -/
theorem Distinct.exists_free [DecidableEq Name] (distinct : Distinct name slots)
    (pool : Finset Name) (extra : Name)
    (inPool : ∀ slot ∈ slots, ∀ owner, name slot = some owner → owner ∈ pool)
    (extraInPool : extra ∈ pool) (absent : ∀ slot ∈ slots, name slot ≠ some extra)
    (enough : pool.card ≤ slots.length) : ∃ slot ∈ slots, name slot = none := by
  by_contra noneFree
  have used : ∀ slot ∈ slots, name slot ≠ none := fun slot member isFree =>
    noneFree ⟨slot, member, isFree⟩
  have notAgain : extra ∉ slots.filterMap name := by
    intro again
    obtain ⟨slot, member, named⟩ := List.mem_filterMap.mp again
    exact absent slot member named
  have contained : (extra :: slots.filterMap name).toFinset ⊆ pool := by
    intro owner member
    cases List.mem_cons.mp (List.mem_toFinset.mp member) with
    | inl isExtra => exact isExtra ▸ extraInPool
    | inr inSlots =>
        obtain ⟨slot, slotMember, named⟩ := List.mem_filterMap.mp inSlots
        exact inPool slot slotMember owner named
  have counted := Finset.card_le_card contained
  rw [List.toFinset_card_of_nodup (List.nodup_cons.mpr ⟨notAgain, distinct.names_nodup⟩),
    List.length_cons, length_names used] at counted
  omega

end JooanW3U.Library.Slots

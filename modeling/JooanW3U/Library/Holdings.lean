import Mathlib.Data.List.Nodup

/-!
Owns what several holders hold of one kind of thing, each a list of it, when nothing is held
twice: giving one holder other things, taking things away, and counting all of them.

Does not own what the things are, or how a free one is found.
-/

namespace JooanW3U.Library

universe u v

variable {Holder : Type u} {Thing : Type v}

/-- Nothing is held twice, by one holder or by two. -/
structure Exclusive (held : Holder → List Thing) : Prop where
  once : ∀ holder, (held holder).Nodup
  apart : ∀ holder other, holder ≠ other → (held holder).Disjoint (held other)

namespace Exclusive

variable {held : Holder → List Thing}

theorem empty : Exclusive fun _ : Holder => ([] : List Thing) :=
  ⟨fun _ => List.nodup_nil, fun _ _ _ => List.disjoint_nil_left _⟩

/-- One holder may be given things that none of the others holds. -/
theorem update [DecidableEq Holder] (exclusive : Exclusive held) {holder : Holder}
    {things : List Thing} (distinct : things.Nodup)
    (free : ∀ other, other ≠ holder → things.Disjoint (held other)) :
    Exclusive (Function.update held holder things) where
  once := by
    intro one
    by_cases same : one = holder
    · rw [same, Function.update_self]
      exact distinct
    · rw [Function.update_of_ne same]
      exact exclusive.once one
  apart := by
    intro one other differ
    by_cases first : one = holder
    · rw [first, Function.update_self, Function.update_of_ne (first ▸ differ.symm)]
      exact free other (first ▸ differ.symm)
    · by_cases second : other = holder
      · rw [second, Function.update_self, Function.update_of_ne first]
        exact List.disjoint_symm (free one first)
      · rw [Function.update_of_ne first, Function.update_of_ne second]
        exact exclusive.apart one other differ

/-- All that some holders hold is pairwise distinct. -/
theorem nodup_flatMap (exclusive : Exclusive held) {holders : List Holder}
    (distinct : holders.Nodup) : (holders.flatMap held).Nodup :=
  List.nodup_flatMap.mpr ⟨fun holder _ => exclusive.once holder,
    distinct.imp fun differ => exclusive.apart _ _ differ⟩

end Exclusive

end JooanW3U.Library

import Mathlib.Data.List.Flatten
import Mathlib.Data.List.Perm.Basic
import Mathlib.Data.List.Pairwise
import Mathlib.Logic.Function.Basic

/-!
Owns ledgers of resources that need one another: what is held after a record of
acquisitions and releases, when a batch of releases settles it, and the releases a set
of flags stands for, in a fixed order.

Does not own what the resources are or who keeps the flags.
-/

namespace JooanW3U.Library

universe u v

namespace Ledger

/-- One act on the resources. -/
inductive Act (Resource : Type u)
  | acquired (resource : Resource)
  | released (resource : Resource)
deriving Repr, DecidableEq

section Settling

variable {Resource : Type u} [DecidableEq Resource] (needs : Resource → Resource → Bool)

/-- What is held after the acts. Nothing, where one released what was not held or what
something held still needed. -/
def settle : List (Act Resource) → List Resource → Option (List Resource)
  | [], held => some held
  | .acquired resource :: acts, held => settle acts (resource :: held)
  | .released resource :: acts, held =>
      if resource ∈ held ∧ ∀ other ∈ held, needs other resource = false then
        settle acts (held.erase resource)
      else none

theorem settle_append (first second : List (Act Resource)) (held : List Resource) :
    settle needs (first ++ second) held = (settle needs first held).bind (settle needs second) := by
  induction first generalizing held with
  | nil => rfl
  | cons act acts inductionHypothesis =>
      cases act with
      | acquired resource => exact inductionHypothesis (resource :: held)
      | released resource =>
          simp only [List.cons_append, settle]
          split
          · exact inductionHypothesis (held.erase resource)
          · rfl

/-- Behind settled acts, the acts that follow start from what is held. -/
theorem settle_after {acts more : List (Act Resource)} {start held : List Resource}
    (settled : settle needs acts start = some held) :
    settle needs (acts ++ more) start = settle needs more held := by
  rw [settle_append, settled, Option.bind_some]

variable {needs}

/-- Releases in an order in which nothing later needs anything earlier leave the rest,
if nothing of the rest needs any of them. -/
theorem settle_released {order kept held : List Resource} (has : held.Perm (order ++ kept))
    (itself : ∀ resource ∈ order, needs resource resource = false)
    (ordered : order.Pairwise fun early late => needs late early = false)
    (free : ∀ resource ∈ order, ∀ other ∈ kept, needs other resource = false) :
    ∃ rest, settle needs (order.map .released) held = some rest ∧ rest.Perm kept := by
  induction order generalizing held with
  | nil => exact ⟨held, rfl, has⟩
  | cons resource order inductionHypothesis =>
      obtain ⟨first, later⟩ := List.pairwise_cons.mp ordered
      have inside : resource ∈ held := has.mem_iff.mpr (List.mem_cons_self ..)
      have unneeded : ∀ other ∈ held, needs other resource = false := by
        intro other member
        rcases List.mem_cons.mp (has.mem_iff.mp member) with same | others
        · rw [same]
          exact itself resource (.head _)
        · rcases List.mem_append.mp others with behind | left
          · exact first other behind
          · exact free resource (.head _) other left
      have rest : (held.erase resource).Perm (order ++ kept) := by
        have erased := has.erase resource
        rwa [List.cons_append, List.erase_cons_head] at erased
      have go := inductionHypothesis rest (fun r member => itself r (.tail _ member)) later
        fun r member => free r (.tail _ member)
      rw [List.map_cons, settle, if_pos ⟨inside, unneeded⟩]
      exact go

/-- Settled releases were held, each as often as it was released. -/
theorem perm_of_settle_released {order held rest : List Resource}
    (settled : settle needs (order.map .released) held = some rest) :
    held.Perm (order ++ rest) := by
  induction order generalizing held with
  | nil =>
      rw [← Option.some.inj settled]
      rfl
  | cons resource order inductionHypothesis =>
      rw [List.map_cons, settle] at settled
      split at settled
      · next inside =>
          exact (List.perm_cons_erase inside.1).trans ((inductionHypothesis settled).cons resource)
      · exact absurd settled nofun

/-- What is held was held before, or acquired by the acts. -/
theorem acquired_of_settled {acts : List (Act Resource)} {start held : List Resource}
    (settled : settle needs acts start = some held) {resource : Resource}
    (member : resource ∈ held) : resource ∈ start ∨ Act.acquired resource ∈ acts := by
  induction acts generalizing start with
  | nil =>
      cases settled
      exact .inl member
  | cons act acts inductionHypothesis =>
      cases act with
      | acquired other =>
          rcases inductionHypothesis settled with before | later
          · rcases List.mem_cons.mp before with rfl | before
            · exact .inr (.head _)
            · exact .inl before
          · exact .inr (.tail _ later)
      | released other =>
          rw [settle] at settled
          split at settled
          · rcases inductionHypothesis settled with before | later
            · exact .inl (List.mem_of_mem_erase before)
            · exact .inr (.tail _ later)
          · exact absurd settled nofun

/-- What the last releases of settled acts gave back was held before them. -/
theorem held_of_released {acts : List (Act Resource)} {start order rest : List Resource}
    (settled : settle needs (acts ++ order.map .released) start = some rest) {resource : Resource}
    (member : resource ∈ order) : ∃ held, settle needs acts start = some held ∧ resource ∈ held := by
  rw [settle_append] at settled
  obtain ⟨held, first, releases⟩ := Option.bind_eq_some_iff.mp settled
  have same := perm_of_settle_released releases
  exact ⟨held, first, same.mem_iff.mpr (List.mem_append_left rest member)⟩

/-! ### What is held -/

variable (needs) in
/-- The acts settle, and afterwards these resources are held, in some order. -/
def Holds (acts : List (Act Resource)) (resources : List Resource) : Prop :=
  ∃ held, settle needs acts [] = some held ∧ held.Perm resources

namespace Holds

variable {acts : List (Act Resource)} {resources kept order : List Resource} {resource : Resource}

theorem nil : Holds needs [] [] :=
  ⟨[], rfl, .nil⟩

theorem perm (holds : Holds needs acts resources) (same : resources.Perm kept) :
    Holds needs acts kept := by
  obtain ⟨held, settled, has⟩ := holds
  exact ⟨held, settled, has.trans same⟩

theorem acquired (holds : Holds needs acts resources) :
    Holds needs (acts ++ [.acquired resource]) (resource :: resources) := by
  obtain ⟨held, settled, has⟩ := holds
  exact ⟨resource :: held, settle_after needs settled, has.cons resource⟩

theorem released (holds : Holds needs acts (order ++ kept))
    (itself : ∀ resource ∈ order, needs resource resource = false)
    (ordered : order.Pairwise fun early late => needs late early = false)
    (free : ∀ resource ∈ order, ∀ other ∈ kept, needs other resource = false) :
    Holds needs (acts ++ order.map .released) kept := by
  obtain ⟨held, settled, has⟩ := holds
  obtain ⟨rest, releases, left⟩ := settle_released has itself ordered free
  exact ⟨rest, (settle_after needs settled).trans releases, left⟩

/-- Nothing is held exactly when the acts settle to nothing. -/
theorem nil_iff : Holds needs acts [] ↔ settle needs acts [] = some [] := by
  constructor
  · rintro ⟨held, settled, has⟩
    rw [settled, has.eq_nil]
  · intro settled
    exact ⟨[], settled, .nil⟩

end Holds

end Settling

/-! ## Flags -/

section Flags

variable {Flag : Type u} {Resource : Type v} [DecidableEq Flag]

/-- The releases of the flags that are set, in the order of all flags. -/
def recorded (order : List Flag) (release : Flag → List Resource) (flags : Flag → Bool) :
    List Resource :=
  (order.filter flags).flatMap release

variable {order : List Flag} {release : Flag → List Resource} {flags : Flag → Bool} {flag : Flag}

theorem recorded_congr {other : Flag → List Resource}
    (same : ∀ flag ∈ order, flags flag = true → release flag = other flag) :
    recorded order release flags = recorded order other flags := by
  apply List.flatMap_congr
  intro flag member
  exact same flag (List.mem_filter.mp member).1 (List.mem_filter.mp member).2

/-- A flag that is set adds its releases. -/
theorem recorded_set (distinct : order.Nodup) (member : flag ∈ order) (clear : flags flag = false) :
    (recorded order release (Function.update flags flag true)).Perm
      (release flag ++ recorded order release flags) := by
  induction order with
  | nil => exact absurd member nofun
  | cons first order inductionHypothesis =>
      obtain ⟨fresh, distinct⟩ := List.nodup_cons.mp distinct
      by_cases same : flag = first
      · subst same
        have others : order.filter (Function.update flags flag true) = order.filter flags := by
          apply List.filter_congr
          intro other inside
          apply Function.update_of_ne
          rintro rfl
          exact fresh inside
        have set : Function.update flags flag true flag = true := Function.update_self ..
        unfold recorded
        rw [List.filter_cons_of_pos set, List.filter_cons_of_neg (by simp [clear]), others]
        rfl
      · have rest := inductionHypothesis distinct ((List.mem_cons.mp member).resolve_left same)
        have kept : Function.update flags flag true first = flags first :=
          Function.update_of_ne (Ne.symm same) ..
        unfold recorded at rest ⊢
        by_cases before : flags first = true
        · rw [List.filter_cons_of_pos (kept.trans before), List.filter_cons_of_pos before]
          simp only [List.flatMap_cons]
          exact ((rest.append_left (release first)).trans
            (List.perm_append_comm_assoc (release first) (release flag) _))
        · rw [List.filter_cons_of_neg (kept ▸ before), List.filter_cons_of_neg before]
          exact rest

/-- A flag that is cleared takes its releases away. -/
theorem recorded_clear (distinct : order.Nodup) (member : flag ∈ order) (set : flags flag = true) :
    (recorded order release flags).Perm
      (release flag ++ recorded order release (Function.update flags flag false)) := by
  have back : Function.update (Function.update flags flag false) flag true = flags := by
    rw [Function.update_idem, ← set, Function.update_eq_self]
  have added := @recorded_set _ _ _ order release (Function.update flags flag false) flag distinct
    member (Function.update_self ..)
  rwa [back] at added

theorem recorded_sublist : (recorded order release flags).Sublist (order.flatMap release) :=
  List.filter_sublist.flatMap release

end Flags

end Ledger

end JooanW3U.Library

import Gradual.Proofs.Precision
import Gradual.Proofs.Typing
import Gradual.Proofs.Wildcard

/-!
# Assignability

Two types agree if the wildcards of either can be filled in so that they become
the same. A type in the middle passes on what its neighbours agree with, unless a
wildcard in it hides that they do not agree with each other.
-/

namespace Gradual

namespace Ty

variable {t u v : Ty}

/-- A type without wildcards has no part that could be filled in. -/
theorem LessPrecise.eq_of_isPlain (h : LessPrecise t u) (ht : t.isPlain = true) : u = t := by
  induction h with
  | any => cases ht
  | refl => rfl
  | array _ ih => rw [ih ht]

/-- Two types agree exactly if they have a common refinement. -/
theorem assignable_iff_exists_lessPrecise :
    t.assignable u = true ↔ ∃ v, LessPrecise t v ∧ LessPrecise u v := by
  constructor
  · intro h
    induction assignable_iff_consistent.mp h with
    | refl t => exact ⟨t, .refl t, .refl t⟩
    | anyLeft u => exact ⟨u, .any u, .refl u⟩
    | anyRight t => exact ⟨t, .refl t, .any t⟩
    | array _ ih =>
        obtain ⟨v, ht, hu⟩ := ih h
        exact ⟨.array v, .array ht, .array hu⟩
  · rintro ⟨v, ht, hu⟩
    exact ht.assignable hu (assignable_refl v)

theorem assignable_comm (t u : Ty) : t.assignable u = u.assignable t := by
  rw [Bool.eq_iff_iff, assignable_iff_exists_lessPrecise, assignable_iff_exists_lessPrecise]
  exact exists_congr fun _ => and_comm

/-- Agreement is the same in both directions, so one direction decides. -/
theorem compatible_eq_assignable (t u : Ty) : t.compatible u = t.assignable u := by
  rw [compatible, assignable_comm u t, Bool.or_self]

/-- What agrees with a type without wildcards is less precise than it. -/
theorem lessPrecise_of_assignable (hu : u.isPlain = true) (h : t.assignable u = true) :
    LessPrecise t u := by
  obtain ⟨v, ht, hv⟩ := assignable_iff_exists_lessPrecise.mp h
  obtain rfl := hv.eq_of_isPlain hu
  exact ht

end Ty

/-- **Assignability is having a common refinement.** So the two directions never
differ, and compatibility is nothing else. It is not transitive, but what is
assignable to a type without wildcards is assignable to all that this type is
assignable to. -/
theorem assignable_iff_common_refinement :
    (∀ t u : Ty, t.assignable u = true ↔ ∃ v, t.LessPrecise v ∧ u.LessPrecise v) ∧
    (∀ t : Ty, t.assignable t = true) ∧
    (∀ t u : Ty, t.assignable u = u.assignable t) ∧
    (∀ t u : Ty, t.compatible u = t.assignable u) ∧
    (∀ t u : Ty, (Ty.array t).assignable (.array u) = t.assignable u) ∧
    (∃ t u v : Ty, t.assignable u = true ∧ u.assignable v = true ∧ t.assignable v = false) ∧
    ∀ t u v : Ty, u.isPlain = true → t.assignable u = true → u.assignable v = true →
      t.assignable v = true := by
  refine ⟨fun _ _ => Ty.assignable_iff_exists_lessPrecise, Ty.assignable_refl,
    Ty.assignable_comm, Ty.compatible_eq_assignable, Ty.array_assignable_array,
    ⟨.number, .any, .string, rfl, rfl, rfl⟩, ?_⟩
  intro t u v hplain htu huv
  -- The type in the middle is itself the common refinement of its neighbours.
  have ht : t.LessPrecise u := Ty.lessPrecise_of_assignable hplain htu
  have hv : v.LessPrecise u := by
    rw [Ty.assignable_comm] at huv
    exact Ty.lessPrecise_of_assignable hplain huv
  exact Ty.assignable_iff_exists_lessPrecise.mpr ⟨u, ht, hv⟩

theorem assignable_iff_common_refinement_arrays :
    let t : Ty := .array (.array .any)
    let u : Ty := .array (.array .string)
    let v : Ty := .array .any
    u.isPlain = true ∧ t.assignable u = true ∧ u.assignable v = true ∧ t.assignable v = true := by
  obtain ⟨-, -, -, -, -, -, hthrough⟩ := assignable_iff_common_refinement
  exact ⟨rfl, rfl, rfl, hthrough _ (.array (.array .string)) _ rfl rfl rfl⟩

end Gradual

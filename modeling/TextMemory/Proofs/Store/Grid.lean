import TextMemory.Proofs.Result
import TextMemory.Store.Basic

/-!
# Rows of vectors form a grid

Rows that are all arrays of one length form a grid of their number and that length: the first row
settles the shape, and each further one fits it. In such a grid the distances from a query of the
rows' length are those of the vectors.
-/
namespace TextMemory

namespace Outline

variable {rows width : Nat}

theorem visitAll_floats (xs : List Float) :
    visitAll 2 ⟨[rows, width], true, false⟩ (xs.map Json.float) = ⟨[rows, width], true, false⟩ := by
  induction xs with
  | nil => rfl
  | cons x xs ih =>
    rw [List.map_cons, visitAll]
    exact ih

theorem visit_row {v : List Float} (hv : v.length = width) :
    visit 1 ⟨[rows, width], true, false⟩ (.array (v.map Json.float)) =
      ⟨[rows, width], true, false⟩ := by
  have henter : enter ⟨[rows, width], true, false⟩ 1 (v.map Json.float).length =
      (⟨[rows, width], true, false⟩, true) := by
    simp [enter, hv]
  rw [visit, henter]
  exact visitAll_floats v

theorem visit_firstRow {v : List Float} (hv : v.length = width) :
    visit 1 ⟨[rows], false, false⟩ (.array (v.map Json.float)) = ⟨[rows, width], true, false⟩ := by
  have henter : enter ⟨[rows], false, false⟩ 1 (v.map Json.float).length =
      (⟨[rows, width], decide (width = 0), false⟩, true) := by
    simp [enter, deepest, hv]
  rw [visit, henter]
  cases v with
  | nil =>
    subst hv
    rfl
  | cons x v =>
    have hwidth : decide (width = 0) = false := by
      rw [← hv]
      rfl
    rw [hwidth]
    exact visitAll_floats v

theorem visitAll_rows {vs : List (List Float)} (hvs : ∀ v ∈ vs, v.length = width) :
    visitAll 1 ⟨[rows, width], true, false⟩ (vs.map fun v => .array (v.map Json.float)) =
      ⟨[rows, width], true, false⟩ := by
  induction vs with
  | nil => rfl
  | cons v vs ih =>
    rw [List.map_cons, visitAll, visit_row (hvs v List.mem_cons_self)]
    exact ih fun w hw => hvs w (List.mem_cons_of_mem v hw)

end Outline

namespace Grid

variable {vs : List (List Float)} {width : Nat}

theorem shapeOf_vectors (hne : vs ≠ []) (hvs : ∀ v ∈ vs, v.length = width) :
    shapeOf (vs.map fun v => .array (v.map Json.float)) = .ok [vs.length, width] := by
  cases vs with
  | nil => exact absurd rfl hne
  | cons v vs =>
    have henter : Outline.enter ⟨[], false, false⟩ 0
        ((v :: vs).map fun v => Json.array (v.map Json.float)).length =
        (⟨[(v :: vs).length], false, false⟩, true) := by
      simp [Outline.enter, Outline.deepest]
    have hvisit : Outline.visit 0 ⟨[], false, false⟩
        (.array ((v :: vs).map fun v => .array (v.map Json.float))) =
        ⟨[(v :: vs).length, width], true, false⟩ := by
      rw [Outline.visit, henter]
      simp only [if_true, List.map_cons]
      rw [Outline.visitAll, Outline.visit_firstRow (hvs v List.mem_cons_self)]
      exact Outline.visitAll_rows fun w hw => hvs w (List.mem_cons_of_mem v hw)
    rw [shapeOf, hvisit]
    rfl

theorem allLeaves_floats (v : List Float) : allLeaves (v.map Json.float) = v.map Json.float := by
  induction v with
  | nil => rfl
  | cons x v ih =>
    rw [List.map_cons, allLeaves, ih]
    rfl

theorem leaves_vector (v : List Float) : leaves (.array (v.map Json.float)) = v.map Json.float := by
  rw [leaves, allLeaves_floats]

theorem read_vectors (hne : vs ≠ []) (hvs : ∀ v ∈ vs, v.length = width) :
    read (vs.map fun v => .array (v.map Json.float)) = .ok ⟨[vs.length, width], vs⟩ := by
  have hrows : (vs.map fun v => Json.array (v.map Json.float)).mapM
      (fun r => (leaves r).mapM component) = .ok vs := by
    rw [Result.mapM_eq_ok, List.forall₂_map_left_iff, List.forall₂_same]
    intro v hv
    rw [leaves_vector, Result.mapM_eq_ok, List.forall₂_map_left_iff, List.forall₂_same]
    exact fun x hx => rfl
  exact Result.bind_eq_ok.mpr ⟨_, shapeOf_vectors hne hvs, Result.bind_eq_ok.mpr ⟨vs, hrows, rfl⟩⟩

theorem distances_vectors [Numerics] {query : List Float}
    (hquery : query.length = width) (n : Nat) :
    distances ⟨[n, width], vs⟩ query = .ok (Similarity.distances vs query) := by
  simp [distances, hquery]

end Grid

namespace Store

def Vectors (rows : List Row) (vs : List (List Float)) : Prop :=
  List.Forall₂ (fun r v => Embedding.read r.embedding = .ok (.array (v.map Json.float))) rows vs

theorem Vectors.mapM {rows : List Row} {vs : List (List Float)} (h : Vectors rows vs) :
    rows.mapM (fun r => Embedding.read r.embedding) =
      .ok (vs.map fun v => .array (v.map Json.float)) :=
  Result.mapM_eq_ok.mpr (List.forall₂_map_right_iff.mpr h)

theorem rowDistances_vectors [Numerics] {rows : List Row} {vs : List (List Float)}
    {query : List Number} (h : Vectors rows vs)
    (hne : rows ≠ []) (hvs : ∀ v ∈ vs, v.length = query.length) :
    rowDistances rows query = (Embedding.floats query).map fun q =>
      rows.zip (Similarity.distances vs q) := by
  have hne' : vs ≠ [] := by
    rintro rfl
    cases h
    exact hne rfl
  rw [rowDistances, h.mapM, Result.ok_bind, Grid.read_vectors hne' hvs, Result.ok_bind]
  cases hq : Embedding.floats query with
  | error f => rfl
  | ok q =>
    have hlength : q.length = query.length := (Result.mapM_eq_ok.mp hq).length_eq.symm
    rw [Result.ok_bind, Grid.distances_vectors hlength]
    rfl

end Store
end TextMemory

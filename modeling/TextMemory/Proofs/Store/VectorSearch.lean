import TextMemory.Proofs.Precedence
import TextMemory.Proofs.Similarity
import TextMemory.Proofs.Store.Answer

/-!
# What a search by a vector finds

All rows are ranked by their distance from the vector, those that are equally far by their ids.
There is one such ranking, and a search gives as much of its beginning as it is asked for. All this
holds whatever lengths and products the numerical library finds.
-/
namespace TextMemory

open TextMemory.Action Similarity

namespace Store

/-- The one row is nearer, or as far and older. -/
def Leads (a b : Row × Float) : Prop :=
  Nearer a.2 b.2 ∨ (EquallyFar a.2 b.2 ∧ a.1.id < b.1.id)

theorem Leads.asymm {a b : Row × Float} (hab : Leads a b) (hba : Leads b a) : False := by
  rw [Leads, nearer_iff, equallyFar_iff] at hab hba
  have htotal := before_total a.2 b.2
  rcases hab with hab | ⟨⟨hab, -⟩, hid⟩ <;> rcases hba with hba | ⟨⟨hba, hba'⟩, hid'⟩
  · simp [hab, hba] at htotal
  · simp [hab] at hba
  · simp [hab] at hba
  · omega

theorem floats_of_floats (xs : List Float) : Embedding.floats (xs.map Number.float) = .ok xs := by
  rw [Embedding.floats, Result.mapM_eq_ok, List.forall₂_map_left_iff, List.forall₂_same]
  exact fun x _ => rfl

section

variable [Numerics] {s : Store} {xs : List Float} {rows : List Row}

def placed (xs : List Float) (rows : List Row) : List (Row × Float) :=
  rows.zip (distances (rows.map Row.vector) xs)

theorem placed_eq (xs : List Float) (rows : List Row) :
    placed xs rows = rows.zip (List.zipWith
      (fun norm product =>
        let size := norm * Numerics.norm xs
        let d := 1 - product / size
        if 0 < size then if d < 0 then 0 else if 2 < d then 2 else d else 1)
      (Numerics.norms (rows.map Row.vector)) (Numerics.products (rows.map Row.vector) xs)) := by
  simp only [placed, distances, distance_eq]

theorem placed_rows (xs : List Float) (rows : List Row) : (placed xs rows).map Prod.fst = rows := by
  refine List.map_fst_zip ?_
  rw [length_distances, List.length_map]

theorem length_placed (xs : List Float) (rows : List Row) :
    (placed xs rows).length = rows.length := by
  rw [← List.length_map Prod.fst, placed_rows]

theorem placed_of_zeros {p : Row × Float} (hp : p ∈ placed xs rows)
    (hzeros : (∀ c ∈ p.1.vector, c == 0) ∨ ∀ c ∈ xs, c == 0) : p.2 = 1 := by
  obtain ⟨i, hi⟩ := List.mem_iff_getElem?.mp hp
  obtain ⟨hrow, hfar⟩ := List.getElem?_zip_eq_some.mp hi
  have hvector : (rows.map Row.vector)[i]? = some p.1.vector := by
    rw [List.getElem?_map, hrow, Option.map_some]
  rw [distances, List.getElem?_zipWith_eq_some] at hfar
  obtain ⟨norm, product, hnorm, -, hp2⟩ := hfar
  rw [← hp2, distance_eq]
  rcases hzeros with hzeros | hzeros
  · rw [Numerics.norms_zeros _ i _ hvector hzeros] at hnorm
    obtain rfl := Option.some.inj hnorm
    rw [if_neg (not_zero_lt_zero_mul _)]
  · rw [Numerics.norm_zeros xs hzeros, if_neg (not_zero_lt_mul_zero _)]

theorem nearestFirst_leads (hrows : rows.Pairwise fun a b => a.id < b.id) :
    (nearestFirst (placed xs rows)).Pairwise Leads := by
  have hplaced : (placed xs rows).Pairwise fun a b => a.1.id < b.1.id := by
    rw [← placed_rows xs rows, List.pairwise_map] at hrows
    exact hrows
  have hsorted := Precedence.pairwise_mergeSort (fun a b : Row × Float => before a.2 b.2)
    (fun a b c => before_trans _ _ _) (fun a b => before_total _ _) hplaced
  refine hsorted.imp fun {a b} hab => ?_
  obtain ⟨hbefore, hties⟩ := hab
  cases hback : before b.2 a.2 with
  | true => exact .inr ⟨equallyFar_iff.mpr ⟨hbefore, hback⟩, hties hback⟩
  | false => exact .inl (nearer_iff.mpr hback)

/-- The ranking by distance and id is the only one. -/
theorem nearestFirst_unique (hrows : rows.Pairwise fun a b => a.id < b.id)
    (other : List (Row × Float)) :
    other.Perm (placed xs rows) ∧ other.Pairwise Leads ↔ other = nearestFirst (placed xs rows) := by
  have hsame : (nearestFirst (placed xs rows)).Perm (placed xs rows) := List.mergeSort_perm _ _
  constructor
  · rintro ⟨hperm, hleads⟩
    apply List.Perm.eq_of_pairwise _ hleads (nearestFirst_leads hrows) (hperm.trans hsame.symm)
    intro a b _ _ hab hba
    exact (hab.asymm hba).elim
  · rintro rfl
    exact ⟨hsame, nearestFirst_leads hrows⟩

namespace History

/-- Whatever has been called, a search by a vector as wide as the database ranks all rows by their
cosine distance from it, those that are equally far by their ids, and there is no other such
ranking. It gives the first of them, each with the score of its own distance; who asks for more gets
more behind the same, until each row is there once. -/
theorem vectorSearch_ranks {m : Medium} (hm : m.database? = none) (es : List Event) {s : Store}
    (hs : s.medium = ((start m).run es).medium) (hready : s.Ready) {xs : List Float}
    (hxs : (xs.length : Int) = s.dimensions) :
    let rows := s.medium.table.rows
    let vectors := rows.map Row.vector
    let far := fun norm product : Float =>
      let size := norm * Numerics.norm xs
      let d := 1 - product / size
      if 0 < size then if d < 0 then 0 else if 2 < d then 2 else d else 1
    let placed := rows.zip
      (List.zipWith far (Numerics.norms vectors) (Numerics.products vectors xs))
    (∀ r ∈ rows, Embedding.read r.embedding = .ok (.array (r.vector.map Json.float)) ∧
      r.vector.length = xs.length) ∧
    placed.map Prod.fst = rows ∧
    (∀ p ∈ placed, ((∀ c ∈ p.1.vector, c == 0) ∨ ∀ c ∈ xs, c == 0) → p.2 = 1) ∧
    ∃ ranked : List (Row × Float), ∃ hits : Int → List Hit,
      (∀ other : List (Row × Float), (other.Perm placed ∧ other.Pairwise fun a b =>
        Nearer a.2 b.2 ∨ (EquallyFar a.2 b.2 ∧ a.1.id < b.1.id)) ↔ other = ranked) ∧
      (∀ limit, 1 ≤ limit → ∃ t,
        (vectorSearch (xs.map Number.float) limit).perform s = (.ok (hits limit), t)) ∧
      (∀ limit, 1 ≤ limit → hits limit =
        (ranked.take (min limit.toNat rows.length)).map fun p => hitOf p.1 (1 - p.2 / 2)) ∧
      (∀ limit more, limit ≤ more → hits limit <+: hits more) ∧
      ∀ limit : Int, rows.length ≤ limit →
        hits limit = ranked.map fun p => hitOf p.1 (1 - p.2 / 2) := by
  intro rows vectors far placed
  have hplaced : placed = Store.placed xs rows := (placed_eq xs rows).symm
  clear_value placed
  subst hplaced
  have htable : m.table = Table.empty := by
    rw [Medium.table, hm]
    rfl
  have hids : rows.Pairwise fun a b => a.id < b.id := by
    change s.medium.table.rows.Pairwise _
    rw [hs]
    exact ((numbered_start htable).run es).sound.ids
  have hwide : ∀ r ∈ rows, Wide s.medium.dimensions? r := by
    change ∀ r ∈ s.medium.table.rows, _
    rw [hs]
    exact wide_run hm es
  have hlength : (nearestFirst (Store.placed xs rows)).length = rows.length := by
    rw [nearestFirst, List.length_mergeSort, length_placed]
  refine ⟨?_, placed_rows xs rows, fun p hp =>
    placed_of_zeros hp, nearestFirst (Store.placed xs rows),
    fun limit => ((nearestFirst (Store.placed xs rows)).take limit.toNat).map fun p =>
      hitOf p.1 (score p.2), nearestFirst_unique hids, ?_, ?_, ?_, ?_⟩
  · intro r hr
    obtain ⟨hread, hsize⟩ := hready.read_vector (hwide r hr)
    exact ⟨hread, by omega⟩
  · intro limit hlimit
    have hsize : ((xs.map Number.float).length : Int) = s.dimensions := by rwa [List.length_map]
    obtain ⟨t, ht, -⟩ := hready.vectorSearch hwide hsize (floats_of_floats xs) hlimit
    exact ⟨t, ht⟩
  · intro limit hlimit
    rw [← hlength, ← List.take_eq_take_min]
    rfl
  · intro limit more hmore
    exact (List.take_prefix_take_left (by omega)).map _
  · intro limit hall
    dsimp only
    rw [List.take_of_length_le (by omega)]
    rfl

end History

end

namespace History

private def pointing : List Event := [
  .enter "memory.db" 2 .noon,
  .call 0 .noon (.writeBatch [
    .daily "north" "A" [.int 0, .int 1] 0, .daily "east" "A" [.int 1, .int 0] 1,
    .daily "south" "A" [.int 0, .int (-1)] 2, .daily "hill" "A" [.int 3, .int 4] 3])]

private def compass : Store :=
  ⟨"memory.db", 2, false, false, ((start .blank).run pointing).medium, .noon, []⟩

private def eastward : List (Row × Float) :=
  [(1, 0), (3, 0.4), (0, 1), (2, 1)].filterMap fun (i, distance) =>
    (compass.medium.table.rows[i]?).map fun r => (r, distance)

/-- North and south are equally far from the east, and of three and four parts three point there. -/
theorem vectorSearch_ranks_of_compass :
    compass.Ready ∧ (([3, 0] : List Float).length : Int) = compass.dimensions ∧
      ∃ hits t, (vectorSearch [.float 3, .float 0] 3).perform compass = (.ok hits, t) ∧
        hits.map (fun hit => (hit.content, hit.score)) =
          [("east", 1), ("hill", 0.8), ("north", 0.5)] := by
  have hready : compass.Ready := .inr (by decide +kernel)
  have hwidth : (([3, 0] : List Float).length : Int) = compass.dimensions := by decide
  have hblank : Medium.blank.database? = none := rfl
  obtain ⟨-, -, -, ranked, hits, hunique, hsearch, hhits, -, -⟩ :=
    vectorSearch_ranks hblank pointing rfl hready hwidth
  have hranked : eastward = ranked := (hunique eastward).mp ⟨by decide +kernel, by decide +kernel⟩
  obtain ⟨t, ht⟩ := hsearch 3 (by decide)
  refine ⟨hready, hwidth, hits 3, t, ht, ?_⟩
  rw [hhits 3 (by decide), ← hranked]
  decide +kernel

end History

end Store
end TextMemory
